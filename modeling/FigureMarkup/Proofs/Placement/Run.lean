import FigureMarkup.Proofs.Placement.Placing

/-!
# Runs of placement

A run goes on by putting points that wait somewhere, and keeps a record of them. The points that a
round leaves are those that still wait, so the worklist of a run agrees with the registry at every
pass, whatever the rules and the source of random numbers answer.
-/

namespace FigureMarkup.Placement

open Figure Plane

variable {σ α : Type}

/-! ## Going on -/

/-- A run goes on from another one by putting some of the given points somewhere. -/
def Extends (ids : List PointId) (before after : Run σ α) : Prop :=
  ∃ placed : List (PointId × Vec α), (∀ id ∈ placed.map Prod.fst, id ∈ ids) ∧
    before.registry.Fresh placed ∧ after.registry = before.registry.placePoints placed ∧
    after.placed = before.placed ++ placed

namespace Extends

variable {ids : List PointId} {before middle after : Run σ α}

theorem refl (ids : List PointId) (run : Run σ α) : Extends ids run run :=
  ⟨[], by simp, trivial, rfl, by simp⟩

theorem trans (one : Extends ids before middle) (two : Extends ids middle after) :
    Extends ids before after := by
  obtain ⟨first, inside, fresh, registry, record⟩ := one
  obtain ⟨second, alsoInside, alsoFresh, laterRegistry, laterRecord⟩ := two
  rw [registry] at alsoFresh laterRegistry
  refine ⟨first ++ second, fun id member => ?_, Registry.fresh_append.2 ⟨fresh, alsoFresh⟩, ?_, ?_⟩
  · rw [List.map_append, List.mem_append] at member
    exact member.elim (inside id) (alsoInside id)
  · rw [laterRegistry, Registry.placePoints_append]
  · rw [laterRecord, record, List.append_assoc]

theorem mono {more : List PointId} (one : Extends ids before after)
    (included : ∀ id ∈ ids, id ∈ more) : Extends more before after := by
  obtain ⟨placed, inside, fresh, registry, record⟩ := one
  exact ⟨placed, fun id member => included id (inside id member), fresh, registry, record⟩

theorem cons (one : Extends ids before after) (id : PointId) : Extends (id :: ids) before after :=
  one.mono fun _ member => List.mem_cons_of_mem id member

theorem place {id : PointId} (run : Run σ α) (waiting : run.registry.awaits id = true)
    (member : id ∈ ids) (position : Vec α) (source : σ) :
    Extends ids run (run.place id position source) := by
  refine ⟨[(id, position)], ?_, ⟨waiting, trivial⟩, rfl, rfl⟩
  simpa using member

theorem holds_iff (one : Extends ids before after) {entity : EntityRef} :
    after.registry.Holds entity ↔ before.registry.Holds entity := by
  obtain ⟨placed, -, -, registry, -⟩ := one
  rw [registry]
  exact (before.registry.sameNames_placePoints placed).holds_iff

theorem awaits_before (one : Extends ids before after) {id : PointId}
    (waiting : after.registry.awaits id = true) : before.registry.awaits id = true := by
  obtain ⟨placed, -, fresh, registry, -⟩ := one
  rw [registry] at waiting
  exact Registry.awaits_of_awaits_placePoints fresh waiting

/-- A point that has a place keeps it. -/
theorem not_awaits (one : Extends ids before after) {id : PointId}
    (known : before.registry.awaits id = false) : after.registry.awaits id = false := by
  cases waiting : after.registry.awaits id with
  | false => rfl
  | true => exact (one.awaits_before waiting).symm.trans known

/-- A run does not touch other points than those that it may put somewhere. -/
theorem awaits_of_notMem (one : Extends ids before after) {id : PointId} (absent : id ∉ ids)
    (waiting : before.registry.awaits id = true) : after.registry.awaits id = true := by
  have held : after.registry.Holds (.point id) ↔ before.registry.Holds (.point id) := one.holds_iff
  obtain ⟨placed, inside, -, registry, -⟩ := one
  rw [Registry.awaits_iff] at waiting ⊢
  refine ⟨held.2 waiting.1, ?_⟩
  rw [registry, Registry.position_placePoints_of_notMem _ fun member => absent (inside id member)]
  exact waiting.2

theorem awaits_filter (one : Extends ids before after) (all : List PointId) :
    (all.filter before.registry.awaits).filter after.registry.awaits =
      all.filter after.registry.awaits := by
  rw [List.filter_filter]
  refine List.filter_congr fun id _ => ?_
  cases waiting : after.registry.awaits id with
  | false => rfl
  | true => simp [one.awaits_before waiting]

end Extends

theorem not_awaits_place {run : Run σ α} {id : PointId} (waiting : run.registry.awaits id = true)
    (position : Vec α) (source : σ) :
    (run.place id position source).registry.awaits id = false := by
  have fresh : run.registry.Fresh [(id, position)] := ⟨waiting, trivial⟩
  exact Registry.not_awaits_of_placed fresh (by simp)

/-! ## The weaker rules -/

section Rules

variable (settings : Settings α)

theorem extends_placeFirst (rule : Rule σ α) (run : Run σ α) {ids : List PointId}
    (waiting : ∀ id ∈ ids, run.registry.awaits id = true) :
    Extends ids run (placeFirst settings rule run ids).2 := by
  induction ids with
  | nil => exact .refl [] run
  | cons id ids ih =>
      rw [placeFirst]
      split
      · exact .refl _ run
      · exact .place run (waiting id List.mem_cons_self) List.mem_cons_self _ _
      · have rest := ih fun other member => waiting other (List.mem_cons_of_mem id member)
        exact rest.cons id

/-- A rule that places no point of a list has been tried on all of them. -/
theorem placeFirst_stuck {rule : Rule σ α} {run later : Run σ α} {ids : List PointId}
    (done : placeFirst settings rule run ids = (.ok none, later)) :
    later = run ∧ ∀ id ∈ ids, rule settings run.registry id run.source = .ok none := by
  induction ids with
  | nil =>
      cases done
      exact ⟨rfl, by simp⟩
  | cons id ids ih =>
      rw [placeFirst] at done
      rcases refused : rule settings run.registry id run.source with error | _ | ⟨position, source⟩
      · simp [refused] at done
      · simp only [refused] at done
        obtain ⟨same, others⟩ := ih done
        refine ⟨same, ?_⟩
        rintro other (_ | ⟨_, member⟩)
        · exact refused
        · exact others other member
      · simp [refused] at done

theorem extends_placeByRules {run : Run σ α} {stuck : List PointId}
    (waiting : ∀ id ∈ stuck, run.registry.awaits id = true) (rules : List (Rule σ α)) :
    Extends stuck run (placeByRules settings run stuck rules).2 := by
  induction rules with
  | nil => exact .refl stuck run
  | cons rule rules ih =>
      have first := extends_placeFirst settings rule run waiting
      rw [placeByRules]
      rcases tried : placeFirst settings rule run stuck with ⟨error | _ | placed, later⟩
      · simpa only [tried] using first
      · obtain ⟨rfl, -⟩ := placeFirst_stuck settings tried
        exact ih
      · simpa only [tried] using first

/-- Rules that place no point have all been tried on all points. -/
theorem placeByRules_stuck {run later : Run σ α} {stuck : List PointId}
    {rules : List (Rule σ α)}
    (done : placeByRules settings run stuck rules = (.ok none, later)) :
    later = run ∧ ∀ rule ∈ rules, ∀ id ∈ stuck,
      rule settings run.registry id run.source = .ok none := by
  induction rules with
  | nil =>
      cases done
      exact ⟨rfl, by simp⟩
  | cons rule rules ih =>
      rw [placeByRules] at done
      rcases tried : placeFirst settings rule run stuck with ⟨error | _ | placed, next⟩
      · simp [tried] at done
      · obtain ⟨rfl, refused⟩ := placeFirst_stuck settings tried
        simp only [tried] at done
        obtain ⟨same, others⟩ := ih done
        refine ⟨same, ?_⟩
        rintro other (_ | ⟨_, member⟩)
        · exact refused
        · exact others other member
      · simp [tried] at done

/-- A rule that places a point has chosen one that it may place, and says where to put it. -/
theorem placeFirst_done {rule : Rule σ α} {run later : Run σ α} {ids : List PointId}
    {placed : PointId} (done : placeFirst settings rule run ids = (.ok (some placed), later)) :
    placed ∈ ids ∧ ∃ position source,
      rule settings run.registry placed run.source = .ok (some (position, source)) ∧
        later = run.place placed position source := by
  induction ids with
  | nil => cases done
  | cons id ids ih =>
      rw [placeFirst] at done
      rcases chosen : rule settings run.registry id run.source with
        error | _ | ⟨position, source⟩ <;> simp only [chosen] at done
      · cases done
      · exact (ih done).imp_left (List.mem_cons_of_mem id)
      · cases done
        exact ⟨List.mem_cons_self, position, source, chosen, rfl⟩

theorem placeByRules_done {run later : Run σ α} {stuck : List PointId}
    {rules : List (Rule σ α)} {placed : PointId}
    (done : placeByRules settings run stuck rules = (.ok (some placed), later)) :
    placed ∈ stuck ∧ ∃ rule ∈ rules, ∃ position source,
      rule settings run.registry placed run.source = .ok (some (position, source)) ∧
        later = run.place placed position source := by
  induction rules generalizing run with
  | nil => cases done
  | cons rule rules ih =>
      rw [placeByRules] at done
      rcases tried : placeFirst settings rule run stuck with ⟨error | _ | found, next⟩ <;>
        simp only [tried] at done
      · cases done
      · obtain ⟨rfl, -⟩ := placeFirst_stuck settings tried
        obtain ⟨member, other, among, chosen⟩ := ih done
        exact ⟨member, other, List.mem_cons_of_mem rule among, chosen⟩
      · cases done
        obtain ⟨member, chosen⟩ := placeFirst_done settings tried
        exact ⟨member, rule, List.mem_cons_self, chosen⟩

end Rules

variable [Scalar α] [Random.Source σ α] (settings : Settings α)

/-! ## Single visits -/

/-- An attempt at further points that leaves a point before them. -/
def Attempt.keep (id : PointId) (attempt : Attempt σ α (List PointId)) :
    Attempt σ α (List PointId) :=
  (attempt.1.map (id :: ·), attempt.2)

omit [Scalar α] [Random.Source σ α] in
theorem Attempt.of_keep_ok {id : PointId} {attempt : Attempt σ α (List PointId)}
    {left : List PointId} {later : Run σ α} (done : attempt.keep id = (.ok left, later)) :
    ∃ rest, attempt = (.ok rest, later) ∧ left = id :: rest := by
  obtain ⟨answer, run⟩ := attempt
  cases answer with
  | error error => cases done
  | ok rest =>
      cases done
      exact ⟨rest, rfl, rfl⟩

omit [Scalar α] [Random.Source σ α] in
theorem Attempt.of_keep_error {id : PointId} {attempt : Attempt σ α (List PointId)}
    {error : PlacementError} (failed : (attempt.keep id).1 = .error error) :
    attempt.1 = .error error := by
  obtain ⟨answer, run⟩ := attempt
  cases answer with
  | error => exact failed
  | ok => cases failed

theorem anywhere_ne_none (source : σ) : anywhere settings source ≠ .ok none := by
  unfold anywhere
  dsimp only
  split
  · simp
  · split <;> simp

/-- What scattering can do with a point before further ones. -/
inductive Scattering (run : Run σ α) (id : PointId) (ids : List PointId) :
    Attempt σ α (List PointId) → Prop
  | known (placed : run.registry.awaits id = false) :
      Scattering run id ids (scatter settings run ids)
  | put (waiting : run.registry.awaits id = true) (free : run.registry.waits id = false)
      (position : Vec α) (source : σ)
      (chosen : anywhere settings run.source = .ok (some (position, source))) :
      Scattering run id ids (scatter settings (run.place id position source) ids)
  | refused {error : PlacementError} (failed : anywhere settings run.source = .error error) :
      Scattering run id ids (.error error, run)
  | kept (waiting : run.registry.waits id = true) :
      Scattering run id ids (.keep id (scatter settings run ids))

theorem scattering (run : Run σ α) (id : PointId) (ids : List PointId) :
    Scattering settings run id ids (scatter settings run (id :: ids)) := by
  rw [scatter]
  cases stored : run.registry.point? id with
  | none => exact .known (by simp [Registry.awaits, stored])
  | some point =>
    dsimp only
    split
    case isTrue placed => exact .known (by simp [Registry.awaits, stored, placed])
    case isFalse unplaced =>
      split
      case isTrue random =>
        rcases chosen : anywhere settings run.source with error | _ | ⟨position, source⟩
        · exact .refused chosen
        · exact absurd chosen (anywhere_ne_none settings run.source)
        · refine .put ?_ ?_ position source chosen
          · simpa [Registry.awaits, stored] using unplaced
          · simp [Registry.waits, stored, random]
      case isFalse fixed =>
        have waiting : run.registry.waits id = true := by
          simpa [Registry.waits, stored, fixed] using unplaced
        have keeping : Scattering settings run id ids (.keep id (scatter settings run ids)) :=
          .kept waiting
        generalize scatter settings run ids = attempt at keeping ⊢
        obtain ⟨_ | _, _⟩ := attempt <;> exact keeping

/-- What a round can do with a point before further ones. -/
inductive Visiting (run : Run σ α) (id : PointId) (ids : List PointId) :
    Attempt σ α (List PointId) → Prop
  | put (position : Vec α) (source : σ)
      (chosen : byConstraints settings run.registry id run.source = .ok (some (position, source))) :
      Visiting run id ids (round settings (run.place id position source) ids)
  | refused {error : PlacementError}
      (failed : byConstraints settings run.registry id run.source = .error error) :
      Visiting run id ids (.error error, run)
  | kept : Visiting run id ids (.keep id (round settings run ids))

theorem visiting (run : Run σ α) (id : PointId) (ids : List PointId) :
    Visiting settings run id ids (round settings run (id :: ids)) := by
  rw [round]
  rcases chosen : byConstraints settings run.registry id run.source with
    error | _ | ⟨position, source⟩
  · exact .refused chosen
  · have keeping : Visiting settings run id ids (.keep id (round settings run ids)) := .kept
    generalize round settings run ids = attempt at keeping ⊢
    obtain ⟨_ | _, _⟩ := attempt <;> exact keeping
  · exact .put position source chosen

/-! ## Every part of a run goes on -/

theorem extends_scatter (run : Run σ α) (ids : List PointId) :
    Extends ids run (scatter settings run ids).2 := by
  induction ids generalizing run with
  | nil => exact .refl [] run
  | cons id ids ih =>
      have step := scattering settings run id ids
      generalize scatter settings run (id :: ids) = attempt at step ⊢
      cases step with
      | known => exact (ih run).cons id
      | put waiting _ position source =>
          exact (Extends.place run waiting List.mem_cons_self position source).trans
            ((ih _).cons id)
      | refused => exact .refl _ run
      | kept => exact (ih run).cons id

omit [Scalar α] [Random.Source σ α] in
/-- The points that a round has still to visit wait also when one before them is placed. -/
theorem waiting_place {run : Run σ α} {id : PointId} {ids : List PointId} (fresh : id ∉ ids)
    (waiting : ∀ other ∈ ids, run.registry.awaits other = true) (position : Vec α) (source : σ) :
    ∀ other ∈ ids, (run.place id position source).registry.awaits other = true := by
  intro other member
  have different : id ≠ other := by
    rintro rfl
    exact fresh member
  exact (run.registry.awaits_placePoint_of_ne different position).trans (waiting other member)

theorem extends_round (run : Run σ α) {ids : List PointId} (distinct : ids.Nodup)
    (waiting : ∀ id ∈ ids, run.registry.awaits id = true) :
    Extends ids run (round settings run ids).2 := by
  induction ids generalizing run with
  | nil => exact .refl [] run
  | cons id ids ih =>
      obtain ⟨fresh, distinct⟩ := List.nodup_cons.1 distinct
      obtain ⟨first, others⟩ := List.forall_mem_cons.1 waiting
      have step := visiting settings run id ids
      generalize round settings run (id :: ids) = attempt at step ⊢
      cases step with
      | put position source =>
          have rest := ih _ distinct (waiting_place fresh others position source)
          exact (Extends.place run first List.mem_cons_self position source).trans (rest.cons id)
      | refused => exact .refl _ run
      | kept => exact (ih run distinct others).cons id

/-! ## What is left -/

omit [Scalar α] [Random.Source σ α] in
theorem filter_cons_of_later {id : PointId} {ids left : List PointId} {p : PointId → Bool}
    (placed : p id = false) (others : left = ids.filter p) : left = (id :: ids).filter p := by
  rw [List.filter_cons_of_neg (by simp [placed]), others]

omit [Scalar α] [Random.Source σ α] in
theorem filter_cons_of_kept {id : PointId} {ids left : List PointId} {p : PointId → Bool}
    (kept : p id = true) (others : left = ids.filter p) :
    id :: left = (id :: ids).filter p := by
  rw [List.filter_cons_of_pos kept, others]

/-- Scattering leaves the points that still have no place, and these are the ones that had none
and may not lie anywhere. -/
theorem scatter_left {run later : Run σ α} {ids left : List PointId} (distinct : ids.Nodup)
    (done : scatter settings run ids = (.ok left, later)) :
    left = ids.filter later.registry.awaits ∧ left = ids.filter run.registry.waits := by
  induction ids generalizing run left with
  | nil =>
      cases done
      exact ⟨rfl, rfl⟩
  | cons id ids ih =>
      obtain ⟨fresh, distinct⟩ := List.nodup_cons.1 distinct
      have step := scattering settings run id ids
      generalize scatter settings run (id :: ids) = attempt at step done
      cases step with
      | known placed =>
          obtain ⟨same, started⟩ := ih distinct done
          have went := extends_scatter settings run ids
          rw [done] at went
          exact ⟨filter_cons_of_later (went.not_awaits placed) same,
            filter_cons_of_later (Registry.not_waits placed) started⟩
      | put waiting free position source =>
          obtain ⟨same, started⟩ := ih distinct done
          have went := extends_scatter settings (run.place id position source) ids
          rw [done] at went
          refine ⟨filter_cons_of_later (went.not_awaits (not_awaits_place waiting ..)) same,
            filter_cons_of_later free ?_⟩
          rw [started]
          refine List.filter_congr fun other member => ?_
          refine Registry.waits_placePoint_of_ne run.registry ?_ position
          rintro rfl
          exact fresh member
      | refused => cases done
      | kept waiting =>
          obtain ⟨rest, visited, rfl⟩ := Attempt.of_keep_ok done
          obtain ⟨same, started⟩ := ih distinct visited
          have went := extends_scatter settings run ids
          rw [visited] at went
          have still := went.awaits_of_notMem fresh (Registry.awaits_of_waits waiting)
          exact ⟨filter_cons_of_kept still same, filter_cons_of_kept waiting started⟩

/-- A round leaves the points that still have no place. -/
theorem round_left {run later : Run σ α} {ids left : List PointId} (distinct : ids.Nodup)
    (waiting : ∀ id ∈ ids, run.registry.awaits id = true)
    (done : round settings run ids = (.ok left, later)) :
    left = ids.filter later.registry.awaits := by
  induction ids generalizing run left with
  | nil =>
      cases done
      rfl
  | cons id ids ih =>
      obtain ⟨fresh, distinct⟩ := List.nodup_cons.1 distinct
      obtain ⟨first, others⟩ := List.forall_mem_cons.1 waiting
      have step := visiting settings run id ids
      generalize round settings run (id :: ids) = attempt at step done
      cases step with
      | put position source =>
          have still := waiting_place fresh others position source
          have went := extends_round settings (run.place id position source) distinct still
          rw [done] at went
          exact filter_cons_of_later (went.not_awaits (not_awaits_place first ..))
            (ih distinct still done)
      | refused => cases done
      | kept =>
          obtain ⟨rest, visited, rfl⟩ := Attempt.of_keep_ok done
          have went := extends_round settings run distinct others
          rw [visited] at went
          exact filter_cons_of_kept (went.awaits_of_notMem fresh first) (ih distinct others visited)

/-- A round that places no point leaves the run as it is. -/
theorem round_stuck {run later : Run σ α} {ids left : List PointId}
    (done : round settings run ids = (.ok left, later)) (idle : ¬ left.length < ids.length) :
    later = run ∧ left = ids := by
  induction ids generalizing run left with
  | nil =>
      cases done
      exact ⟨rfl, rfl⟩
  | cons id ids ih =>
      have step := visiting settings run id ids
      generalize round settings run (id :: ids) = attempt at step done
      cases step with
      | put position source =>
          have bounded := length_round_le settings (run.place id position source) ids
            (congrArg Prod.fst done)
          rw [List.length_cons] at idle
          omega
      | refused => cases done
      | kept =>
          obtain ⟨rest, visited, rfl⟩ := Attempt.of_keep_ok done
          obtain ⟨rfl, rfl⟩ := ih visited (by simpa using idle)
          exact ⟨rfl, rfl⟩

end FigureMarkup.Placement
