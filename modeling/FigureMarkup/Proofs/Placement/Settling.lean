import FigureMarkup.Proofs.Placement.Choices

/-!
# How a run ends

A run settles in passes, each of which leaves fewer points, so there are no more passes than points
at the start. It ends when no point is left, or when no rule applies to any of the points that are
left, or when no number can be drawn for a free point.
-/

namespace FigureMarkup.Placement

open Figure Plane

variable {σ α : Type} [Scalar α] [Random.Source σ α] (settings : Settings α)

/-! ## Rules that fail -/

theorem whereAllMeet_ne_error (shapes : List (Shape α)) (source : σ) (error : PlacementError) :
    whereAllMeet settings shapes source ≠ .error error := by
  unfold whereAllMeet
  split <;> simp

/-- A rule fails only where no point can be put anywhere. -/
theorem byConstraints_error {registry : Registry α} {id : PointId} {source : σ}
    {error : PlacementError} (failed : byConstraints settings registry id source = .error error) :
    anywhere settings source = .error error := by
  unfold byConstraints at failed
  split at failed
  · exact failed
  · split at failed
    · cases failed
    · cases failed
  · dsimp only at failed
    split at failed
    · cases failed
    · exact absurd failed (whereAllMeet_ne_error settings _ source error)

theorem weakerRules_error {rule : Rule σ α} (member : rule ∈ weakerRules) {registry : Registry α}
    {id : PointId} {source : σ} {error : PlacementError}
    (failed : rule settings registry id source = .error error) :
    anywhere settings source = .error error := by
  simp only [weakerRules, List.mem_cons, List.not_mem_nil, or_false] at member
  rcases member with rfl | rfl | rfl | rfl
  · unfold byRequest at failed
    split at failed
    · cases failed
    · cases failed
    · exact absurd failed (whereAllMeet_ne_error settings _ source error)
  · unfold byCircle at failed
    split at failed <;> cases failed
  · unfold byDefinition at failed
    split at failed
    · exact failed
    · cases failed
  · unfold byLines at failed
    split at failed
    · exact failed
    · cases failed

/-- An error arises where no point can be put anywhere. -/
def FailsAnywhere (σ : Type) [Random.Source σ α] (settings : Settings α)
    (error : PlacementError) : Prop :=
  ∃ source : σ, anywhere settings source = .error error

variable {settings}

theorem FailsAnywhere.eq {error : PlacementError} (fails : FailsAnywhere σ settings error) :
    error = .unboundedSquare := by
  obtain ⟨source, failed⟩ := fails
  unfold anywhere at failed
  dsimp only at failed
  split at failed
  · cases failed
    rfl
  · split at failed <;> cases failed
    rfl

theorem scatter_error {run : Run σ α} {ids : List PointId} {error : PlacementError}
    (failed : (scatter settings run ids).1 = .error error) : FailsAnywhere σ settings error := by
  induction ids generalizing run with
  | nil => cases failed
  | cons id ids ih =>
      have step := scattering settings run id ids
      generalize scatter settings run (id :: ids) = attempt at step failed
      cases step with
      | known => exact ih failed
      | put => exact ih failed
      | refused refusal =>
          cases failed
          exact ⟨run.source, refusal⟩
      | kept => exact ih (Attempt.of_keep_error failed)

theorem round_error {run : Run σ α} {ids : List PointId} {error : PlacementError}
    (failed : (round settings run ids).1 = .error error) : FailsAnywhere σ settings error := by
  induction ids generalizing run with
  | nil => cases failed
  | cons id ids ih =>
      have step := visiting settings run id ids
      generalize round settings run (id :: ids) = attempt at step failed
      cases step with
      | put => exact ih failed
      | refused refusal =>
          cases failed
          exact ⟨run.source, byConstraints_error settings refusal⟩
      | kept => exact ih (Attempt.of_keep_error failed)

theorem placeFirst_error {rule : Rule σ α} (member : rule ∈ weakerRules) {run : Run σ α}
    {ids : List PointId} {error : PlacementError}
    (failed : (placeFirst settings rule run ids).1 = .error error) :
    FailsAnywhere σ settings error := by
  induction ids with
  | nil => cases failed
  | cons id ids ih =>
      rw [placeFirst] at failed
      rcases refused : rule settings run.registry id run.source with fault | _ | _ <;>
        simp only [refused] at failed
      · cases failed
        exact ⟨run.source, weakerRules_error settings member refused⟩
      · exact ih failed
      · cases failed

theorem placeByRules_error {rules : List (Rule σ α)} (included : ∀ rule ∈ rules, rule ∈ weakerRules)
    {run : Run σ α} {stuck : List PointId} {error : PlacementError}
    (failed : (placeByRules settings run stuck rules).1 = .error error) :
    FailsAnywhere σ settings error := by
  induction rules generalizing run with
  | nil => cases failed
  | cons rule rules ih =>
      rw [placeByRules] at failed
      rcases tried : placeFirst settings rule run stuck with ⟨fault | _ | placed, later⟩ <;>
        simp only [tried] at failed
      · cases failed
        exact placeFirst_error (included rule List.mem_cons_self) (congrArg Prod.fst tried)
      · exact ih (fun other member => included other (List.mem_cons_of_mem rule member)) failed
      · cases failed

/-! ## Passes -/

/-- No weaker rule places any of the points that are left. -/
structure Stuck (settings : Settings α) (run : Run σ α) (left : List PointId) : Prop where
  nonempty : left ≠ []
  refused : ∀ rule ∈ weakerRules, ∀ id ∈ left,
    rule settings run.registry id run.source = .ok none

/-- A pass goes on from its round. -/
theorem extends_pass_of_round (settings : Settings α) (run : Run σ α) {ids : List PointId}
    (waiting : ∀ id ∈ ids, run.registry.awaits id = true) :
    Extends ids (round settings run ids).2 (pass settings run ids).2 := by
  rw [pass]
  rcases visited : round settings run ids with ⟨error | left, later⟩
  · exact .refl ids later
  · dsimp only
    split
    case isTrue => exact .refl ids later
    case isFalse idle =>
      obtain ⟨rfl, rfl⟩ := round_stuck settings visited idle
      have ruling := extends_placeByRules settings waiting weakerRules
      rcases ruled : placeByRules settings later left weakerRules with
        ⟨error | _ | placed, last⟩ <;> rw [ruled] at ruling <;> exact ruling

theorem extends_pass (settings : Settings α) (run : Run σ α) {ids : List PointId}
    (distinct : ids.Nodup)
    (waiting : ∀ id ∈ ids, run.registry.awaits id = true) :
    Extends ids run (pass settings run ids).2 :=
  (extends_round settings run distinct waiting).trans (extends_pass_of_round settings run waiting)

/-- A pass leaves the points that still have no place. -/
theorem pass_left {run later : Run σ α} {ids left : List PointId} (distinct : ids.Nodup)
    (waiting : ∀ id ∈ ids, run.registry.awaits id = true)
    (done : pass settings run ids = (.ok left, later)) :
    left = ids.filter later.registry.awaits := by
  rw [pass] at done
  rcases visited : round settings run ids with ⟨error | kept, middle⟩ <;>
    simp only [visited] at done
  · cases done
  · split at done
    case isTrue =>
      cases done
      exact round_left settings distinct waiting visited
    case isFalse idle =>
      obtain ⟨rfl, rfl⟩ := round_stuck settings visited idle
      rcases ruled : placeByRules settings middle kept weakerRules with
        ⟨error | _ | placed, last⟩ <;> simp only [ruled] at done
      · cases done
      · cases done
      · cases done
        obtain ⟨member, -, -, position, source, -, rfl⟩ := placeByRules_done settings ruled
        refine List.filter_congr fun id known => ?_
        by_cases same : placed = id
        · subst same
          simp [not_awaits_place (waiting placed known) position source]
        · have still := middle.registry.awaits_placePoint_of_ne same position
          have waits : (middle.place placed position source).registry.awaits id = true :=
            still.trans (waiting id known)
          simp [waits, Ne.symm same]

/-- A pass fails if no number can be drawn, or if nothing can be done. -/
theorem pass_error {run last : Run σ α} {ids : List PointId} {error : PlacementError}
    (nonempty : ids ≠ []) (failed : pass settings run ids = (.error error, last)) :
    FailsAnywhere σ settings error ∨
      last = run ∧ error = .underconstrained (namesOf run.registry ids) ∧
        Stuck settings run ids := by
  rw [pass] at failed
  rcases visited : round settings run ids with ⟨fault | kept, middle⟩ <;>
    simp only [visited] at failed
  · cases failed
    exact .inl (round_error (congrArg Prod.fst visited))
  · split at failed
    case isTrue => cases failed
    case isFalse idle =>
      obtain ⟨rfl, rfl⟩ := round_stuck settings visited idle
      rcases ruled : placeByRules settings middle kept weakerRules with
        ⟨fault | _ | placed, later⟩ <;> simp only [ruled] at failed
      · cases failed
        exact .inl (placeByRules_error (fun _ member => member) (congrArg Prod.fst ruled))
      · cases failed
        obtain ⟨rfl, refused⟩ := placeByRules_stuck settings ruled
        exact .inr ⟨rfl, rfl, nonempty, refused⟩
      · cases failed

/-! ## Rounds -/

/-- Putting a point somewhere is part of a round. -/
theorem kept_rounds (settings : Settings α) (count : Nat) :
    Kept settings fun run : Run σ α => run.rounds = count :=
  fun _ _ _ _ counted _ => counted

theorem rounds_scatter (settings : Settings α) (run : Run σ α) (ids : List PointId) :
    (scatter settings run ids).2.rounds = run.rounds :=
  (kept_rounds settings run.rounds).scatter rfl ids

theorem rounds_pass (settings : Settings α) (run : Run σ α) (ids : List PointId) :
    (pass settings run ids).2.rounds = run.rounds :=
  (kept_rounds settings run.rounds).pass rfl ids

/-! ## Settling -/

/-- An attempt to place some points comes to an end after a number of rounds at most. -/
structure Ends (settings : Settings α) (ids : List PointId) (most : Nat) (run : Run σ α)
    (attempt : Attempt σ α Unit) : Prop where
  extends_run : Extends ids run attempt.2
  rounds : attempt.2.rounds ≤ run.rounds + most
  done : attempt.1 = .ok () → ids.filter attempt.2.registry.awaits = []
  failed : ∀ error, attempt.1 = .error error →
    FailsAnywhere σ settings error ∨
      error = .underconstrained
        (namesOf attempt.2.registry (ids.filter attempt.2.registry.awaits)) ∧
      Stuck settings attempt.2 (ids.filter attempt.2.registry.awaits)

theorem Ends.of_fails {run later : Run σ α} {ids : List PointId} {most : Nat}
    {error : PlacementError} (going : Extends ids run later)
    (enough : later.rounds ≤ run.rounds + most) (fails : FailsAnywhere σ settings error) :
    Ends settings ids most run (.error error, later) where
  extends_run := going
  rounds := enough
  done ok := nomatch ok
  failed := by
    rintro _ ⟨⟩
    exact .inl fails

/-- An attempt at the points that still wait is an attempt at all of them. -/
theorem Ends.onward {run later : Run σ α} {ids left : List PointId} {most total : Nat}
    {attempt : Attempt σ α Unit} (ends : Ends settings left most later attempt)
    (going : Extends ids run later) (remaining : left = ids.filter later.registry.awaits)
    (enough : later.rounds + most ≤ run.rounds + total) : Ends settings ids total run attempt := by
  subst remaining
  have onward : Extends ids later attempt.2 :=
    ends.extends_run.mono fun id member => (List.mem_filter.1 member).1
  have same := onward.awaits_filter ids
  exact ⟨going.trans onward, Nat.le_trans ends.rounds enough, same ▸ ends.done, same ▸ ends.failed⟩

theorem settle_nil (run : Run σ α) : settle settings run [] = (.ok (), run) := by
  rw [settle]
  rfl

theorem settle_eq (run : Run σ α) {ids : List PointId} (nonempty : ids ≠ []) :
    settle settings run ids =
      match pass settings run.beginRound ids with
      | (.error error, later) => (.error error, later)
      | (.ok left, later) => settle settings later left := by
  rw [settle, if_neg (by simpa using nonempty)]
  rcases pass settings run.beginRound ids with ⟨error | left, later⟩ <;> rfl

omit [Scalar α] in
theorem filter_awaits_eq {registry : Registry α} {ids : List PointId}
    (waiting : ∀ id ∈ ids, registry.awaits id = true) : ids.filter registry.awaits = ids :=
  List.filter_eq_self.2 waiting

omit [Scalar α] in
theorem awaits_of_left {registry : Registry α} {ids left : List PointId}
    (remaining : left = ids.filter registry.awaits) : ∀ id ∈ left, registry.awaits id = true := by
  intro id member
  rw [remaining] at member
  exact (List.mem_filter.1 member).2

/-- Settling ends after at most one pass for each point. The passes keep the worklist equal to the
points that still wait, and each of them shortens it. -/
theorem settle_ends {run : Run σ α} {ids : List PointId} (distinct : ids.Nodup)
    (waiting : ∀ id ∈ ids, run.registry.awaits id = true) :
    Ends settings ids ids.length run (settle settings run ids) := by
  induction length : ids.length using Nat.strongRecOn generalizing run ids with
  | ind n ih =>
      by_cases empty : ids = []
      · subst empty
        rw [settle_nil]
        exact ⟨.refl [] run, Nat.le_add_right .., fun _ => rfl, fun error failed => by cases failed⟩
      · rw [settle_eq run empty]
        have begun : ∀ id ∈ ids, run.beginRound.registry.awaits id = true := waiting
        have going := extends_pass settings run.beginRound distinct begun
        have counted := rounds_pass settings run.beginRound ids
        rcases passed : pass settings run.beginRound ids with ⟨error | left, later⟩ <;>
          rw [passed] at going counted
        · have visits : 0 < ids.length := List.length_pos_iff.2 empty
          have enough : later.rounds ≤ run.rounds + n := by
            simp only [Run.beginRound] at counted
            omega
          rcases pass_error empty passed with fails | ⟨rfl, named, stuck⟩
          · exact .of_fails going enough fails
          · refine ⟨going, enough, (fun ok => nomatch ok), ?_⟩
            rintro _ ⟨⟩
            rw [filter_awaits_eq begun]
            exact .inr ⟨named, stuck⟩
        · have remaining := pass_left distinct begun passed
          have shorter := length_pass_lt settings run.beginRound ids (congrArg Prod.fst passed)
          have ends := ih left.length (by omega) (remaining ▸ distinct.filter _)
            (awaits_of_left remaining) rfl
          refine ends.onward going remaining ?_
          simp only [Run.beginRound] at counted
          omega

/-! ## Placing all points -/

omit [Scalar α] in
theorem nodup_pointIds (registry : Registry α) : registry.pointIds.Nodup := by
  refine List.Pairwise.map _ ?_ List.nodup_range
  rintro first second different ⟨⟩
  exact different rfl

omit [Scalar α] in
theorem mem_pointIds {registry : Registry α} {id : PointId} :
    id ∈ registry.pointIds ↔ registry.Holds (.point id) := by
  obtain ⟨index⟩ := id
  simp [Registry.pointIds, Registry.Holds, Registry.count, EntityRef.kind, EntityRef.index]

/-- The points that placement starts with in its worklist. -/
abbrev fixedIds (registry : Registry α) : List PointId := registry.pointIds.filter registry.waits

/-- Placing all points ends after at most one round for each point that has no place and may not
lie anywhere. -/
theorem placeAll_ends (settings : Settings α) (progress : Progress σ α) :
    Ends settings progress.registry.pointIds (fixedIds progress.registry).length
      (.start progress) (placeAll settings progress) := by
  have scattering := extends_scatter settings (.start progress) progress.registry.pointIds
  have counted := rounds_scatter settings (.start progress) progress.registry.pointIds
  rw [placeAll]
  rcases scattered : scatter settings (.start progress) progress.registry.pointIds with
    ⟨error | ids, run⟩ <;> rw [scattered] at scattering counted
  · exact .of_fails scattering (counted ▸ Nat.le_add_right ..)
      (scatter_error (congrArg Prod.fst scattered))
  · obtain ⟨remaining, started⟩ :=
      scatter_left settings (nodup_pointIds progress.registry) scattered
    have distinct : ids.Nodup := started ▸ (nodup_pointIds progress.registry).filter _
    have ends : Ends settings ids ids.length run (settle settings run ids) :=
      settle_ends distinct (awaits_of_left remaining)
    have fixed : ids.length = (fixedIds progress.registry).length := congrArg List.length started
    refine ends.onward scattering remaining ?_
    simp only at counted
    omega

end FigureMarkup.Placement
