import FigureMarkup.Proofs.Placement.Frame
import FigureMarkup.Proofs.Placement.Moments

/-!
# Visits

A round visits its points one after another, and a visit puts a point somewhere if its constraints
say where. What a run knows when it visits a point comes from the figure that it started from by
putting points somewhere, and so does the end of the run from what the visit leaves.
-/

namespace FigureMarkup.Placement

open Figure Plane

variable {σ α : Type}

/-- A frame keeps the places that are known and what shapes are made of. -/
theorem Frame.refines {before after : Registry α} (frame : Frame before after) :
    Refines before after where
  position := frame.position
  line? := frame.line?
  circle? := frame.circle?
  polygon? := frame.polygon?

/-- A point keeps its constraints while points are placed. -/
theorem constraintsOf_placePoints (registry : Registry α) (placed : List (PointId × Vec α))
    (id : PointId) :
    constraintsOf (registry.placePoints placed) id = constraintsOf registry id := by
  induction placed generalizing registry with
  | nil => rfl
  | cons placement placed ih =>
      rw [Registry.placePoints_cons, ih, constraintsOf, Registry.point?_placePoint, constraintsOf]
      cases registry.point? id with
      | none => rfl
      | some point =>
          simp only [Option.map_some]
          split <;> rfl

variable [Scalar α] [Random.Source σ α]

/-! ## Single visits -/

/-- Visit a point: put it where its constraints say, and tell whether they say so. -/
def visit (settings : Settings α) (run : Run σ α) (id : PointId) : Attempt σ α Bool :=
  match byConstraints settings run.registry id run.source with
  | .error error => (.error error, run)
  | .ok none => (.ok false, run)
  | .ok (some (position, source)) => (.ok true, run.place id position source)

variable {settings : Settings α} {run later : Run σ α} {id : PointId} {ids : List PointId}

theorem visit_eq_false (visited : visit settings run id = (.ok false, later)) : later = run := by
  unfold visit at visited
  split at visited <;> cases visited
  rfl

theorem visit_eq_true (visited : visit settings run id = (.ok true, later)) :
    ∃ position source, byConstraints settings run.registry id run.source =
      .ok (some (position, source)) ∧ later = run.place id position source := by
  unfold visit at visited
  rcases chosen : byConstraints settings run.registry id run.source with
    error | _ | ⟨position, source⟩ <;> simp only [chosen] at visited
  · cases visited
  · cases visited
  · cases visited
    exact ⟨position, source, rfl, rfl⟩

/-- A point of one concrete shape is placed when it is visited. -/
theorem visit_of_single {constraint : ShapeRef} {shape : Shape α}
    (single : constraintsOf run.registry id = [constraint])
    (concrete : run.registry.shape? constraint = some shape) :
    ∃ later, visit settings run id = (.ok true, later) := by
  simp only [visit, byConstraints, single, concrete, on]
  exact ⟨_, rfl⟩

/-- A round visits a point and goes on with the others, and keeps the point if it is not placed. -/
theorem round_cons (settings : Settings α) (run : Run σ α) (id : PointId) (ids : List PointId) :
    round settings run (id :: ids) =
      match visit settings run id with
      | (.error error, later) => (.error error, later)
      | (.ok true, later) => round settings later ids
      | (.ok false, later) => .keep id (round settings later ids) := by
  rw [round, visit]
  cases byConstraints settings run.registry id run.source with
  | error error => rfl
  | ok choice =>
      cases choice with
      | some choice => rfl
      | none =>
          dsimp only
          generalize round settings run ids = attempt
          obtain ⟨_ | _, _⟩ := attempt <;> rfl

/-- A visit at most puts its point somewhere. -/
theorem extends_visit (settings : Settings α) (waiting : run.registry.awaits id = true)
    (member : id ∈ ids) :
    Extends ids run (visit settings run id).2 := by
  unfold visit
  split
  · exact .refl ids run
  · exact .refl ids run
  · exact .place run waiting member _ _

theorem waiting_visit (settings : Settings α) (fresh : id ∉ ids)
    (waiting : ∀ other ∈ ids, run.registry.awaits other = true) :
    ∀ other ∈ ids, (visit settings run id).2.registry.awaits other = true := by
  unfold visit
  split
  · exact waiting
  · exact waiting
  · exact waiting_place fresh waiting _ _

/-- What comes after the first visit of a round. -/
theorem extends_round_of_visit (settings : Settings α) (distinct : (id :: ids).Nodup)
    (waiting : ∀ other ∈ ids, run.registry.awaits other = true) :
    Extends ids (visit settings run id).2 (round settings run (id :: ids)).2 := by
  obtain ⟨fresh, distinct⟩ := List.nodup_cons.1 distinct
  have still := waiting_visit settings fresh waiting
  have rest := extends_round settings (visit settings run id).2 distinct still
  rw [round_cons]
  generalize visit settings run id = visited at rest ⊢
  obtain ⟨_ | _ | _, later⟩ := visited
  · exact .refl ids later
  · exact rest
  · exact rest

/-! ## The visits of a run -/

/-- A round visits a point when it has come to another run. -/
inductive VisitsInRound (settings : Settings α) :
    Run σ α → List PointId → Run σ α → PointId → Prop
  | now (run : Run σ α) (id : PointId) (ids : List PointId) :
      VisitsInRound settings run (id :: ids) run id
  | later {run next now : Run σ α} {first id : PointId} {ids : List PointId} {placed : Bool}
      (visited : visit settings run first = (.ok placed, next))
      (rest : VisitsInRound settings next ids now id) :
      VisitsInRound settings run (first :: ids) now id

/-- Some round of settling visits a point when it has come to another run. -/
inductive VisitsInSettling (settings : Settings α) :
    Run σ α → List PointId → Run σ α → PointId → Prop
  | now {run now : Run σ α} {id : PointId} {ids : List PointId}
      (visits : VisitsInRound settings run.beginRound ids now id) :
      VisitsInSettling settings run ids now id
  | later {run next now : Run σ α} {id : PointId} {ids left : List PointId}
      (passed : pass settings run.beginRound ids = (.ok left, next))
      (rest : VisitsInSettling settings next left now id) :
      VisitsInSettling settings run ids now id

/-- Placing all points of a figure visits a point when it has come to a run. -/
def Visits (settings : Settings α) (progress : Progress σ α) (now : Run σ α) (id : PointId) :
    Prop :=
  ∃ ids run, scatter settings (.start progress) progress.registry.pointIds = (.ok ids, run) ∧
    VisitsInSettling settings run ids now id

/-- A visit in the middle of an attempt: the point waits, the attempt has come to it by putting
points somewhere, and it goes on from it in the same way. -/
structure Amid (settings : Settings α) (ids : List PointId) (start now : Run σ α) (id : PointId)
    (last : Run σ α) : Prop where
  waiting : now.registry.awaits id = true
  before : Extends ids start now
  after : Extends ids (visit settings now id).2 last

variable {start middle now last : Run σ α}

theorem Amid.trans (amid : Amid settings ids start now id middle)
    (rest : Extends ids middle last) : Amid settings ids start now id last :=
  ⟨amid.waiting, amid.before, amid.after.trans rest⟩

/-- An attempt at some of the points after others have been placed. -/
theorem Amid.onward {left : List PointId} (amid : Amid settings left middle now id last)
    (first : Extends ids start middle) (included : ∀ other ∈ left, other ∈ ids) :
    Amid settings ids start now id last :=
  ⟨amid.waiting, first.trans (amid.before.mono included), amid.after.mono included⟩

theorem VisitsInRound.amid (visits : VisitsInRound settings run ids now id)
    (distinct : ids.Nodup) (waiting : ∀ other ∈ ids, run.registry.awaits other = true) :
    Amid settings ids run now id (round settings run ids).2 := by
  induction visits with
  | now run id ids =>
      obtain ⟨first, others⟩ := List.forall_mem_cons.1 waiting
      exact ⟨first, .refl _ run, (extends_round_of_visit settings distinct others).cons id⟩
  | @later run next now first id ids placed visited rest ih =>
      obtain ⟨fresh, nodup⟩ := List.nodup_cons.1 distinct
      obtain ⟨here, others⟩ := List.forall_mem_cons.1 waiting
      have went : Extends (first :: ids) run (visit settings run first).2 :=
        extends_visit settings here List.mem_cons_self
      have still := waiting_visit settings fresh others
      rw [visited] at went still
      have same : (round settings run (first :: ids)).2 = (round settings next ids).2 := by
        rw [round_cons, visited]
        cases placed <;> rfl
      rw [same]
      exact (ih nodup still).onward went fun _ => List.mem_cons_of_mem first

theorem VisitsInRound.ne_nil (visits : VisitsInRound settings run ids now id) : ids ≠ [] := by
  cases visits <;> exact List.cons_ne_nil _ _

/-- Settling goes on from its first pass. -/
theorem extends_settle_of_pass (nonempty : ids ≠ []) (distinct : ids.Nodup)
    (waiting : ∀ other ∈ ids, run.registry.awaits other = true) :
    Extends ids (pass settings run.beginRound ids).2 (settle settings run ids).2 := by
  rw [settle_eq run nonempty]
  rcases passed : pass settings run.beginRound ids with ⟨error | left, later⟩
  · exact .refl ids _
  · have begun : ∀ other ∈ ids, run.beginRound.registry.awaits other = true := waiting
    have remaining := pass_left distinct begun passed
    have rest : Ends settings left left.length later (settle settings later left) :=
      settle_ends (remaining ▸ distinct.filter _) (awaits_of_left remaining)
    refine rest.extends_run.mono fun other member => ?_
    rw [remaining] at member
    exact (List.mem_filter.1 member).1

theorem VisitsInSettling.amid (visits : VisitsInSettling settings run ids now id)
    (distinct : ids.Nodup) (waiting : ∀ other ∈ ids, run.registry.awaits other = true) :
    Amid settings ids run now id (settle settings run ids).2 := by
  induction visits with
  | @now run now id ids visits =>
      have begun : ∀ other ∈ ids, run.beginRound.registry.awaits other = true := waiting
      have amid := visits.amid distinct begun
      exact ((amid.trans (extends_pass_of_round settings run.beginRound begun)).trans
        (extends_settle_of_pass visits.ne_nil distinct waiting)).onward (.refl ids run)
          fun _ member => member
  | @later run next now id ids left passed rest ih =>
      have begun : ∀ other ∈ ids, run.beginRound.registry.awaits other = true := waiting
      have remaining := pass_left distinct begun passed
      have shorter := length_pass_lt settings run.beginRound ids (congrArg Prod.fst passed)
      have nonempty : ids ≠ [] := List.ne_nil_of_length_pos (Nat.zero_lt_of_lt shorter)
      have going : Extends ids run (pass settings run.beginRound ids).2 :=
        extends_pass settings run.beginRound distinct begun
      rw [passed] at going
      rw [settle_eq run nonempty, passed]
      refine (ih (remaining ▸ distinct.filter _) (awaits_of_left remaining)).onward going ?_
      intro other member
      rw [remaining] at member
      exact (List.mem_filter.1 member).1

theorem Visits.amid {progress : Progress σ α} (visits : Visits settings progress now id) :
    Amid settings progress.registry.pointIds (.start progress) now id
      (placeAll settings progress).2 := by
  obtain ⟨ids, run, scattered, visits⟩ := visits
  have going := extends_scatter settings (.start progress) progress.registry.pointIds
  obtain ⟨remaining, started⟩ :=
    scatter_left settings (nodup_pointIds progress.registry) scattered
  have distinct : ids.Nodup := started ▸ (nodup_pointIds progress.registry).filter _
  rw [scattered] at going
  rw [placeAll, scattered]
  refine (visits.amid distinct (awaits_of_left remaining)).onward going fun other member => ?_
  rw [started] at member
  exact (List.mem_filter.1 member).1

/-- Measuring angles leaves all that a run has placed. -/
theorem frame_resolve_of_placeAll (settings : Settings α) (progress : Progress σ α) :
    Frame (placeAll settings progress).2.registry (resolve settings progress).2.registry := by
  rw [resolve]
  rcases placeAll settings progress with ⟨error | _, run⟩
  · exact .refl run.registry
  · exact frame_measureAngles run.registry

/-- What a run knows when it visits a point, and what the visit leaves, stays until the end. -/
theorem Visits.frames {progress : Progress σ α} (visits : Visits settings progress now id) :
    Frame now.registry (resolve settings progress).2.registry ∧
      Frame (visit settings now id).2.registry (resolve settings progress).2.registry := by
  have amid := visits.amid
  have here : Extends [id] now (visit settings now id).2 :=
    extends_visit settings amid.waiting (List.mem_singleton_self id)
  have onward := amid.after.frame.trans (frame_resolve_of_placeAll settings progress)
  exact ⟨here.frame.trans onward, onward⟩

end FigureMarkup.Placement
