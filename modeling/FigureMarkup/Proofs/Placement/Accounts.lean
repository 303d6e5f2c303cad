import FigureMarkup.Proofs.Placement.Visits

/-!
# Accounts of runs

What a run has placed can be accounted for, one point after another, by what was known when it was
placed.
-/

namespace FigureMarkup.Placement

open Figure Plane

variable {σ α : Type}

/-- In a well-formed registry the shapes that a point was asked to lie on constrain it. -/
theorem MayPlace.mem {registry : Registry α} (formed : Construction.WellFormed registry)
    {id : PointId} {ref : ShapeRef} (may : MayPlace registry id ref) :
    ref ∈ constraintsOf registry id := by
  rcases may with constrains | asked
  · exact constrains
  · unfold liesOnOf at asked
    unfold constraintsOf
    cases stored : registry.point? id with
    | none =>
        rw [stored] at asked
        cases asked
    | some point =>
        rw [stored] at asked
        exact (formed.points id point stored).included ref asked

variable [Scalar α] [Random.Source σ α]

/-! ## Properties that all of a run keeps -/

namespace Kept

variable {settings : Settings α} {P : Run σ α → Prop} (kept : Kept settings P)

include kept

/-- Settling consists of passes, each of which shortens the worklist. -/
theorem settle (begins : ∀ run, P run → P run.beginRound) {run : Run σ α} (holds : P run)
    (ids : List PointId) :
    P (settle settings run ids).2 := by
  induction length : ids.length using Nat.strongRecOn generalizing run ids with
  | ind n ih =>
      by_cases empty : ids = []
      · rw [empty, settle_nil]
        exact holds
      · have passing := kept.pass (begins run holds) ids
        rw [settle_eq run empty]
        rcases passed : Placement.pass settings run.beginRound ids with ⟨error | left, later⟩
        · simpa only [passed] using passing
        · have shorter := length_pass_lt settings run.beginRound ids (congrArg Prod.fst passed)
          rw [passed] at passing
          exact ih _ (length ▸ shorter) passing _ rfl

theorem placeAll (begins : ∀ run, P run → P run.beginRound) {progress : Progress σ α}
    (holds : P (.start progress)) :
    P (placeAll settings progress).2 := by
  have scattering := kept.scatter holds progress.registry.pointIds
  rw [Placement.placeAll]
  rcases scattered : Placement.scatter settings (.start progress) progress.registry.pointIds with
    ⟨error | left, later⟩ <;> rw [scattered] at scattering
  · exact scattering
  · exact kept.settle begins scattering _

end Kept

/-! ## Accounts of runs -/

/-- Every place in the record of a run was chosen, given what had been placed before it. -/
structure Accounted (settings : Settings α) (start : Registry α) (run : Run σ α) : Prop where
  registry : run.registry = start.placePoints run.placed
  chosen : ∀ count id position, run.placed[count]? = some (id, position) →
    ∃ source later : σ,
      Chooses settings (start.placePoints (run.placed.take count)) id source position later

theorem kept_accounted (settings : Settings α) (start : Registry α) :
    Kept settings (Accounted settings start : Run σ α → Prop) := by
  intro run id position source accounted chosen
  refine ⟨?_, fun count other place stored => ?_⟩
  · change run.registry.placePoint id position = start.placePoints (run.placed ++ [_])
    rw [Registry.placePoints_append, ← accounted.registry]
    rfl
  · change (run.placed ++ [(id, position)])[count]? = some (other, place) at stored
    change ∃ before after : σ, Chooses settings
      (start.placePoints ((run.placed ++ [(id, position)]).take count)) other before place after
    rw [List.getElem?_append] at stored
    split at stored
    case isTrue earlier =>
      rw [List.take_append_of_le_length (Nat.le_of_lt earlier)]
      exact accounted.chosen count other place stored
    case isFalse last =>
      -- A place after all earlier ones is the one that is chosen now.
      obtain ⟨here, same⟩ : count - run.placed.length = 0 ∧ (id, position) = (other, place) := by
        rw [List.getElem?_singleton] at stored
        split at stored
        · exact ⟨‹_›, Option.some.inj stored⟩
        · cases stored
      cases same
      obtain rfl : count = run.placed.length := by omega
      rw [List.take_left, ← accounted.registry]
      exact ⟨run.source, source, chosen⟩

/-- A registry stays well formed in the course of a run. -/
theorem wellFormed_moment (settings : Settings α) (progress : Progress σ α)
    (formed : Construction.WellFormed progress.registry) (count : Nat) :
    Construction.WellFormed (moment settings progress count) := by
  have fresh := (fresh_placed settings progress).1
  rw [← List.take_append_drop count (placeAll settings progress).2.placed,
    Registry.fresh_append] at fresh
  exact (frame_placePoints fresh.1).wellFormed formed

/-- Each place that a run gives to a point was chosen at that moment. -/
theorem chooses_at_moment (settings : Settings α) (progress : Progress σ α) {count : Nat}
    {id : PointId} {position : Vec α}
    (stored : (placeAll settings progress).2.placed[count]? = some (id, position)) :
    ∃ source later : σ,
      Chooses settings (moment settings progress count) id source position later := by
  have start : Accounted settings progress.registry (.start progress : Run σ α) :=
    ⟨rfl, fun _ _ _ stored => by cases stored⟩
  have begins (run : Run σ α) (accounted : Accounted settings progress.registry run) :
      Accounted settings progress.registry run.beginRound :=
    ⟨accounted.registry, accounted.chosen⟩
  exact ((kept_accounted settings progress.registry).placeAll begins start).chosen count id
    position stored

end FigureMarkup.Placement
