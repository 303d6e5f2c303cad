import FigureMarkup.Proofs.Placement.Run

/-!
# What places are chosen from

A point that a run puts somewhere goes anywhere, on one shape that it was asked to lie on, or where
some of these shapes meet. A property of runs that is kept when a point is put somewhere in this way
is kept by all that a run does.
-/

namespace FigureMarkup.Placement

open Figure Plane

variable {σ α : Type}

/-! ## Shapes of a point -/

/-- A shape may say where a point is put: it constrains the point, or the point was asked to lie
on it. -/
def MayPlace (registry : Registry α) (id : PointId) (ref : ShapeRef) : Prop :=
  ref ∈ constraintsOf registry id ∨ ref ∈ liesOnOf registry id

variable [Scalar α] [Random.Source σ α]

/-! ## Choices -/

/-- What a place for a point is chosen from. -/
inductive Chooses (settings : Settings α) (registry : Registry α) (id : PointId) (source : σ)
    (position : Vec α) (later : σ) : Prop
  | free (chosen : anywhere settings source = .ok (some (position, later)))
  | single {ref : ShapeRef} {shape : Shape α} (may : MayPlace registry id ref)
      (concrete : registry.shape? ref = some shape)
      (chosen : on settings shape source = .ok (some (position, later)))
  | meeting {refs : List ShapeRef} (may : ∀ ref ∈ refs, MayPlace registry id ref)
      (chosen : whereAllMeet settings (registry.shapes refs) source =
        .ok (some (position, later)))

section Rules

variable {settings : Settings α} {registry : Registry α} {id : PointId} {source later : σ}
  {position : Vec α}

theorem between?_of_anywhere
    (chosen : anywhere settings source = .ok (some (position, later))) :
    ∃ next : σ,
      Random.Source.between? (-Scalar.abs settings.bound) (Scalar.abs settings.bound) source =
        some (position.x, next) ∧
      Random.Source.between? (-Scalar.abs settings.bound) (Scalar.abs settings.bound) next =
        some (position.y, later) := by
  unfold anywhere at chosen
  dsimp only at chosen
  rcases first : Random.Source.between? (-Scalar.abs settings.bound) (Scalar.abs settings.bound)
    source with _ | ⟨x, next⟩
  · simp [first] at chosen
  · rcases second : Random.Source.between? (-Scalar.abs settings.bound)
      (Scalar.abs settings.bound) next with _ | ⟨y, last⟩
    · simp [first, second] at chosen
    · simp only [first, second] at chosen
      cases chosen
      exact ⟨next, rfl, second⟩

theorem randomPoint_of_on {shape : Shape α}
    (chosen : on settings shape source = .ok (some (position, later))) :
    (shape.randomPoint settings.padding source).1 = position :=
  congrArg Prod.fst (Option.some.inj (Except.ok.inj chosen))

theorem choose_of_whereAllMeet {shapes : List (Shape α)}
    (chosen : whereAllMeet settings shapes source = .ok (some (position, later))) :
    Random.choose (intersectAll shapes settings.tolerance) source = (some position, later) := by
  unfold whereAllMeet at chosen
  rcases found : Random.choose (intersectAll shapes settings.tolerance) source with
    ⟨_ | place, next⟩
  · simp [found] at chosen
  · simp only [found] at chosen
    cases chosen
    rfl

/-- The only concrete shape of some is one of them. -/
theorem Chooses.of_shapes {refs : List ShapeRef} {shape : Shape α}
    (may : ∀ ref ∈ refs, MayPlace registry id ref) (only : registry.shapes refs = [shape])
    (chosen : on settings shape source = .ok (some (position, later))) :
    Chooses settings registry id source position later := by
  have member : shape ∈ registry.shapes refs := by simp [only]
  obtain ⟨ref, among, concrete⟩ := List.mem_filterMap.1 member
  exact .single (may ref among) concrete chosen

/-- Where the constraints of a point put it. -/
theorem byConstraints_some
    (chosen : byConstraints settings registry id source = .ok (some (position, later))) :
    (constraintsOf registry id = [] ∧ anywhere settings source = .ok (some (position, later))) ∨
      (∃ constraint shape, constraintsOf registry id = [constraint] ∧
        registry.shape? constraint = some shape ∧
        on settings shape source = .ok (some (position, later))) ∨
      2 ≤ (registry.shapes (constraintsOf registry id)).length ∧
        whereAllMeet settings (registry.shapes (constraintsOf registry id)) source =
          .ok (some (position, later)) := by
  unfold byConstraints at chosen
  match constraints : constraintsOf registry id with
  | [] => exact .inl ⟨rfl, by simpa only [constraints] using chosen⟩
  | [constraint] =>
    cases concrete : registry.shape? constraint with
    | none => simp [constraints, concrete] at chosen
    | some shape =>
        simp only [constraints, concrete] at chosen
        exact .inr (.inl ⟨constraint, shape, rfl, concrete, chosen⟩)
  | first :: second :: more =>
    simp only [constraints] at chosen
    split at chosen
    case isTrue => cases chosen
    case isFalse several => exact .inr (.inr ⟨Nat.not_lt.1 several, chosen⟩)

theorem chooses_of_byConstraints
    (chosen : byConstraints settings registry id source = .ok (some (position, later))) :
    Chooses settings registry id source position later := by
  rcases byConstraints_some chosen with ⟨-, free⟩ | ⟨ref, shape, single, concrete, drawn⟩ |
    ⟨-, meeting⟩
  · exact .free free
  · exact .single (.inl (by simp [single])) concrete drawn
  · exact .meeting (fun _ => .inl) meeting

theorem chooses_of_weakerRules {rule : Rule σ α} (member : rule ∈ weakerRules)
    (chosen : rule settings registry id source = .ok (some (position, later))) :
    Chooses settings registry id source position later := by
  simp only [weakerRules, List.mem_cons, List.not_mem_nil, or_false] at member
  rcases member with rfl | rfl | rfl | rfl
  · unfold byRequest at chosen
    rcases asked : registry.shapes (liesOnOf registry id) with _ | ⟨shape, _ | ⟨second, rest⟩⟩ <;>
      simp only [asked] at chosen
    · cases chosen
    · exact .of_shapes (fun _ => .inr) asked chosen
    · exact .meeting (fun _ => .inr) (asked ▸ chosen)
  · unfold byCircle at chosen
    rcases known : registry.shapes ((constraintsOf registry id).filter ShapeRef.isCircle) with
      _ | ⟨circle, _ | ⟨second, rest⟩⟩ <;> simp only [known] at chosen
    · cases chosen
    · exact .of_shapes (fun _ among => .inl (List.mem_filter.1 among).1) known chosen
    · cases chosen
  · unfold byDefinition at chosen
    split at chosen
    case isTrue => exact .free chosen
    case isFalse => cases chosen
  · unfold byLines at chosen
    split at chosen
    case isTrue => exact .free chosen
    case isFalse => cases chosen

end Rules

/-! ## Runs that keep a property -/

/-- A property of runs stays true when a point is put somewhere. -/
def Kept (settings : Settings α) (P : Run σ α → Prop) : Prop :=
  ∀ run id position source, P run →
    Chooses settings run.registry id run.source position source → P (run.place id position source)

namespace Kept

variable {settings : Settings α} {P : Run σ α → Prop} (kept : Kept settings P)

include kept

theorem scatter {run : Run σ α} (holds : P run) (ids : List PointId) :
    P (scatter settings run ids).2 := by
  induction ids generalizing run with
  | nil => exact holds
  | cons id ids ih =>
      have step := scattering settings run id ids
      generalize Placement.scatter settings run (id :: ids) = attempt at step ⊢
      cases step with
      | known => exact ih holds
      | put _ _ position source chosen => exact ih (kept run id _ _ holds (.free chosen))
      | refused => exact holds
      | kept => exact ih holds

theorem round {run : Run σ α} (holds : P run) (ids : List PointId) :
    P (round settings run ids).2 := by
  induction ids generalizing run with
  | nil => exact holds
  | cons id ids ih =>
      have step := visiting settings run id ids
      generalize Placement.round settings run (id :: ids) = attempt at step ⊢
      cases step with
      | put position source chosen =>
          exact ih (kept run id _ _ holds (chooses_of_byConstraints chosen))
      | refused => exact holds
      | kept => exact ih holds

theorem placeFirst {rule : Rule σ α} (member : rule ∈ weakerRules) {run : Run σ α}
    (holds : P run) (ids : List PointId) : P (placeFirst settings rule run ids).2 := by
  induction ids with
  | nil => exact holds
  | cons id ids ih =>
      rw [Placement.placeFirst]
      rcases chosen : rule settings run.registry id run.source with error | _ | ⟨position, source⟩
      · exact holds
      · exact ih
      · exact kept run id position source holds (chooses_of_weakerRules member chosen)

theorem placeByRules {rules : List (Rule σ α)} (included : ∀ rule ∈ rules, rule ∈ weakerRules)
    {run : Run σ α} (holds : P run) (stuck : List PointId) :
    P (placeByRules settings run stuck rules).2 := by
  induction rules generalizing run with
  | nil => exact holds
  | cons rule rules ih =>
      have first := kept.placeFirst (included rule List.mem_cons_self) holds stuck
      rw [Placement.placeByRules]
      rcases tried : Placement.placeFirst settings rule run stuck with
        ⟨error | _ | placed, later⟩ <;> rw [tried] at first
      · exact first
      · exact ih (fun other member => included other (List.mem_cons_of_mem rule member)) first
      · exact first

theorem pass {run : Run σ α} (holds : P run) (ids : List PointId) :
    P (pass settings run ids).2 := by
  have visiting := kept.round holds ids
  rw [Placement.pass]
  rcases visited : Placement.round settings run ids with ⟨error | left, later⟩ <;>
    rw [visited] at visiting
  · exact visiting
  · dsimp only
    split
    case isTrue => exact visiting
    case isFalse =>
      have ruling := kept.placeByRules (fun _ member => member) visiting left
      rcases ruled : Placement.placeByRules settings later left weakerRules with
        ⟨error | _ | placed, last⟩ <;> rw [ruled] at ruling <;> exact ruling

end Kept

end FigureMarkup.Placement
