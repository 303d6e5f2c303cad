import FigureMarkup.Proofs.Placement.Frame
import FigureMarkup.Proofs.Strict.Figure
import FigureMarkup.Proofs.Strict.Random

/-!
# Strict rules of placement

A rule looks up the constraints of a point and the shapes that these name, and it draws from ranges
and lists. In strict form everything that is looked up has to be held, and every range has to be
filled. For the points of a well-formed figure the strict rules give what the usual ones give.
-/

namespace FigureMarkup.Strict

open Figure Plane Construction Placement FigureMarkup.Random

variable {σ α : Type}

abbrev Rule (σ α : Type) := Settings α → Registry α → PointId → σ → Option (Choice σ α)

/-! ## Constraints -/

def constraintsOf (registry : Registry α) (id : PointId) : Option (List ShapeRef) :=
  (registry.point? id).map Point.constraints

def liesOnOf (registry : Registry α) (id : PointId) : Option (List ShapeRef) :=
  (registry.point? id).map Point.liesOn

/-- The shapes that a point of a well-formed figure has to lie on are held, and those that it was
asked to lie on are among them. -/
theorem constraints_of_held {registry : Registry α} {id : PointId} (formed : WellFormed registry)
    (held : registry.Holds (.point id)) :
    constraintsOf registry id = some (Placement.constraintsOf registry id) ∧
      liesOnOf registry id = some (Placement.liesOnOf registry id) ∧
      (∀ shape ∈ Placement.constraintsOf registry id, registry.Holds shape.entity) ∧
      ∀ shape ∈ Placement.liesOnOf registry id, registry.Holds shape.entity := by
  obtain ⟨point, stored⟩ := Registry.holds_point_iff.1 held
  have sound := formed.points id point stored
  simp only [constraintsOf, liesOnOf, Placement.constraintsOf, Placement.liesOnOf, stored,
    Option.map_some, Option.getD_some, true_and]
  exact ⟨sound.held, fun shape member => sound.held shape (sound.included shape member)⟩

/-! ## Rules -/

variable [Scalar α] [Source σ α]

def anywhere (settings : Settings α) (source : σ) : Option (Choice σ α) := do
  let bound := Scalar.abs settings.bound
  let (x, source) ← Source.between? (-bound) bound source
  let (y, source) ← Source.between? (-bound) bound source
  return .ok (some (⟨x, y⟩, source))

def on (settings : Settings α) (shape : Shape α) (source : σ) : Option (Choice σ α) := do
  let drawn ← randomPoint shape settings.padding source
  return .ok (some drawn)

def whereAllMeet (settings : Settings α) (shapes : List (Shape α)) (source : σ) :
    Option (Choice σ α) := do
  let positions ← intersectAll shapes settings.tolerance
  match ← choose positions source with
  | (some position, source) => return .ok (some (position, source))
  | (none, _) => return .ok none

def byConstraints : Rule σ α := fun settings registry id source => do
  match ← constraintsOf registry id with
  | [] => anywhere settings source
  | [constraint] => do
      match ← shape registry constraint with
      | some shape => on settings shape source
      | none => return .ok none
  | constraints => do
      let shapes ← shapes registry constraints
      if shapes.length < 2 then return .ok none else whereAllMeet settings shapes source

def byRequest : Rule σ α := fun settings registry id source => do
  match ← shapes registry (← liesOnOf registry id) with
  | [] => return .ok none
  | [shape] => on settings shape source
  | shapes => whereAllMeet settings shapes source

def byCircle : Rule σ α := fun settings registry id source => do
  match ← shapes registry ((← constraintsOf registry id).filter ShapeRef.isCircle) with
  | [circle] => on settings circle source
  | _ => return .ok none

def byDefinition : Rule σ α := fun settings registry id source => do
  let defined ← (← constraintsOf registry id).mapM fun shape =>
    withHeld registry shape.entity (registry.defines id shape)
  if defined.all (fun within => within) then anywhere settings source else return .ok none

def byLines : Rule σ α := fun settings registry id source => do
  if (← constraintsOf registry id).all ShapeRef.isLine then anywhere settings source
  else return .ok none

def weakerRules : List (Rule σ α) := [byRequest, byCircle, byDefinition, byLines]

/-! ## Rules for held points -/

/-- A strict rule gives what the usual one gives, for all points of well-formed figures. -/
def Agrees (settings : Settings α) (strict : Rule σ α) (rule : Placement.Rule σ α) : Prop :=
  ∀ {registry : Registry α} {id : PointId} (source : σ), WellFormed registry →
    registry.Holds (.point id) →
      strict settings registry id source = some (rule settings registry id source)

section Rules

variable {settings : Settings α} (filled : Filled σ settings)

include filled

theorem anywhere_eq (source : σ) :
    anywhere settings source = some (Placement.anywhere settings source) := by
  unfold anywhere Placement.anywhere
  obtain ⟨⟨x, later⟩, first⟩ := Option.isSome_iff_exists.1 (filled.square source)
  obtain ⟨⟨y, last⟩, second⟩ := Option.isSome_iff_exists.1 (filled.square later)
  simp [first, second]

theorem on_eq (shape : Shape α) (source : σ) :
    on settings shape source = some (Placement.on settings shape source) := by
  rw [on, randomPoint_eq filled]
  rfl

theorem whereAllMeet_eq (shapes : List (Shape α)) (source : σ) :
    whereAllMeet settings shapes source =
      some (Placement.whereAllMeet settings shapes source) := by
  simp only [whereAllMeet, intersectAll_eq filled, choose_eq filled, Option.bind_eq_bind,
    Option.bind_some, Placement.whereAllMeet]
  rcases Random.choose (Plane.intersectAll shapes settings.tolerance) source with
    ⟨_ | position, later⟩ <;> rfl

theorem agrees_byConstraints :
    Agrees settings (byConstraints : Rule σ α) Placement.byConstraints := by
  intro registry id source formed held
  obtain ⟨constraints, -, known, -⟩ := constraints_of_held formed held
  simp only [byConstraints, Placement.byConstraints, constraints, Option.bind_eq_bind,
    Option.bind_some]
  generalize Placement.constraintsOf registry id = constraints at known ⊢
  have curves := shapes_eq formed known
  rcases constraints with _ | ⟨first, _ | ⟨second, rest⟩⟩
  · exact anywhere_eq filled source
  · simp only [shape_eq formed (known first List.mem_cons_self), Option.bind_some]
    cases registry.shape? first with
    | none => rfl
    | some shape => exact on_eq filled shape source
  · simp only [curves, Option.bind_some]
    split
    · rfl
    · exact whereAllMeet_eq filled _ source

theorem agrees_byRequest : Agrees settings (byRequest : Rule σ α) Placement.byRequest := by
  intro registry id source formed held
  obtain ⟨-, requested, -, known⟩ := constraints_of_held formed held
  simp only [byRequest, Placement.byRequest, requested, shapes_eq formed known,
    Option.bind_eq_bind, Option.bind_some]
  rcases registry.shapes (Placement.liesOnOf registry id) with _ | ⟨first, _ | ⟨second, rest⟩⟩
  · rfl
  · exact on_eq filled first source
  · exact whereAllMeet_eq filled _ source

theorem agrees_byCircle : Agrees settings (byCircle : Rule σ α) Placement.byCircle := by
  intro registry id source formed held
  obtain ⟨constraints, -, known, -⟩ := constraints_of_held formed held
  have circles : ∀ shape ∈ (Placement.constraintsOf registry id).filter ShapeRef.isCircle,
      registry.Holds shape.entity :=
    fun shape member => known shape (List.mem_filter.1 member).1
  simp only [byCircle, Placement.byCircle, constraints, shapes_eq formed circles,
    Option.bind_eq_bind, Option.bind_some]
  generalize registry.shapes _ = curves
  rcases curves with _ | ⟨first, _ | ⟨second, rest⟩⟩
  · rfl
  · exact on_eq filled first source
  · rfl

theorem agrees_byDefinition :
    Agrees settings (byDefinition : Rule σ α) Placement.byDefinition := by
  intro registry id source formed held
  obtain ⟨constraints, -, known, -⟩ := constraints_of_held formed held
  have looked : (Placement.constraintsOf registry id).mapM (fun shape =>
      withHeld registry shape.entity (registry.defines id shape)) =
        some ((Placement.constraintsOf registry id).map (registry.defines id)) :=
    mapM_eq fun shape member => withHeld_eq (known shape member) _
  simp only [byDefinition, Placement.byDefinition, constraints, looked, Option.bind_eq_bind,
    Option.bind_some, List.all_map]
  by_cases defined : (Placement.constraintsOf registry id).all (registry.defines id) = true
  · rw [if_pos defined]
    exact (if_pos defined).trans (anywhere_eq filled source)
  · rw [if_neg defined]
    exact if_neg defined

theorem agrees_byLines : Agrees settings (byLines : Rule σ α) Placement.byLines := by
  intro registry id source formed held
  obtain ⟨constraints, -, -, -⟩ := constraints_of_held formed held
  simp only [byLines, Placement.byLines, constraints, Option.bind_eq_bind, Option.bind_some]
  split
  · exact anywhere_eq filled source
  · rfl

theorem agrees_weakerRules :
    List.Forall₂ (Agrees settings) (weakerRules : List (Rule σ α)) Placement.weakerRules :=
  .cons (agrees_byRequest filled) <| .cons (agrees_byCircle filled) <|
    .cons (agrees_byDefinition filled) <| .cons (agrees_byLines filled) .nil

end Rules

end FigureMarkup.Strict
