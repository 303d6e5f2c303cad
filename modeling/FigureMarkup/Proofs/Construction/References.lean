import FigureMarkup.Proofs.Construction.Applying
import Mathlib.Data.List.Basic

/-!
# References in larger figures

A reference finds a shape by its name, or by the letters of its points. A figure that has only more
points than another one has the same shapes under the same names, and the letters that label
points there label the same points here. So every reference that means a shape keeps its meaning.
-/

namespace FigureMarkup.Construction

open Figure Markup

variable {α : Type}

/-- A registry has the shapes of another one under their names, and at least its points. -/
structure SameShapes (before after : Registry α) : Prop where
  lines : after.lines = before.lines
  polygons : after.polygons = before.polygons
  index? : ∀ {kind}, kind ≠ .point → ∀ name, after.index? kind name = before.index? kind name
  point : ∀ {label index}, before.index? .point label = some index →
    after.index? .point label = some index

namespace SameShapes

variable {before after : Registry α} {name : String}

theorem refl (registry : Registry α) : SameShapes registry registry :=
  ⟨rfl, rfl, fun _ _ => rfl, id⟩

/-- A point is entered. -/
theorem enterPoint {later : Registry α} (same : SameShapes before after) {id : PointId}
    (entered : after.enterPoint name = (id, later)) : SameShapes before later := by
  rcases after.enter_eq .point name with ⟨index, known, found⟩ | ⟨fresh, created⟩
  · rw [Registry.enterPoint, found] at entered
    cases entered
    exact same
  · rw [Registry.enterPoint, created] at entered
    cases entered
    refine ⟨same.lines, same.polygons, fun {kind} other sought => ?_, fun known => ?_⟩
    · rw [Registry.index?_add, if_neg fun both => other both.1, same.index? other]
    · exact Registry.index?_add_of_known fresh (same.point known)

theorem enterPoints {later : Registry α} (same : SameShapes before after) {names : List String}
    {ids : List PointId} (entered : after.enterPoints names = (ids, later)) :
    SameShapes before later := by
  induction names generalizing after ids with
  | nil =>
      cases entered
      exact same
  | cons name names ih =>
      obtain ⟨id, next, rest, first, others, rfl⟩ := exists_of_enterPoints_cons entered
      exact ih (same.enterPoint first) others

/-- A point is changed. -/
theorem modifyPoint (same : SameShapes before after) (id : PointId) {change : Point α → Point α}
    (keeps : ∀ point, (change point).name = point.name) :
    SameShapes before (after.modifyPoint id change) where
  lines := same.lines
  polygons := same.polygons
  index? other sought :=
    ((after.sameNames_modifyPoint id keeps).index? ..).trans (same.index? other sought)
  point known := ((after.sameNames_modifyPoint id keeps).index? ..).trans (same.point known)

variable (same : SameShapes before after)

include same

theorem labelledPoints? {ids : List PointId} (known : labelledPoints? before name = some ids) :
    labelledPoints? after name = some ids := by
  unfold Construction.labelledPoints? at known ⊢
  generalize labels name = letters at known ⊢
  induction letters generalizing ids with
  | nil => exact known
  | cons letter rest ih =>
      simp only [List.mapM_cons, bind, Option.bind_eq_some_iff, Option.map_eq_some_iff, pure]
        at known ⊢
      obtain ⟨_, ⟨index, first, rfl⟩, others, more, whole⟩ := known
      exact ⟨_, ⟨index, same.point first, rfl⟩, others, ih more, whole⟩

theorem findByPoints? (kind : EntityKind) (ids : List PointId) :
    findByPoints? after kind ids = findByPoints? before kind ids := by
  unfold Construction.findByPoints? Registry.findLine? Registry.findPolygon?
  rw [same.lines, same.polygons]

theorem find? {kind : EntityKind} (other : kind ≠ .point) (name : String) :
    after.find? kind name = before.find? kind name := by
  rw [Registry.find?, Registry.find?, same.index? other]

/-- What is found by its name or by its points stays so. -/
theorem lookup? {kind : EntityKind} {entity : EntityRef}
    (found : lookup? before kind name = some entity) : lookup? after kind name = some entity := by
  unfold Construction.lookup? at found ⊢
  by_cases other : kind = .point
  · subst other
    cases named : before.find? .point name with
    | some known =>
        obtain ⟨index, here, rfl⟩ := Option.map_eq_some_iff.1 named
        simpa [Registry.find?, same.point here, here] using found
    | none =>
        obtain ⟨ids, -, joined⟩ := Option.bind_eq_some_iff.1 (by simpa [named] using found)
        cases joined
  · rw [same.find? other]
    cases named : before.find? kind name with
    | some known => simpa [named] using found
    | none =>
        obtain ⟨ids, letters, here⟩ := Option.bind_eq_some_iff.1 (by simpa [named] using found)
        simp [same.labelledPoints? letters, same.findByPoints?, here]

/-- The shapes with a name are the same. -/
theorem findAll (name : String) :
    (after.findAll name).filterMap EntityRef.shape? =
      (before.findAll name).filterMap EntityRef.shape? := by
  unfold Registry.findAll
  rw [List.filterMap_filterMap, List.filterMap_filterMap]
  refine List.filterMap_congr fun kind _ => ?_
  by_cases other : kind = .point
  · subst other
    have shapeless (registry : Registry α) :
        (registry.find? .point name).bind EntityRef.shape? = none := by
      rw [Registry.find?, Option.bind_map]
      cases registry.index? .point name <;> rfl
    rw [shapeless, shapeless]
  · rw [same.find? other]

theorem candidates {shape : ShapeRef} (only : candidates before name = [shape]) :
    candidates after name = [shape] := by
  unfold Construction.candidates at only ⊢
  simp only [same.findAll] at only ⊢
  split at only
  case isTrue unnamed =>
    rw [if_pos unnamed]
    have member := List.mem_singleton_self shape
    rw [← only, List.mem_filterMap] at member
    obtain ⟨entity, member, shaped⟩ := member
    obtain ⟨kind, -, found⟩ := List.mem_filterMap.1 member
    -- Nothing has the name, so the shape was found by its points and all letters label some.
    obtain ⟨ids, letters⟩ : ∃ ids, Construction.labelledPoints? before name = some ids := by
      unfold Construction.lookup? at found
      cases named : before.find? kind name with
      | some known =>
          rw [List.isEmpty_iff, List.filterMap_eq_nil_iff] at unnamed
          have all : kind ∈ EntityKind.all := by cases kind <;> decide
          have unshaped := unnamed known (List.mem_filterMap.2 ⟨kind, all, named⟩)
          obtain rfl : known = entity := by simpa [named] using found
          simp [unshaped] at shaped
      | none =>
          obtain ⟨ids, letters, -⟩ := Option.bind_eq_some_iff.1 (by simpa [named] using found)
          exact ⟨ids, letters⟩
    rw [← only]
    congr 1
    refine List.filterMap_congr fun kind member => ?_
    have other : kind ≠ .point := by
      rintro rfl
      simp at member
    simp only [Construction.lookup?, same.find? other, letters, same.labelledPoints? letters,
      Option.bind_some, same.findByPoints?]
  case isFalse named => rw [if_neg named, only]

theorem referredShape {reference : String} {shape : ShapeRef}
    (referred : referredShape before reference = .ok shape) :
    referredShape after reference = .ok shape := by
  unfold Construction.referredShape at referred ⊢
  match parts : (Text.words reference.toList).map String.ofList with
  | [kind, name] =>
    simp only [parts, qualifiedShape] at referred ⊢
    cases ofName : EntityKind.ofName? kind with
    | none => simp [ofName] at referred
    | some kind =>
        cases found : Construction.lookup? before kind name with
        | none => simp [ofName, found] at referred
        | some entity => simpa [ofName, found, same.lookup? found] using referred
  | [name] =>
    simp only [parts, bareShape] at referred ⊢
    match only : Construction.candidates before name with
    | [] | _ :: _ :: _ => simp [only] at referred
    | [meant] => simpa [only, same.candidates only] using referred
  | [] | _ :: _ :: _ :: _ => simp [parts] at referred

end SameShapes

end FigureMarkup.Construction
