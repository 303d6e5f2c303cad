import FigureMarkup.Proofs.Figure.Views

/-!
# Entities by their points

A line, a polygon and an angle are known by their points. The order of the points does not count,
except that an angle has its vertex in the middle. A search for points finds an entity that is
known by them, if there is one, and it fails only if there is none.
-/

namespace FigureMarkup.Figure

variable {α : Type}

theorem sameMembers_iff {β : Type} [BEq β] [LawfulBEq β] {first second : List β} :
    sameMembers first second = true ↔ ∀ member, member ∈ first ↔ member ∈ second := by
  simp only [sameMembers, Bool.and_eq_true, List.all_eq_true, List.contains_iff_mem]
  constructor
  · rintro ⟨included, includes⟩ member
    exact ⟨included member, includes member⟩
  · intro same
    exact ⟨fun member => (same member).1, fun member => (same member).2⟩

/-- Two lists of points belong to one entity of a kind. -/
def Coincide (kind : EntityKind) (first second : List PointId) : Prop :=
  (∀ id, id ∈ first ↔ id ∈ second) ∧ (kind = .angle → first[1]? = second[1]?)

theorem Coincide.refl {kind : EntityKind} {points : List PointId} : Coincide kind points points :=
  ⟨fun _ => .rfl, fun _ => rfl⟩

theorem Coincide.symm {kind : EntityKind} {first second : List PointId}
    (same : Coincide kind first second) : Coincide kind second first :=
  ⟨fun id => (same.1 id).symm, fun angle => (same.2 angle).symm⟩

theorem Coincide.trans {kind : EntityKind} {first second third : List PointId}
    (one : Coincide kind first second) (two : Coincide kind second third) :
    Coincide kind first third :=
  ⟨fun id => (one.1 id).trans (two.1 id), fun angle => (one.2 angle).trans (two.2 angle)⟩

theorem forall_mem_pair_iff {β : Type} {first second a b : β} (distinct : a ≠ b) :
    (∀ member, member ∈ [first, second] ↔ member ∈ [a, b]) ↔
      first = a ∧ second = b ∨ first = b ∧ second = a := by
  simp only [List.mem_cons, List.not_mem_nil, or_false]
  constructor
  · intro same
    have hasA := (same a).2 (.inl rfl)
    have hasB := (same b).2 (.inr rfl)
    grind
  · rintro (⟨rfl, rfl⟩ | ⟨rfl, rfl⟩) member
    · rfl
    · exact or_comm

theorem Line.mem_endpoints {line : Line} {id : PointId} :
    id ∈ line.endpoints ↔ line.p1 = some id ∨ line.p2 = some id := by
  simp [Line.endpoints]

/-- A line joins two different points if they are its endpoints. -/
theorem Line.joins_iff {line : Line} {a b : PointId} (distinct : a ≠ b) :
    line.joins (some a) (some b) = true ↔ Coincide .line line.endpoints [a, b] := by
  have joined : line.joins (some a) (some b) = true ↔
      line.p1 = some a ∧ line.p2 = some b ∨ line.p1 = some b ∧ line.p2 = some a := by
    simp [Line.joins]
  simp only [joined, Coincide, Line.mem_endpoints, List.mem_cons, List.not_mem_nil, or_false,
    reduceCtorEq, false_implies, and_true]
  constructor
  · rintro (⟨first, second⟩ | ⟨first, second⟩) id <;>
      simp only [first, second, Option.some.injEq] <;> grind
  · intro same
    have hasA := (same a).2 (.inl rfl)
    have hasB := (same b).2 (.inr rfl)
    grind

/-- The points of an angle, its vertex in the middle. -/
def Angle.points (angle : Angle α) : List PointId :=
  angle.p1.toList ++ angle.vertex.toList ++ angle.p3.toList

theorem Angle.mem_points {angle : Angle α} {id : PointId} :
    id ∈ angle.points ↔ angle.p1 = some id ∨ angle.vertex = some id ∨ angle.p3 = some id := by
  simp [Angle.points]

/-- An angle has a vertex and two arms if its points are these, with the vertex in the middle. -/
theorem Angle.spans_iff {angle : Angle α} {p1 vertex p3 : PointId}
    (distinct : [p1, vertex, p3].Nodup) :
    (angle.vertex == some vertex && sameMembers [angle.p1, angle.p3] [some p1, some p3]) = true ↔
      Coincide .angle angle.points [p1, vertex, p3] := by
  have ⟨⟨_, arms⟩, _⟩ : (p1 ≠ vertex ∧ p1 ≠ p3) ∧ vertex ≠ p3 := by simpa using distinct
  rw [Bool.and_eq_true, beq_iff_eq, sameMembers_iff, forall_mem_pair_iff (by simpa using arms)]
  constructor
  · rintro ⟨middle, ⟨first, last⟩ | ⟨first, last⟩⟩
    · simp [Coincide, Angle.points, first, middle, last]
    · refine ⟨fun id => ?_, fun _ => by simp [Angle.points, first, middle]⟩
      simp only [Angle.mem_points, first, middle, last]
      grind
  · rintro ⟨same, centered⟩
    have hasFirst := Angle.mem_points.1 ((same p1).2 (by simp))
    have hasVertex := Angle.mem_points.1 ((same vertex).2 (by simp))
    have hasLast := Angle.mem_points.1 ((same p3).2 (by simp))
    -- Three different points take up all three places, so that none is open.
    obtain ⟨x, y, z, first, middle, last⟩ :
        ∃ x y z, angle.p1 = some x ∧ angle.vertex = some y ∧ angle.p3 = some z := by grind
    have center : y = vertex := by
      simpa [Angle.points, first, middle, last] using centered rfl
    grind

namespace Registry

/-- The points of a line, a polygon or an angle that the registry has. -/
def span? (registry : Registry α) : EntityRef → Option (List PointId)
  | .line id => (registry.line? id).map Line.endpoints
  | .polygon id => (registry.polygon? id).map Polygon.vertices
  | .angle id => (registry.angle? id).map Angle.points
  | .point _ | .circle _ => none

/-- No two entities of a kind are known by the same points. -/
def SpansApart (registry : Registry α) : Prop :=
  ∀ first second points others, first.kind = second.kind →
    registry.span? first = some points → registry.span? second = some others →
    Coincide first.kind points others → first = second

/-! ## Searching for points -/

/-- The answers that a search for an entity of a kind with some points may give. -/
inductive Finds (registry : Registry α) (kind : EntityKind) (points : List PointId) :
    Option EntityRef → Prop
  | nothing (absent : ∀ {entity others}, entity.kind = kind →
      registry.span? entity = some others → ¬ Coincide kind others points) :
      Finds registry kind points none
  | entity {found : EntityRef} {others : List PointId} (ofKind : found.kind = kind)
      (spanned : registry.span? found = some others) (same : Coincide kind others points) :
      Finds registry kind points (some found)

/-- A search through the entities of a kind that tests them for some points. -/
theorem finds_findIdx? {registry : Registry α} (kind : EntityKind) {points : List PointId}
    {β : Type} {entries : Array β} {span : β → List PointId} {wanted : β → Bool}
    (spans : ∀ i, registry.span? (.ofIndex kind i) = entries[i]?.map span)
    (tests : ∀ entry, wanted entry = true ↔ Coincide kind (span entry) points) :
    Finds registry kind points ((entries.findIdx? wanted).map (.ofIndex kind)) := by
  cases search : entries.findIdx? wanted with
  | none =>
      refine .nothing fun {entity others} ofKind spanned same => ?_
      rw [← entity.ofIndex_kind_index, ofKind, spans, Option.map_eq_some_iff] at spanned
      obtain ⟨entry, stored, rfl⟩ := spanned
      have refused :=
        Array.findIdx?_eq_none_iff.1 search entry (Array.mem_of_getElem? stored)
      rw [(tests entry).2 same] at refused
      cases refused
  | some i =>
      obtain ⟨bound, accepted, -⟩ := Array.findIdx?_eq_some_iff_getElem.1 search
      have spanned : registry.span? (.ofIndex kind i) = some (span entries[i]) := by
        rw [spans, Array.getElem?_eq_getElem bound, Option.map_some]
      exact .entity (EntityRef.kind_ofIndex kind i) spanned ((tests _).1 accepted)

theorem finds_findLine? (registry : Registry α) {a b : PointId} (distinct : a ≠ b) :
    Finds registry .line [a, b] ((registry.findLine? a b).map .line) := by
  rw [findLine?, Option.map_map]
  exact finds_findIdx? .line (fun _ => rfl) fun _ => Line.joins_iff distinct

theorem finds_findPolygon? (registry : Registry α) (vertices : List PointId) :
    Finds registry .polygon vertices ((registry.findPolygon? vertices).map .polygon) := by
  rw [findPolygon?, Option.map_map]
  refine finds_findIdx? .polygon (fun _ => rfl) fun polygon => ?_
  simp [sameMembers_iff, Coincide]

theorem finds_findAngle? (registry : Registry α) {p1 vertex p3 : PointId}
    (distinct : [p1, vertex, p3].Nodup) :
    Finds registry .angle [p1, vertex, p3] ((registry.findAngle? p1 vertex p3).map .angle) := by
  rw [findAngle?, Option.map_map]
  exact finds_findIdx? .angle (fun _ => rfl) fun _ => Angle.spans_iff distinct

/-- A search finds the entity that is known by the points, since there is only one. -/
theorem Finds.eq_some {registry : Registry α} {kind : EntityKind} {points others : List PointId}
    {answer : Option EntityRef} (finds : Finds registry kind points answer)
    (apart : registry.SpansApart) {entity : EntityRef} (ofKind : entity.kind = kind)
    (spanned : registry.span? entity = some others) (same : Coincide kind others points) :
    answer = some entity := by
  cases finds with
  | nothing absent => exact absurd same (absent ofKind spanned)
  | entity foundKind foundSpan foundSame =>
      subst ofKind
      exact congrArg some (apart _ _ _ _ foundKind foundSpan spanned
        (foundKind ▸ foundSame.trans same.symm))

end Registry

end FigureMarkup.Figure
