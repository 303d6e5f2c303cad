import FigureMarkup.Proofs.Construction.WellFormed
import FigureMarkup.Proofs.Figure.Spans

/-!
# Identity of entities

Entities have two identities. The index of names keeps them apart by their names in lower case,
and searches keep lines, polygons and angles apart by their points. Both hold of every registry
that declarations build: the index has exactly the entities of the registry, and no two entities of
a kind are known by the same points.
-/

namespace FigureMarkup.Construction

open Figure Plane Markup

variable {α : Type}

/-! ## By name -/

/-- Every entry of the index is about an entity, and has its name in lower case. -/
def EntriesNamed (registry : Registry α) : Prop :=
  ∀ kind key index, registry.names.lookup (kind, key) = some index →
    ∃ name, registry.name (.ofIndex kind index) = some name ∧ Text.lower name = key

theorem Change.entriesNamed {declaration : Declaration} {before after : Registry α}
    (change : Change declaration before after) (named : EntriesNamed before) :
    EntriesNamed after := by
  intro kind key index entry
  rcases change.sameNames with same | ⟨created, name, -, same⟩
  · rw [same.names] at entry
    rw [same.name]
    exact named _ _ _ entry
  · rw [same.names, Registry.names_add, List.lookup_cons] at entry
    rw [same.name, Registry.name_add]
    cases equal : (kind, key) == (created, Text.lower name) with
    | true =>
      obtain ⟨rfl, rfl⟩ : kind = created ∧ key = Text.lower name := by simpa using equal
      obtain rfl : before.count kind = index := by simpa using entry
      exact ⟨name, if_pos rfl, rfl⟩
    | false =>
      simp only [equal] at entry
      obtain ⟨known, stored, lowered⟩ := named _ _ _ entry
      have earlier : EntityRef.ofIndex kind index ≠ before.newest created := by
        intro newest
        rw [newest, Registry.name_newest] at stored
        cases stored
      exact ⟨known, by rw [if_neg earlier, stored], lowered⟩

theorem Changes.entriesNamed {declaration : Declaration} {before after : Registry α}
    (changes : Changes declaration before after) (named : EntriesNamed before) :
    EntriesNamed after := by
  induction changes with
  | refl => exact named
  | tail _ change ih => exact change.entriesNamed ih

/-- The index of names has exactly the entities of a registry, under their names in lower case. -/
structure NamesEntities (registry : Registry α) : Prop where
  exact : ∀ {kind key index}, registry.names.lookup (kind, key) = some index ↔
    ∃ name, registry.name (.ofIndex kind index) = some name ∧ Text.lower name = key
  found : ∀ {entity name spelling}, registry.name entity = some name →
    Text.lower spelling = Text.lower name → registry.find? entity.kind spelling = some entity
  apart : ∀ {first second name other}, first.kind = second.kind →
    registry.name first = some name → registry.name second = some other →
    Text.lower name = Text.lower other → first = second

/-- An entity is found by its name in any case of its letters. -/
theorem Indexed.index?_spelling {registry : Registry α} (indexed : Indexed registry)
    {entity : EntityRef} {name spelling : String} (named : registry.name entity = some name)
    (same : Text.lower spelling = Text.lower name) :
    registry.index? entity.kind spelling = some entity.index :=
  (registry.index?_congr entity.kind same).trans (indexed.found named)

theorem Indexed.find?_spelling {registry : Registry α} (indexed : Indexed registry)
    {entity : EntityRef} {name spelling : String} (named : registry.name entity = some name)
    (same : Text.lower spelling = Text.lower name) :
    registry.find? entity.kind spelling = some entity := by
  rw [Registry.find?, indexed.index?_spelling named same, Option.map_some,
    EntityRef.ofIndex_kind_index]

theorem Indexed.namesEntities {registry : Registry α} (indexed : Indexed registry)
    (named : EntriesNamed registry) : NamesEntities registry where
  exact {kind key index} := by
    refine ⟨named kind key index, ?_⟩
    rintro ⟨name, stored, rfl⟩
    simpa [Registry.index?] using indexed.found stored
  found named same := indexed.find?_spelling named same
  apart {first second name other} ofKind named alsoNamed same := by
    have one := indexed.find?_spelling named rfl
    have two := indexed.find?_spelling alsoNamed same
    rw [ofKind, two, Option.some.injEq] at one
    exact one.symm

/-! ## By points -/

/-- The points of an entity are those from before, or it is new and no entity of its kind was known
by its points. -/
theorem Change.span_cases {declaration : Declaration} {before after : Registry α}
    (change : Change declaration before after) {entity : EntityRef} {points : List PointId}
    (spanned : after.span? entity = some points) :
    before.span? entity = some points ∨
      entity = before.newest entity.kind ∧
        before.Finds entity.kind points none := by
  cases entity with
  | point id => cases spanned
  | circle id => cases spanned
  | line id =>
      obtain ⟨line, stored, rfl⟩ := Option.map_eq_some_iff.1 spanned
      rcases change.line_cases stored with ⟨old, stored, first, second⟩ |
        ⟨a, b, first, second, distinct, -, -, rfl, unjoined⟩
      · exact .inl (by simp [Registry.span?, stored, Line.endpoints, first, second])
      · have finds := before.finds_findLine? distinct
        rw [unjoined] at finds
        have points : line.endpoints = [a, b] := by simp [Line.endpoints, first, second]
        exact .inr ⟨rfl, points ▸ finds⟩
  | polygon id =>
      obtain ⟨polygon, stored, rfl⟩ := Option.map_eq_some_iff.1 spanned
      rcases change.polygon_cases stored with ⟨old, stored, same⟩ | ⟨-, -, -, rfl, unclosed⟩
      · exact .inl (by simp [Registry.span?, stored, same])
      · have finds := before.finds_findPolygon? polygon.vertices
        rw [unclosed] at finds
        exact .inr ⟨rfl, finds⟩
  | angle id =>
      obtain ⟨angle, stored, rfl⟩ := Option.map_eq_some_iff.1 spanned
      rcases change.angle_cases stored with ⟨old, stored, same⟩ |
        ⟨p1, vertex, p3, first, middle, last, distinct, -, ⟨rfl, unspanned⟩, -⟩
      · exact .inl (by simp [Registry.span?, stored, Angle.points, same.p1, same.vertex, same.p3])
      · have finds := before.finds_findAngle? distinct
        rw [unspanned] at finds
        have points : angle.points = [p1, vertex, p3] := by
          simp [Angle.points, first, middle, last]
        exact .inr ⟨rfl, points ▸ finds⟩

theorem Change.spansApart {declaration : Declaration} {before after : Registry α}
    (change : Change declaration before after) (apart : before.SpansApart) :
    after.SpansApart := by
  intro first second points others ofKind spanned alsoSpanned same
  rcases change.span_cases spanned with old | ⟨created, ⟨absent⟩⟩ <;>
    rcases change.span_cases alsoSpanned with alsoOld | ⟨alsoCreated, ⟨alsoAbsent⟩⟩
  · exact apart _ _ _ _ ofKind old alsoOld same
  · exact absurd (ofKind ▸ same) (alsoAbsent ofKind old)
  · exact absurd same.symm (absent ofKind.symm alsoOld)
  · rw [created, ofKind, ← alsoCreated]

/-! ## In registries that declarations build -/

variable [Scalar α]

theorem namesEntities_construct (palette : Palette) (declarations : List Declaration) :
    NamesEntities (construct palette declarations : Registry α) := by
  have start : EntriesNamed (Registry.empty palette : Registry α) := fun _ _ _ entry => by
    cases entry
  have ⟨formed, named⟩ := construct_induction start declarations
    fun _ _ _ _ _ change named => change.entriesNamed named
  exact formed.indexed.namesEntities named

theorem spansApart_construct (palette : Palette) (declarations : List Declaration) :
    (construct palette declarations : Registry α).SpansApart := by
  have start : (Registry.empty palette : Registry α).SpansApart := by
    intro first second points others _ spanned
    cases first <;> cases spanned
  exact (construct_induction start declarations
    fun _ _ _ _ _ change apart => change.spansApart apart).2

end FigureMarkup.Construction
