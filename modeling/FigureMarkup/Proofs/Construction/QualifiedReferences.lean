import FigureMarkup.Proofs.Construction.Identity
import FigureMarkup.Proofs.Text.Words
import Mathlib.Data.List.Nodup

/-!
# Qualified references

A reference gives the kind and the name of a shape, or the name alone. A name alone means the shapes
that have it, and only if there are none those that its letters spell. So it means what it means
with the kind in front, if only one kind will do. Where several kinds will do, the shapes have the
name themselves, and each can be told by its kind and by the name under which it is stored.
-/

namespace FigureMarkup.Construction

open Figure Markup Text

variable {α : Type} {registry : Registry α} {name : String}

/-! ## References by kind and name -/

/-- The reference to a name with a kind in front of it. -/
def qualify (kind : EntityKind) (name : String) : String := kind.name ++ " " ++ name

/-- The kinds of entities that points can lie on. -/
def shapeKinds : List EntityKind := [.line, .circle, .polygon]

theorem toList_qualify (kind : EntityKind) (name : String) :
    (qualify kind name).toList = kind.name.toList ++ ' ' :: name.toList := by
  simp [qualify]

theorem isWord_kind (kind : EntityKind) : IsWord kind.name := by
  cases kind <;> decide

theorem ofName?_name (kind : EntityKind) : EntityKind.ofName? kind.name = some kind := by
  cases kind <;> decide +kernel

theorem words_qualify (kind : EntityKind) (name : String) :
    words (qualify kind name).toList = kind.name.toList :: words name.toList := by
  rw [toList_qualify, words_append_blank _ (by decide), words_of_isWord (isWord_kind kind),
    List.singleton_append]

theorem kind_of_findByPoints? {kind : EntityKind} {ids : List PointId} {entity : EntityRef}
    (found : findByPoints? registry kind ids = some entity) : entity.kind = kind := by
  unfold findByPoints? at found
  split at found
  · obtain ⟨_, -, rfl⟩ := Option.map_eq_some_iff.1 found
    rfl
  · split at found
    · obtain ⟨_, -, rfl⟩ := Option.map_eq_some_iff.1 found
      rfl
    · cases found
  · cases found

theorem kind_of_find? {kind : EntityKind} {entity : EntityRef}
    (found : registry.find? kind name = some entity) : entity.kind = kind := by
  obtain ⟨index, -, rfl⟩ := Option.map_eq_some_iff.1 found
  exact EntityRef.kind_ofIndex kind index

/-- What is found is found by its name, or nothing of its kind has the name and its points have
the letters. -/
theorem lookup?_eq_some_iff {kind : EntityKind} {entity : EntityRef} :
    lookup? registry kind name = some entity ↔ registry.find? kind name = some entity ∨
      registry.find? kind name = none ∧ ∃ ids, labelledPoints? registry name = some ids ∧
        findByPoints? registry kind ids = some entity := by
  unfold lookup?
  cases registry.find? kind name <;> simp [Option.bind_eq_some_iff]

theorem kind_of_lookup? {kind : EntityKind} {entity : EntityRef}
    (found : lookup? registry kind name = some entity) : entity.kind = kind := by
  rcases lookup?_eq_some_iff.1 found with named | ⟨-, ids, -, spelled⟩
  · exact kind_of_find? named
  · exact kind_of_findByPoints? spelled

theorem kind_mem_shapeKinds (shape : ShapeRef) : shape.entity.kind ∈ shapeKinds := by
  cases shape <;> simp [shapeKinds, ShapeRef.entity, EntityRef.kind]

theorem shape?_eq_some_iff {entity : EntityRef} {shape : ShapeRef} :
    entity.shape? = some shape ↔ entity = shape.entity := by
  cases entity <;> cases shape <;> simp [EntityRef.shape?, ShapeRef.entity]

theorem exists_shape {entity : EntityRef} (ofShapes : entity.kind ∈ shapeKinds) :
    ∃ shape : ShapeRef, entity = shape.entity := by
  cases entity with
  | line id => exact ⟨.line id, rfl⟩
  | circle id => exact ⟨.circle id, rfl⟩
  | polygon id => exact ⟨.polygon id, rfl⟩
  | point id => simp [shapeKinds, EntityRef.kind] at ofShapes
  | angle id => simp [shapeKinds, EntityRef.kind] at ofShapes

/-- A name with a kind in front of it means what is found under the two. Blanks around the name
make no difference. -/
theorem referredShape_qualify_iff_of_words {padded : String}
    (single : words padded.toList = [name.toList]) {kind : EntityKind}
    (ofShapes : kind ∈ shapeKinds) {shape : ShapeRef} :
    referredShape registry (qualify kind padded) = .ok shape ↔
      lookup? registry kind name = some shape.entity := by
  have read : referredShape registry (qualify kind padded) =
      qualifiedShape registry (qualify kind padded) kind.name name := by
    simp only [referredShape, words_qualify, single, List.map_cons, List.map_nil,
      String.ofList_toList]
  rw [read, qualifiedShape, ofName?_name]
  cases found : lookup? registry kind name with
  | none => simp [found]
  | some entity =>
      obtain ⟨other, rfl⟩ := exists_shape ((kind_of_lookup? found).symm ▸ ofShapes)
      cases other <;> cases shape <;> simp [found, EntityRef.shape?, ShapeRef.entity]

/-- A single word with a kind in front of it means what is found under the two. -/
theorem referredShape_qualify_iff (word : IsWord name) {kind : EntityKind}
    (ofShapes : kind ∈ shapeKinds) {shape : ShapeRef} :
    referredShape registry (qualify kind name) = .ok shape ↔
      lookup? registry kind name = some shape.entity :=
  referredShape_qualify_iff_of_words (words_of_isWord word) ofShapes

/-- A kind will do for a name if the two together mean a shape. -/
def Qualifies (registry : Registry α) (kind : EntityKind) (name : String) : Prop :=
  ∃ shape, referredShape registry (qualify kind name) = .ok shape

/-! ## References by name -/

/-- The shapes that have a name. -/
def namedShapes (registry : Registry α) (name : String) : List ShapeRef :=
  shapeKinds.filterMap fun kind => (registry.find? kind name).bind EntityRef.shape?

/-- The shapes that are found under a name and some kind. -/
def foundShapes (registry : Registry α) (name : String) : List ShapeRef :=
  shapeKinds.filterMap fun kind => (lookup? registry kind name).bind EntityRef.shape?

section Found

variable {find : EntityKind → Option EntityRef}
  (ofKind : ∀ {kind entity}, find kind = some entity → entity.kind = kind)

include ofKind

/-- A shape is found for some kind if it is found for its own one. -/
theorem mem_filterMap_shape? {shape : ShapeRef} :
    (shape ∈ shapeKinds.filterMap fun kind => (find kind).bind EntityRef.shape?) ↔
      find shape.entity.kind = some shape.entity := by
  simp only [List.mem_filterMap, Option.bind_eq_some_iff, shape?_eq_some_iff]
  constructor
  · rintro ⟨kind, -, entity, found, rfl⟩
    rwa [ofKind found]
  · intro found
    exact ⟨_, kind_mem_shapeKinds shape, _, found, rfl⟩

theorem nodup_filterMap_shape? :
    (shapeKinds.filterMap fun kind => (find kind).bind EntityRef.shape?).Nodup := by
  refine List.Nodup.filterMap (fun kind other shape member also => ?_) (by decide)
  simp only [Option.mem_def, Option.bind_eq_some_iff, shape?_eq_some_iff] at member also
  obtain ⟨_, found, rfl⟩ := member
  obtain ⟨_, alsoFound, same⟩ := also
  rw [← ofKind found, ← ofKind alsoFound, same]

end Found

theorem mem_namedShapes {shape : ShapeRef} :
    shape ∈ namedShapes registry name ↔
      registry.find? shape.entity.kind name = some shape.entity :=
  mem_filterMap_shape? kind_of_find?

theorem mem_foundShapes {shape : ShapeRef} :
    shape ∈ foundShapes registry name ↔
      lookup? registry shape.entity.kind name = some shape.entity :=
  mem_filterMap_shape? kind_of_lookup?

theorem nodup_namedShapes (registry : Registry α) (name : String) :
    (namedShapes registry name).Nodup :=
  nodup_filterMap_shape? kind_of_find?

theorem nodup_foundShapes (registry : Registry α) (name : String) :
    (foundShapes registry name).Nodup :=
  nodup_filterMap_shape? kind_of_lookup?

theorem namedShapes_subset : namedShapes registry name ⊆ foundShapes registry name :=
  fun _ named => mem_foundShapes.2 (lookup?_eq_some_iff.2 (.inl (mem_namedShapes.1 named)))

theorem bind_shape?_eq_none {found : Option EntityRef}
    (other : ∀ entity ∈ found, entity.kind ∉ shapeKinds) : found.bind EntityRef.shape? = none := by
  rw [Option.bind_eq_none_iff]
  intro entity member
  rw [Option.eq_none_iff_forall_ne_some]
  intro shape shaped
  rw [shape?_eq_some_iff.1 shaped] at member
  exact other _ member (kind_mem_shapeKinds shape)

/-- A name alone may mean the shapes that have it, or those found under it if none has it. -/
theorem candidates_eq (registry : Registry α) (name : String) :
    candidates registry name =
      if namedShapes registry name = [] then foundShapes registry name
      else namedShapes registry name := by
  have named : (registry.findAll name).filterMap EntityRef.shape? = namedShapes registry name := by
    have shapeless {kind : EntityKind} (other : kind ∉ shapeKinds) :
        (registry.find? kind name).bind EntityRef.shape? = none :=
      bind_shape?_eq_none fun entity found => (kind_of_find? found).symm ▸ other
    rw [Registry.findAll, List.filterMap_filterMap]
    simp only [namedShapes, EntityKind.all, shapeKinds, List.filterMap_cons,
      shapeless (show .point ∉ shapeKinds by decide),
      shapeless (show .angle ∉ shapeKinds by decide)]
  rw [candidates, named]
  simp only [List.isEmpty_iff]
  split
  case isTrue unnamed =>
    -- A circle is not found by its points.
    have circle : (lookup? registry .circle name).bind EntityRef.shape? = none := by
      refine Option.bind_eq_none_iff.2 fun entity found => ?_
      rcases lookup?_eq_some_iff.1 found with named | ⟨-, ids, -, spelled⟩
      · have kind := kind_of_find? named
        have ofShapes : entity.kind ∈ shapeKinds := by rw [kind]; decide
        obtain ⟨shape, rfl⟩ := exists_shape ofShapes
        have member : shape ∈ namedShapes registry name :=
          mem_namedShapes.2 (kind.symm ▸ named)
        rw [unnamed] at member
        cases member
      · cases spelled
    rw [List.filterMap_filterMap]
    simp only [foundShapes, shapeKinds, List.filterMap_cons, circle]
  case isFalse => rfl

/-- Two letters spell a line, and more letters a polygon. -/
theorem length_of_spelled {kind : EntityKind} {ids : List PointId} {entity : EntityRef}
    (spelled : findByPoints? registry kind ids = some entity) :
    kind = .line ∧ ids.length = 2 ∨ kind = .polygon ∧ 3 ≤ ids.length := by
  unfold findByPoints? at spelled
  split at spelled
  · exact .inl ⟨rfl, rfl⟩
  · split at spelled
    · exact .inr ⟨rfl, ‹_›⟩
    · cases spelled
  · cases spelled

/-- The same letters do not spell two shapes. -/
theorem eq_of_spelled {first second : ShapeRef} {ids : List PointId}
    (spelled : findByPoints? registry first.entity.kind ids = some first.entity)
    (alsoSpelled : findByPoints? registry second.entity.kind ids = some second.entity) :
    first = second := by
  have sameKind : first.entity.kind = second.entity.kind := by
    rcases length_of_spelled spelled with ⟨kind, length⟩ | ⟨kind, length⟩ <;>
      rcases length_of_spelled alsoSpelled with ⟨other, otherLength⟩ | ⟨other, otherLength⟩
    · rw [kind, other]
    · omega
    · omega
    · rw [kind, other]
  rw [sameKind, alsoSpelled, Option.some.injEq] at spelled
  exact Option.some.inj ((shape?_eq_some_iff.2 rfl).symm.trans (shape?_eq_some_iff.2 spelled.symm))

theorem candidates_subset : candidates registry name ⊆ foundShapes registry name := by
  rw [candidates_eq]
  split
  · exact List.Subset.refl _
  · exact namedShapes_subset

theorem nodup_candidates (registry : Registry α) (name : String) :
    (candidates registry name).Nodup := by
  rw [candidates_eq]
  split
  · exact nodup_foundShapes registry name
  · exact nodup_namedShapes registry name

theorem candidates_eq_nil_iff : candidates registry name = [] ↔ foundShapes registry name = [] := by
  refine ⟨fun empty => ?_, fun empty => ?_⟩
  · by_cases named : namedShapes registry name = []
    · rwa [candidates_eq, if_pos named] at empty
    · rw [candidates_eq, if_neg named] at empty
      exact absurd empty named
  · exact List.subset_nil.1 (empty ▸ candidates_subset)

/-- A list without repetitions in which all members are equal has only one. -/
theorem eq_singleton_of_nodup {shapes : List ShapeRef} (nodup : shapes.Nodup) {shape : ShapeRef}
    (member : shape ∈ shapes) (all : ∀ other ∈ shapes, other = shape) : shapes = [shape] := by
  have repeated := List.eq_replicate_iff.2 ⟨rfl, all⟩
  rw [repeated] at nodup member ⊢
  have positive : shapes.length ≠ 0 := fun zero => by simp [zero] at member
  have atMost := List.nodup_replicate.1 nodup
  rw [show shapes.length = 1 by omega, List.replicate_one]

/-- If no shape has a name, then the letters of the name spell at most one. -/
theorem foundShapes_eq_singleton (unnamed : namedShapes registry name = []) {shape : ShapeRef}
    (member : shape ∈ foundShapes registry name) : foundShapes registry name = [shape] := by
  have spelled (other : ShapeRef) (also : other ∈ foundShapes registry name) :
      ∃ ids, labelledPoints? registry name = some ids ∧
        findByPoints? registry other.entity.kind ids = some other.entity := by
    rcases lookup?_eq_some_iff.1 (mem_foundShapes.1 also) with named | ⟨-, spelled⟩
    · have member := mem_namedShapes.2 named
      rw [unnamed] at member
      cases member
    · exact spelled
  refine eq_singleton_of_nodup (nodup_foundShapes registry name) member fun other also => ?_
  obtain ⟨ids, labelled, first⟩ := spelled shape member
  obtain ⟨others, alsoLabelled, second⟩ := spelled other also
  rw [labelled, Option.some.injEq] at alsoLabelled
  exact eq_of_spelled second (alsoLabelled ▸ first)

/-- Several shapes that a name may mean all have it. -/
theorem candidates_eq_namedShapes (several : 2 ≤ (candidates registry name).length) :
    candidates registry name = namedShapes registry name := by
  rw [candidates_eq] at several ⊢
  split at several
  case isTrue unnamed =>
    obtain ⟨shape, member⟩ := List.exists_mem_of_length_pos
      (show 0 < (foundShapes registry name).length by omega)
    rw [foundShapes_eq_singleton unnamed member] at several
    simp at several
  case isFalse named => exact if_neg named

theorem referredShape_word (word : IsWord name) :
    referredShape registry name = bareShape registry name name := by
  rw [referredShape, words_of_isWord word]
  simp

/-- A name alone is understood, unless nothing or more than one shape may be meant. -/
theorem bareShape_cases (registry : Registry α) (reference name : String) :
    (candidates registry name = [] ∧
      bareShape registry reference name = .error (.undefined reference)) ∨
    (∃ shape, candidates registry name = [shape] ∧ bareShape registry reference name = .ok shape) ∨
    2 ≤ (candidates registry name).length ∧ bareShape registry reference name =
      .error (.ambiguous name
        ((candidates registry name).map fun shape => registry.sceneId shape.entity)) := by
  unfold bareShape
  match candidates registry name with
  | [] => exact .inl ⟨rfl, rfl⟩
  | [shape] => exact .inr (.inl ⟨shape, rfl, rfl⟩)
  | _ :: _ :: _ => exact .inr (.inr ⟨by simp, rfl⟩)

theorem qualifies_iff (word : IsWord name) {kind : EntityKind} (ofShapes : kind ∈ shapeKinds) :
    Qualifies registry kind name ↔
      ∃ shape ∈ foundShapes registry name, shape.entity.kind = kind := by
  simp only [Qualifies, referredShape_qualify_iff word ofShapes, mem_foundShapes]
  constructor
  · rintro ⟨shape, found⟩
    have kind := kind_of_lookup? found
    exact ⟨shape, kind.symm ▸ found, kind⟩
  · rintro ⟨shape, found, rfl⟩
    exact ⟨shape, found⟩

/-- A shape that a name alone may mean is meant with its kind in front of the name. -/
theorem referredShape_qualify_of_mem (word : IsWord name) {shape : ShapeRef}
    (member : shape ∈ foundShapes registry name) :
    referredShape registry (qualify shape.entity.kind name) = .ok shape :=
  (referredShape_qualify_iff word (kind_mem_shapeKinds shape)).2 (mem_foundShapes.1 member)

/-! ## Advice -/

/-- The advice on an identifier is the kind and the stored name of its entity. -/
theorem qualified_sceneId {entity : EntityRef} {stored : String}
    (named : registry.name entity = some stored) :
    Error.qualified (registry.sceneId entity) = qualify entity.kind stored := by
  have splits : (registry.sceneId entity).toList.span (· != '_') =
      (entity.kind.name.toList, '_' :: stored.toList) := by
    rw [Registry.sceneId, named]
    cases entity.kind <;>
      · simp only [EntityKind.name, Option.getD_some, String.toList_append]
        rfl
  rw [Error.qualified, splits, ← String.toList_inj, toList_qualify]
  exact String.toList_ofList

theorem NamesEntities.stored (named : NamesEntities registry) {kind : EntityKind}
    {entity : EntityRef} (found : registry.find? kind name = some entity) :
    ∃ stored, registry.name entity = some stored ∧ lower stored = lower name := by
  obtain ⟨index, entry, rfl⟩ := Option.map_eq_some_iff.1 found
  exact named.exact.1 entry

/-- The advice on a shape that a name means is understood, and means that shape. -/
theorem NamesEntities.referredShape_advice (named : NamesEntities registry) (word : IsWord name)
    {shape : ShapeRef} (member : shape ∈ namedShapes registry name) :
    referredShape registry (Error.qualified (registry.sceneId shape.entity)) = .ok shape := by
  obtain ⟨stored, known, same⟩ := named.stored (mem_namedShapes.1 member)
  rw [qualified_sceneId known]
  exact referredShape_qualify_of_mem (word.of_lower_eq same.symm)
    (namedShapes_subset (mem_namedShapes.2 (named.found known rfl)))

/-! ## Names alone and names with a kind -/

theorem referredShape_qualify_of_bare (word : IsWord name) {shape : ShapeRef}
    (bare : referredShape registry name = .ok shape) :
    referredShape registry (qualify shape.entity.kind name) = .ok shape := by
  rw [referredShape_word word] at bare
  rcases bareShape_cases registry name name with ⟨-, result⟩ | ⟨other, only, result⟩ | ⟨-, result⟩
    <;> rw [result] at bare
  · cases bare
  · cases bare
    exact referredShape_qualify_of_mem word (candidates_subset (by simp [only]))
  · cases bare

/-- If only one kind will do for a name, then the name alone means what it means with that kind. -/
theorem referredShape_of_only (word : IsWord name) {kind : EntityKind}
    (ofShapes : kind ∈ shapeKinds)
    (only : ∀ other ∈ shapeKinds, Qualifies registry other name ↔ other = kind) :
    ∃ shape, referredShape registry name = .ok shape ∧
      referredShape registry (qualify kind name) = .ok shape := by
  obtain ⟨shape, member, rfl⟩ := (qualifies_iff word ofShapes).1 ((only kind ofShapes).2 rfl)
  have means := referredShape_qualify_of_mem word member
  have all (other : ShapeRef) (also : other ∈ foundShapes registry name) : other = shape := by
    have sameKind := (only _ (kind_mem_shapeKinds other)).1
      ((qualifies_iff word (kind_mem_shapeKinds other)).2 ⟨other, also, rfl⟩)
    have otherMeans := referredShape_qualify_of_mem word also
    rw [sameKind, means] at otherMeans
    exact (Except.ok.inj otherMeans).symm
  have nonempty : candidates registry name ≠ [] := fun empty => by
    rw [candidates_eq_nil_iff.1 empty] at member
    cases member
  obtain ⟨other, candidate⟩ := List.exists_mem_of_ne_nil _ nonempty
  rw [all other (candidates_subset candidate)] at candidate
  have single := eq_singleton_of_nodup (nodup_candidates registry name) candidate
    fun other also => all other (candidates_subset also)
  refine ⟨shape, ?_, means⟩
  rw [referredShape_word word, bareShape, single]

/-- A name alone is undefined exactly if no kind will do for it. -/
theorem referredShape_undefined_iff (word : IsWord name) {text : String} :
    referredShape registry name = .error (.undefined text) ↔
      text = name ∧ ∀ kind ∈ shapeKinds, ¬ Qualifies registry kind name := by
  have noneQualifies : (∀ kind ∈ shapeKinds, ¬ Qualifies registry kind name) ↔
      candidates registry name = [] := by
    rw [candidates_eq_nil_iff, List.eq_nil_iff_forall_not_mem]
    constructor
    · intro empty shape member
      exact empty _ (kind_mem_shapeKinds shape)
        ((qualifies_iff word (kind_mem_shapeKinds shape)).2 ⟨shape, member, rfl⟩)
    · intro empty kind ofShapes will
      obtain ⟨shape, member, -⟩ := (qualifies_iff word ofShapes).1 will
      exact empty shape member
  rw [noneQualifies, referredShape_word word]
  rcases bareShape_cases registry name name with ⟨empty, result⟩ | ⟨_, only, result⟩ |
    ⟨several, result⟩ <;> rw [result]
  · simp [empty, eq_comm]
  · simp [only]
  · have nonempty : candidates registry name ≠ [] := fun empty => by simp [empty] at several
    simp [nonempty]

/-- Where a name alone is ambiguous, the advice on each shape found means that shape. -/
theorem NamesEntities.referredShape_ambiguous (named : NamesEntities registry)
    (word : IsWord name) {text : String} {found : List String}
    (bare : referredShape registry name = .error (.ambiguous text found)) :
    ∃ shapes : List ShapeRef, shapes.Nodup ∧ 2 ≤ shapes.length ∧
      found = shapes.map (fun shape => registry.sceneId shape.entity) ∧
      ∀ shape ∈ shapes,
        referredShape registry (Error.qualified (registry.sceneId shape.entity)) = .ok shape := by
  rw [referredShape_word word] at bare
  rcases bareShape_cases registry name name with ⟨-, result⟩ | ⟨_, -, result⟩ |
    ⟨several, result⟩ <;> rw [result] at bare
  · cases bare
  · cases bare
  · cases bare
    refine ⟨_, nodup_candidates registry name, several, rfl, fun shape member => ?_⟩
    rw [candidates_eq_namedShapes several] at member
    exact named.referredShape_advice word member

/-- A reference by name alone agrees with the references by kind and name: what it means it means
with its kind in front too, it means what the only kind that will do makes of it, it is undefined
exactly if no kind will do, and where it is ambiguous the advice on each shape found means that
shape. -/
theorem referredShape_agrees [Scalar α] (palette : Palette) (declarations : List Declaration)
    (name : String) (word : IsWord name) :
    let registry : Registry α := construct palette declarations
    (∀ shape, referredShape registry name = .ok shape →
      referredShape registry (qualify shape.entity.kind name) = .ok shape) ∧
    (∀ kind ∈ shapeKinds, (∀ other ∈ shapeKinds, Qualifies registry other name ↔ other = kind) →
      ∃ shape, referredShape registry name = .ok shape ∧
        referredShape registry (qualify kind name) = .ok shape) ∧
    (∀ text, referredShape registry name = .error (.undefined text) ↔
      text = name ∧ ∀ kind ∈ shapeKinds, ¬ Qualifies registry kind name) ∧
    ∀ text found, referredShape registry name = .error (.ambiguous text found) →
      ∃ shapes : List ShapeRef, shapes.Nodup ∧ 2 ≤ shapes.length ∧
        found = shapes.map (fun shape => registry.sceneId shape.entity) ∧
        ∀ shape ∈ shapes,
          referredShape registry (Error.qualified (registry.sceneId shape.entity)) = .ok shape :=
  ⟨fun _ => referredShape_qualify_of_bare word, fun _ => referredShape_of_only word,
    fun _ => referredShape_undefined_iff word,
    fun _ _ => (namesEntities_construct palette declarations).referredShape_ambiguous word⟩

/-- A line and a circle share a name, in different case. The name is ambiguous, and the advice on
each of the two is understood. -/
theorem referredShape_shared_name :
    let line : Declaration := ⟨"line", some "s", 1, ⟨0, 16⟩, [("p1", "A"), ("p2", "B")], []⟩
    let circle : Declaration := ⟨"circle", some "S", 1, ⟨16, 26⟩, [], []⟩
    let registry : Registry Float := construct .standard [line, circle]
    IsWord "s" ∧
      referredShape registry "s" = .error (.ambiguous "s" ["line_s", "circle_S"]) ∧
      ∃ shapes : List ShapeRef, shapes.Nodup ∧ 2 ≤ shapes.length ∧
        ["line_s", "circle_S"] = shapes.map (fun shape => registry.sceneId shape.entity) ∧
        ∀ shape ∈ shapes,
          referredShape registry (Error.qualified (registry.sceneId shape.entity)) = .ok shape := by
  intro line circle registry
  have word : IsWord "s" := by decide
  have ambiguous : referredShape registry "s" =
      .error (.ambiguous "s" ["line_s", "circle_S"]) := by decide +kernel
  have ⟨_, _, _, advised⟩ := referredShape_agrees (α := Float) .standard [line, circle] "s" word
  exact ⟨word, ambiguous, advised "s" _ ambiguous⟩

end FigureMarkup.Construction
