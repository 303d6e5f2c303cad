import FigureMarkup.Proofs.Construction.QualifiedReferences
import FigureMarkup.Proofs.Construction.Redeclaration

/-!
# References by stored names

A declaration may give a shape any name, a quoted one with blanks in it too, but a reference is
split at its blanks. So the kind and the stored name of a shape lead back to it if the name is a
single word. A name that is not is never looked up as it is stored, and its shape can then be found
only by the letters of its points, and a circle not at all.
-/

namespace FigureMarkup.Construction

open Figure Plane Markup Text

variable {α : Type} {registry : Registry α}

/-! ## Finding a shape by its stored name -/

/-- A shape whose stored name is not a word is found by chance: what is left of the name without
blanks around it, or the kind if nothing is left, is nobody's name, and its letters spell the
shape. -/
def FoundByLetters (registry : Registry α) (shape : ShapeRef) (stored : String) : Prop :=
  ∃ text ids, labelledPoints? registry text = some ids ∧
    findByPoints? registry shape.entity.kind ids = some shape.entity ∧
    (words stored.toList = [text.toList] ∧ registry.find? shape.entity.kind text = none ∨
      words stored.toList = [] ∧ text = shape.entity.kind.name ∧ namedShapes registry text = [])

/-- A name that is not a word has no word as another spelling. -/
theorem NamesEntities.find?_word (named : NamesEntities registry) {entity : EntityRef}
    {stored word : String} (known : registry.name entity = some stored) (blank : ¬ IsWord stored)
    (single : IsWord word) (kind : EntityKind) : registry.find? kind word ≠ some entity := by
  intro found
  obtain ⟨other, alsoKnown, same⟩ := named.stored found
  rw [known, Option.some.injEq] at alsoKnown
  exact blank (single.of_lower_eq (alsoKnown ▸ same.symm))

/-- A kind alone can mean a shape whose name is not a word only by letters. -/
theorem NamesEntities.candidates_kind (named : NamesEntities registry) {shape : ShapeRef}
    {stored : String} (known : registry.name shape.entity = some stored)
    (blank : ¬ IsWord stored) {text : String} (single : IsWord text) :
    candidates registry text = [shape] ↔ namedShapes registry text = [] ∧
      ∃ ids, labelledPoints? registry text = some ids ∧
        findByPoints? registry shape.entity.kind ids = some shape.entity := by
  have unnamed := named.find?_word known blank single shape.entity.kind
  constructor
  · intro only
    have unlisted : namedShapes registry text = [] := by
      by_contra listed
      rw [candidates_eq, if_neg listed] at only
      exact unnamed (mem_namedShapes.1 (by simp [only]))
    refine ⟨unlisted, ?_⟩
    have found : shape ∈ foundShapes registry text := candidates_subset (by simp [only])
    rcases lookup?_eq_some_iff.1 (mem_foundShapes.1 found) with byName | ⟨-, spelled⟩
    · exact absurd byName unnamed
    · exact spelled
  · rintro ⟨unlisted, spelled⟩
    rw [candidates_eq, if_pos unlisted]
    refine foundShapes_eq_singleton unlisted
      (mem_foundShapes.2 (lookup?_eq_some_iff.2 (.inr ⟨?_, spelled⟩)))
    cases found : registry.find? shape.entity.kind text with
    | none => rfl
    | some entity =>
        obtain ⟨other, rfl⟩ := exists_shape ((kind_of_find? found).symm ▸ kind_mem_shapeKinds shape)
        have member : other ∈ namedShapes registry text :=
          mem_namedShapes.2 ((kind_of_find? found).symm ▸ found)
        rw [unlisted] at member
        cases member

theorem bareShape_eq_ok_iff {reference name : String} {shape : ShapeRef} :
    bareShape registry reference name = .ok shape ↔ candidates registry name = [shape] := by
  rcases bareShape_cases registry reference name with
    ⟨empty, result⟩ | ⟨_, single, result⟩ | ⟨several, result⟩
  · simp [empty, result]
  · simp [single, result]
  · rw [result]
    refine iff_of_false (fun same => by cases same) fun single => ?_
    simp [single] at several

/-- With a name that is nothing but blanks, a kind is taken for a name alone. -/
theorem referredShape_qualify_blank_iff {kind : EntityKind} {blanks : String}
    (empty : words blanks.toList = []) {shape : ShapeRef} :
    referredShape registry (qualify kind blanks) = .ok shape ↔
      candidates registry kind.name = [shape] := by
  have read : referredShape registry (qualify kind blanks) =
      bareShape registry (qualify kind blanks) kind.name := by
    simp only [referredShape, words_qualify, empty, List.map_cons, List.map_nil,
      String.ofList_toList]
  rw [read, bareShape_eq_ok_iff]

/-- The kind and the stored name of a shape lead back to it exactly if the name is a single word,
or else by chance. -/
theorem NamesEntities.referredShape_stored_iff (named : NamesEntities registry) {shape : ShapeRef}
    {stored : String} (known : registry.name shape.entity = some stored) :
    referredShape registry (qualify shape.entity.kind stored) = .ok shape ↔
      IsWord stored ∨ FoundByLetters registry shape stored := by
  by_cases word : IsWord stored
  · refine iff_of_true ?_ (.inl word)
    exact (referredShape_qualify_iff word (kind_mem_shapeKinds shape)).2
      (lookup?_eq_some_iff.2 (.inl (named.found known rfl)))
  · rw [or_iff_right word]
    match split : words stored.toList with
    | [] =>
        rw [referredShape_qualify_blank_iff split,
          named.candidates_kind known word (isWord_kind _), FoundByLetters, split]
        constructor
        · rintro ⟨unnamed, ids, labelled, spelled⟩
          exact ⟨_, ids, labelled, spelled, .inr ⟨rfl, rfl, unnamed⟩⟩
        · rintro ⟨_, ids, labelled, spelled, ⟨empty, -⟩ | ⟨-, rfl, unnamed⟩⟩
          · cases empty
          · exact ⟨unnamed, ids, labelled, spelled⟩
    | [text] =>
        have single : IsWord (String.ofList text) :=
          isWord_of_mem_words (split ▸ List.mem_singleton_self text)
        have padded : words stored.toList = [(String.ofList text).toList] := by
          rw [split, String.toList_ofList]
        rw [referredShape_qualify_iff_of_words padded (kind_mem_shapeKinds shape),
          lookup?_eq_some_iff,
          or_iff_right (named.find?_word known word single _), FoundByLetters, split]
        constructor
        · rintro ⟨unnamed, ids, labelled, spelled⟩
          exact ⟨_, ids, labelled, spelled, .inl ⟨by simp, unnamed⟩⟩
        · rintro ⟨other, ids, labelled, spelled, ⟨same, unnamed⟩ | ⟨empty, -⟩⟩
          · obtain rfl : text = other.toList := by simpa using same
            exact ⟨by simpa using unnamed, ids, by simpa using labelled, spelled⟩
          · cases empty
    | first :: second :: others =>
        have read : referredShape registry (qualify shape.entity.kind stored) =
            .error (.undefined (qualify shape.entity.kind stored)) := by
          simp only [referredShape, words_qualify, split, List.map_cons]
        rw [read]
        refine iff_of_false (fun same => by cases same) ?_
        rintro ⟨_, _, -, -, ⟨single, -⟩ | ⟨empty, -⟩⟩
        · simp [split] at single
        · simp [split] at empty

/-! ## Lying on a shape -/

theorem liesOn_recordPoint (position : Option (Vec α)) (shape : ShapeRef) (random : Bool)
    (point : Point α) :
    (recordPoint position (some shape) random point).liesOn =
      Point.addShape point.liesOn shape := by
  cases position <;> cases random <;> rfl

theorem liesOn_setColor (registry : Registry α) (color : Rgba) (entity : EntityRef)
    (id : PointId) :
    ((registry.setColor color entity).point? id).map (·.liesOn) =
      (registry.point? id).map (·.liesOn) := by
  cases entity with
  | point painted =>
      rw [Registry.setColor, Registry.point?_modifyPoint, Option.map_map]
      congr 1
      funext point
      simp only [Function.comp_apply]
      split <;> rfl
  | _ => rfl

/-- The shapes that a point lies on, as was asked for. A point that is not there lies on none. -/
def shapesOf (registry : Registry α) (id : PointId) : List ShapeRef :=
  ((registry.point? id).map (·.liesOn)).getD []

/-- A point that is entered is there, and lies on the shapes that it lay on before. -/
theorem NamesEntities.point_of_enterPoint (named : NamesEntities registry) {name : String}
    {id : PointId} {later : Registry α} (entered : registry.enterPoint name = (id, later)) :
    ∃ point, later.point? id = some point ∧ point.liesOn = shapesOf registry id := by
  rcases registry.enter_eq .point name with ⟨index, known, found⟩ | ⟨fresh, created⟩
  · rw [Registry.enterPoint, found] at entered
    cases entered
    obtain ⟨stored, holds, -⟩ := named.exact.1 known
    obtain ⟨point, there, -⟩ := Option.map_eq_some_iff.1 holds
    exact ⟨point, there, by simp [shapesOf, show registry.point? ⟨index⟩ = some point from there]⟩
  · rw [Registry.enterPoint, created] at entered
    cases entered
    refine ⟨_, (registry.point?_add .point name _).trans (if_pos rfl), ?_⟩
    simp [shapesOf, Registry.point?_newest, Point.new]

variable [Scalar α]

/-- A point that is declared to lie on what is understood lies on it, and else on what it lay on. -/
theorem NamesEntities.apply_liesOn (named : NamesEntities registry) {declaration : Declaration}
    {name reference : String} {position : Option (Vec α)} {shape : ShapeRef}
    (ofKind : kindOf? declaration = some .point) (hasName : declaration.name = some name)
    (placed : keywordPosition declaration = .ok position) (readable : Readable declaration)
    (refers : declaration.argument? "lieson" = some reference)
    (means : referredShape registry reference = .ok shape) :
    ∃ id after, apply registry declaration = (.ok (.entities [.point id]), after) ∧
      after.index? .point name = some id.index ∧
      shapesOf after id = Point.addShape (shapesOf registry id) shape := by
  rcases entered : registry.enterPoint name with ⟨id, next⟩
  have declared : declarePoint registry declaration = (.ok [.point id],
      next.modifyPoint id (recordPoint position (some shape) (declaration.hasFlag "random"))) := by
    refine declarePoint_eq_ok_iff.2 ⟨name, position, some shape, id, next, ?_, placed, ?_,
      entered, rfl, rfl⟩
    · rw [requiredName, hasName]
    · rw [declaredShape, refers]
      simp only [means]
      rfl
  generalize later_eq : next.modifyPoint id _ = later at declared
  have known : later.index? .point name = some id.index := by
    rw [← later_eq, ← known_of_enterPoint entered]
    rfl
  have lies : shapesOf later id = Point.addShape (shapesOf registry id) shape := by
    obtain ⟨point, there, same⟩ := named.point_of_enterPoint entered
    rw [← later_eq, shapesOf, Registry.point?_modifyPoint, there, ← same,
      ← liesOn_recordPoint position shape (declaration.hasFlag "random") point]
    simp
  have applied : apply registry declaration =
      (paint declaration (.ok [.point id], later)).outcome declaration := by
    unfold apply
    rw [show DeclarationKind.ofName? declaration.kind = some .point from ofKind]
    simp only [declared]
  obtain ⟨either, succeeds⟩ := outcome_paint declaration (.point id) [] later
  rw [← applied] at either succeeds
  refine ⟨id, (apply registry declaration).2, Prod.ext (succeeds readable) rfl, ?_⟩
  rcases either with last | ⟨color, last⟩
  · rw [last]
    exact ⟨known, lies⟩
  · rw [last]
    refine ⟨((later.sameNames_setColor color _).index? .point name).trans known, ?_⟩
    rw [shapesOf, liesOn_setColor]
    exact lies

/-- In a figure that declarations build, the kind and the stored name of a shape lead back to it
exactly if the name is a single word, or else by chance. Where they do, a point that is declared to
lie on them lies on that shape, and else on what it lay on before. -/
theorem construct_stored_reference (palette : Palette) (declarations : List Declaration)
    (shape : ShapeRef) (stored : String) :
    let registry : Registry α := construct palette declarations
    registry.name shape.entity = some stored →
      (referredShape registry (qualify shape.entity.kind stored) = .ok shape ↔
        IsWord stored ∨ FoundByLetters registry shape stored) ∧
      ∀ (declaration : Declaration) (name : String) (position : Option (Vec α)),
        kindOf? declaration = some .point → declaration.name = some name →
        keywordPosition declaration = .ok position → Readable declaration →
        declaration.argument? "lieson" = some (qualify shape.entity.kind stored) →
        IsWord stored ∨ FoundByLetters registry shape stored →
          ∃ id after, apply registry declaration = (.ok (.entities [.point id]), after) ∧
            after.index? .point name = some id.index ∧
            shapesOf after id = Point.addShape (shapesOf registry id) shape := by
  intro registry known
  have named : NamesEntities registry := namesEntities_construct palette declarations
  have means := named.referredShape_stored_iff known
  exact ⟨means, fun _ _ _ ofKind hasName placed readable refers found =>
    named.apply_liesOn ofKind hasName placed readable refers (means.2 found)⟩

/-- A quoted name without blanks leads back to its circle. -/
theorem construct_stored_reference_quoted :
    let circle : Declaration := ⟨"circle", some "my-circle", 1, ⟨0, 20⟩, [], []⟩
    let point : Declaration :=
      ⟨"point", some "P", 1, ⟨20, 55⟩, [("lieson", "circle my-circle")], []⟩
    let registry : Registry Float := construct .standard [circle]
    registry.name (.circle ⟨0⟩) = some "my-circle" ∧ IsWord "my-circle" ∧
      ∃ id after, apply registry point = (.ok (.entities [.point id]), after) ∧
        after.index? .point "P" = some id.index ∧
        shapesOf after id = Point.addShape (shapesOf registry id) (.circle ⟨0⟩) := by
  intro circle point registry
  have known : registry.name (.circle ⟨0⟩) = some "my-circle" := by decide +kernel
  have word : IsWord "my-circle" := by decide
  have ⟨_, lies⟩ := construct_stored_reference (α := Float) .standard [circle] (.circle ⟨0⟩)
    "my-circle" known
  exact ⟨known, word, lies point "P" none (by decide +kernel) rfl rfl nofun rfl (.inl word)⟩

/-- A circle whose name has a blank in it is there, but its kind and its name do not lead to it. -/
example :
    let circle : Declaration := ⟨"circle", some "my circle", 1, ⟨0, 20⟩, [], []⟩
    let registry : Registry Float := construct .standard [circle]
    registry.name (.circle ⟨0⟩) = some "my circle" ∧
      referredShape registry "circle my circle" = .error (.undefined "circle my circle") := by
  decide +kernel

end FigureMarkup.Construction
