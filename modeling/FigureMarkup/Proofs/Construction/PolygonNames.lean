import FigureMarkup.Proofs.Construction.Idempotence
import Mathlib.Data.List.Rotate
import Mathlib.Data.String.Basic

/-!
# Names of polygons

The letters of a polygon's name are its vertices in their order around it, and a reader may begin
with any of them. Before anything is entered the letters are turned until a least one comes first.
Letters that are all different can be turned in one way only so that the least of them comes first,
so nothing that happens afterwards depends on where the name begins: a new polygon gets the same
name, and its vertices the same order. Vertices that a keyword lists are never turned.
-/

namespace FigureMarkup.Construction

open Figure Markup

/-! ## Turning labels -/

section Turning

variable {given turned : List String}

theorem leastLabel_cons (label : String) (rest : List String) :
    leastLabel (label :: rest) = rest.foldl min label := by
  have step : (fun least label : String => if label < least then label else least) = min := by
    funext least label
    rw [min_comm, min_def_lt]
  rw [leastLabel, step]

theorem min?_eq_leastLabel (nonempty : given ≠ []) : given.min? = some (leastLabel given) := by
  obtain ⟨label, rest, rfl⟩ := List.exists_cons_of_ne_nil nonempty
  rw [List.min?_cons', leastLabel_cons]

theorem leastLabel_mem (nonempty : given ≠ []) : leastLabel given ∈ given :=
  (List.min?_eq_some_iff.1 (min?_eq_leastLabel nonempty)).1

theorem leastLabel_le {label : String} (member : label ∈ given) : leastLabel given ≤ label :=
  (List.min?_eq_some_iff.1 (min?_eq_leastLabel (List.ne_nil_of_mem member))).2 label member

theorem leastLabel_of_perm (same : turned.Perm given) : leastLabel turned = leastLabel given := by
  rcases eq_or_ne given [] with rfl | nonempty
  · rw [same.eq_nil]
  · have alsoNonempty : turned ≠ [] := fun empty => nonempty (empty ▸ same).nil_eq.symm
    exact le_antisymm (leastLabel_le (same.mem_iff.2 (leastLabel_mem nonempty)))
      (leastLabel_le (same.mem_iff.1 (leastLabel_mem alsoNonempty)))

theorem rotateToLeast_eq_rotate (given : List String) :
    rotateToLeast given = given.rotate (given.idxOf (leastLabel given)) :=
  (List.rotate_eq_drop_append_take List.idxOf_le_length).symm

theorem isRotated_rotateToLeast (given : List String) : (rotateToLeast given).IsRotated given :=
  List.IsRotated.symm ⟨_, (rotateToLeast_eq_rotate given).symm⟩

theorem head?_rotateToLeast (nonempty : given ≠ []) :
    (rotateToLeast given).head? = some (leastLabel given) := by
  have member := leastLabel_mem nonempty
  rw [rotateToLeast_eq_rotate, List.head?_rotate (List.idxOf_lt_length_of_mem member),
    List.getElem?_idxOf member]

/-- A list without repetitions is turned into no other one with the same first member. -/
theorem eq_of_isRotated {β : Type} {first second : List β} (distinct : first.Nodup)
    (turned : first.IsRotated second) (heads : first.head? = second.head?) : first = second := by
  obtain ⟨n, inside, rfl⟩ := List.isRotated_iff_mod.1 turned
  rcases Nat.lt_or_eq_of_le inside with inside | rfl
  · rw [List.head?_rotate inside, List.head?_eq_getElem?,
      List.getElem?_inj (by omega) distinct] at heads
    rw [← heads, List.rotate_zero]
  · rw [List.rotate_length]

/-- Labels that are all different are turned alike, wherever they begin. -/
theorem rotateToLeast_of_isRotated (distinct : given.Nodup) (rotated : turned.IsRotated given) :
    rotateToLeast turned = rotateToLeast given := by
  rcases eq_or_ne given [] with rfl | nonempty
  · rw [List.isRotated_nil_iff.1 rotated]
  have alsoNonempty : turned ≠ [] := by
    rintro rfl
    exact nonempty (List.isRotated_nil_iff'.1 rotated).symm
  have same : (rotateToLeast turned).IsRotated (rotateToLeast given) :=
    (isRotated_rotateToLeast turned).trans
      (rotated.trans (isRotated_rotateToLeast given).symm)
  refine eq_of_isRotated ?_ same ?_
  · exact ((isRotated_rotateToLeast turned).trans rotated).nodup_iff.2 distinct
  · rw [head?_rotateToLeast alsoNonempty, head?_rotateToLeast nonempty,
      leastLabel_of_perm rotated.perm]

/-- A label that comes twice may come first in two ways. -/
example : (["A", "B", "A", "C"].IsRotated ["A", "C", "A", "B"]) ∧
    rotateToLeast ["A", "B", "A", "C"] ≠ rotateToLeast ["A", "C", "A", "B"] :=
  ⟨⟨2, rfl⟩, by decide +kernel⟩

end Turning

variable {α : Type} {declaration : Declaration} {registry : Registry α}

/-! ## Spellings -/

/-- A declaration names a polygon by the letters of its vertices, in their order around it. Any of
them may come first. -/
structure Spells (declaration : Declaration) (triangle : Bool) (letters : List String) : Prop where
  ofKind : kindOf? declaration = some (if triangle then .triangle else .polygon)
  plain : declaration.argument? "points" = none
  named : ∃ name, declaration.name = some name ∧ (labels name).IsRotated letters

section Spellings

variable {triangle : Bool} {letters : List String}

theorem Spells.vertexLabels (spells : Spells declaration triangle letters)
    (distinct : letters.Nodup) (enough : 3 ≤ letters.length)
    (three : triangle → letters.length = 3) :
    vertexLabels declaration triangle = .ok (rotateToLeast letters) := by
  obtain ⟨name, named, rotated⟩ := spells.named
  have sizes := rotated.perm.length_eq
  rw [vertexLabels_of_letters spells.plain named (sizes ▸ enough) (sizes ▸ three),
    rotateToLeast_of_isRotated distinct rotated]

theorem newName_of_plain {keyword formed : String} (plain : declaration.argument? keyword = none) :
    newName declaration keyword formed = formed := by
  cases name : declaration.name <;> simp [newName, plain, name]

/-- What a declaration of a polygon says and leaves, also if it fails, does not depend on the letter
with which the name begins. -/
theorem Spells.declarePolygon_eq {other : Declaration} (distinct : letters.Nodup)
    (spells : Spells declaration triangle letters) (alsoSpells : Spells other triangle letters) :
    declarePolygon registry declaration triangle = declarePolygon registry other triangle := by
  obtain ⟨name, named, rotated⟩ := spells.named
  obtain ⟨spelling, alsoNamed, alsoRotated⟩ := alsoSpells.named
  have labels : Construction.vertexLabels declaration triangle =
      Construction.vertexLabels other triangle := by
    simp only [Construction.vertexLabels, spells.plain, alsoSpells.plain, requiredName, named,
      alsoNamed, Except.map, rotateToLeast_of_isRotated distinct rotated,
      rotateToLeast_of_isRotated distinct alsoRotated]
  simp only [declarePolygon, labels, newName_of_plain spells.plain,
    newName_of_plain alsoSpells.plain]

end Spellings

/-! ## New polygons -/

/-- No polygon has the points that some letters label in turn, nor the name that they form. -/
structure NewPolygon (registry : Registry α) (letters : List String) : Prop where
  enough : 3 ≤ letters.length
  apart : (letters.map Text.lower).Nodup
  free : registry.index? .polygon (String.join (rotateToLeast letters)) = none
  unknown : ∀ id points ids, registry.span? (.polygon id) = some points →
    List.Forall₂ (Denotes registry) letters ids → ¬ Coincide .polygon points ids

/-- Letters that differ, also in lower case, denote different points. -/
theorem nodup_of_denotes {letters : List String} {ids : List PointId}
    (denote : List.Forall₂ (Denotes registry) letters ids)
    (apart : (letters.map Text.lower).Nodup) : ids.Nodup := by
  have spelled : ids.map (fun id => (registry.name (.point id)).map Text.lower) =
      (letters.map Text.lower).map some := by
    induction denote with
    | nil => rfl
    | cons first _ ih =>
        obtain ⟨name, named, same⟩ := first
        simp only [List.map_cons, List.nodup_cons] at apart ⊢
        rw [ih apart.2, named, Option.map_some, same]
  exact .of_map _ (spelled ▸ apart.map fun _ _ => Option.some.inj)

theorem denotes_of_enterPoints {later : Registry α} {names : List String} {ids : List PointId}
    (declaration : Declaration) (indexed : Indexed registry) (named : EntriesNamed registry)
    (entered : registry.enterPoints names = (ids, later)) :
    List.Forall₂ (Denotes later) names ids := by
  have laterNamed : EntriesNamed later :=
    (enterPoints_spec declaration indexed entered).1.entriesNamed named
  refine (known_of_enterPoints entered).imp fun label id known => ?_
  obtain ⟨name, stored, lowered⟩ := laterNamed .point _ _ known
  exact ⟨name, stored, lowered.symm⟩

/-- What labels denote after some changes they denoted before, if it was there. -/
theorem Changes.denotes {later : Registry α} {given : List String} {ids : List PointId}
    (changes : Changes declaration registry later)
    (denote : List.Forall₂ (Denotes later) given ids)
    (held : ∀ id ∈ ids, registry.Holds (.point id)) :
    List.Forall₂ (Denotes registry) given ids := by
  obtain ⟨sizes, each⟩ := List.forall₂_iff_zip.1 denote
  refine List.forall₂_iff_zip.2 ⟨sizes, fun {label id} member => ?_⟩
  obtain ⟨name, named, lowered⟩ := each member
  obtain ⟨before, known⟩ := Registry.holds_iff_name.1 (held id (List.of_mem_zip member).2)
  rw [changes.name known, Option.some.injEq] at named
  exact ⟨before, known, named ▸ lowered⟩

section New

variable {letters : List String} {vertices : List PointId} {next : Registry α}
  (new : NewPolygon registry letters)
  (entered : registry.enterPoints (rotateToLeast letters) = (vertices, next))

include new entered

/-- When its points have been entered, a new polygon is still not there. -/
theorem NewPolygon.findPolygon? (declaration : Declaration) (formed : WellFormed registry)
    (denote : List.Forall₂ (Denotes next) (rotateToLeast letters) vertices) :
    next.findPolygon? vertices = none := by
  have finds := next.finds_findPolygon? vertices
  cases found : next.findPolygon? vertices with
  | none => rfl
  | some id =>
      rw [found] at finds
      cases finds with
      | @entity _ points _ spanned same =>
          have earlier : registry.span? (.polygon id) = some points := by
            rwa [Registry.span?, Registry.polygon?, ← (entersPoints_enterPoints entered).polygons]
          obtain ⟨polygon, stored, rfl⟩ := Option.map_eq_some_iff.1 earlier
          -- The points of a polygon were there before, so the letters denoted them already.
          have earlierDenote :=
            (enterPoints_spec declaration formed.indexed entered).1.denotes denote
              fun vertex member => (formed.polygons id polygon stored).held vertex
                ((same.1 vertex).2 member)
          obtain ⟨ids, denoted, permuted⟩ := List.perm_comp_forall₂
            (isRotated_rotateToLeast letters).perm.symm earlierDenote
          have coincides : Coincide .polygon polygon.vertices ids :=
            ⟨fun point => (same.1 point).trans permuted.mem_iff.symm, by simp⟩
          exact absurd coincides (new.unknown id _ ids earlier denoted)

/-- A new polygon is added under the name that its letters form when the least one comes first. -/
theorem NewPolygon.declarePolygon_eq {declaration : Declaration} {triangle : Bool}
    (spells : Spells declaration triangle letters) (three : triangle → letters.length = 3)
    (distinct : vertices.Nodup) (unclosed : next.findPolygon? vertices = none) :
    ∃ label, declarePolygon registry declaration triangle =
      touchShape (addClosed next (String.join (rotateToLeast letters)) vertices label)
        (.polygon ⟨next.polygons.size⟩) := by
  have fresh : next.index? .polygon (String.join (rotateToLeast letters)) = none :=
    (((SameShapes.refl registry).enterPoints entered).index? (by decide) _).trans new.free
  have created : next.enter .polygon (String.join (rotateToLeast letters)) =
      ((next.count .polygon, true), next.add .polygon (String.join (rotateToLeast letters))) := by
    simp [Registry.enter, fresh]
  refine ⟨if triangle then some ("triangle " ++ String.join (rotateToLeast letters)) else none, ?_⟩
  have read := spells.vertexLabels (new.apart.of_map _) new.enough three
  simp only [declarePolygon, read, entered, if_pos ((allDistinct_iff vertices).2 distinct),
    unclosed, newName_of_plain spells.plain, created]
  rfl

end New

/-- A registry has a polygon under the name that some labels form, and its vertices are the points
that they denote, in the same order. -/
structure HasPolygon (registry : Registry α) (id : PolygonId) (labels : List String)
    (vertices : List PointId) : Prop where
  name : registry.name (.polygon id) = some (String.join labels)
  span : registry.span? (.polygon id) = some vertices
  denote : List.Forall₂ (Denotes registry) labels vertices

namespace HasPolygon

variable {given : List String} {vertices : List PointId}

theorem addClosed (denote : List.Forall₂ (Denotes registry) given vertices)
    (label : Option String) :
    HasPolygon (addClosed registry (String.join given) vertices label) ⟨registry.polygons.size⟩
      given vertices := by
  have same := sameNames_addClosed registry (String.join given) vertices label
  refine ⟨?_, span?_addClosed registry _ vertices label, denote.imp fun _ id => ?_⟩
  · rw [same.name, Registry.name_add]
    exact if_pos rfl
  · rintro ⟨name, named, lowered⟩
    have other : EntityRef.point id ≠ registry.newest .polygon := nofun
    exact ⟨name, by rw [same.name, Registry.name_add, if_neg other, named], lowered⟩

/-- A polygon stays with its name and its vertices where names and lists of points stay. -/
theorem of_kept {licence : Licence} {before after : Registry α} {id : PolygonId}
    (polygon : HasPolygon before id given vertices) (kept : Kept licence before after)
    (same : Registry.SameNames after before) : HasPolygon after id given vertices where
  name := (same.name _).trans polygon.name
  span := kept.span? polygon.span
  denote := polygon.denote.imp fun _ _ ⟨name, named, lowered⟩ =>
    ⟨name, (same.name _).trans named, lowered⟩

theorem constrain {id : PolygonId} (polygon : HasPolygon registry id given vertices)
    (shape : ShapeRef) (ids : List PointId) :
    HasPolygon (constrain registry shape ids) id given vertices := by
  have kept : Kept .none registry _ := (Kept.refl registry).constrain shape ids
  exact polygon.of_kept kept (sameNames_constrain registry shape ids)

theorem setColor {id : PolygonId} (polygon : HasPolygon registry id given vertices)
    (color : Rgba) (entity : EntityRef) :
    HasPolygon (registry.setColor color entity) id given vertices := by
  have kept : Kept .painting registry (registry.setColor color entity) :=
    (Kept.refl registry).setColor trivial color
  exact polygon.of_kept kept (registry.sameNames_setColor color entity)

end HasPolygon

variable [Scalar α]

theorem Spells.apply_eq {triangle : Bool} {letters : List String}
    (spells : Spells declaration triangle letters) (registry : Registry α) :
    apply registry declaration =
      (paint declaration (declarePolygon registry declaration triangle)).outcome declaration := by
  have ofKind := spells.ofKind
  unfold apply
  cases triangle <;> simp only [ofKind, Bool.false_eq_true, if_true, if_false]

/-- All declarations that spell a new polygon add it with the same vertices under the same name,
also if they have a color that cannot be read. -/
theorem NewPolygon.apply {letters : List String} (new : NewPolygon registry letters)
    (formed : WellFormed registry) (named : EntriesNamed registry) :
    ∃ vertices, ∀ declaration triangle, Spells declaration triangle letters →
      (triangle → letters.length = 3) →
        HasPolygon (apply registry declaration).2 ⟨registry.polygons.size⟩ (rotateToLeast letters)
          vertices ∧
        (Readable declaration → (apply registry declaration).1 =
          .ok (.entities (.polygon ⟨registry.polygons.size⟩ :: vertices.map .point))) := by
  rcases entered : registry.enterPoints (rotateToLeast letters) with ⟨vertices, next⟩
  refine ⟨vertices, fun declaration triangle spells three => ?_⟩
  have denote := denotes_of_enterPoints declaration formed.indexed named entered
  have distinct : vertices.Nodup := by
    refine nodup_of_denotes denote ?_
    exact ((isRotated_rotateToLeast letters).perm.map Text.lower).nodup_iff.2 new.apart
  obtain ⟨label, declared⟩ := new.declarePolygon_eq entered spells three distinct
    (new.findPolygon? entered declaration formed denote)
  have number : next.polygons.size = registry.polygons.size := by
    rw [(entersPoints_enterPoints entered).polygons]
  have closed := HasPolygon.addClosed denote label
  have about : (addClosed next (String.join (rotateToLeast letters)) vertices label).definingPoints
      (.polygon ⟨next.polygons.size⟩) = vertices := congrArg (Option.getD · []) closed.span
  rw [spells.apply_eq, declared, touchShape, about, ShapeRef.entity, ← number]
  have constrained := closed.constrain (.polygon ⟨next.polygons.size⟩) vertices
  generalize Construction.constrain _ _ vertices = later at constrained ⊢
  obtain ⟨either, succeeds⟩ := outcome_paint declaration (.polygon ⟨next.polygons.size⟩)
    (vertices.map .point) later
  refine ⟨?_, succeeds⟩
  rcases either with last | ⟨color, last⟩
  · rw [last]
    exact constrained
  · rw [last]
    exact constrained.setColor color _

/-- Labels are turned so that a least one comes first, and if they are all different it makes no
difference where they began. So all ways to spell a polygon around have one effect, and those that
spell a new polygon give it the same number, the same name, and the same vertices in one order. The
name begins with the least letter. -/
theorem construct_polygon_spellings (α : Type) [Scalar α] :
    (∀ given : List String, (rotateToLeast given).IsRotated given ∧
      (given ≠ [] → ∃ first rest, rotateToLeast given = first :: rest ∧
        ∀ label ∈ given, first ≤ label)) ∧
    (∀ given turned : List String, given.Nodup → turned.IsRotated given →
      rotateToLeast turned = rotateToLeast given) ∧
    (∀ (registry : Registry α) first second triangle letters, letters.Nodup →
      Spells first triangle letters → Spells second triangle letters →
        declarePolygon registry first triangle = declarePolygon registry second triangle) ∧
    ∀ palette earlier letters,
      let registry : Registry α := construct palette earlier
      NewPolygon registry letters →
        ∃ vertices, ∀ declaration triangle, Spells declaration triangle letters →
          (triangle → letters.length = 3) →
            HasPolygon (apply registry declaration).2 ⟨registry.polygons.size⟩
              (rotateToLeast letters) vertices ∧
            (Readable declaration → (apply registry declaration).1 =
              .ok (.entities (.polygon ⟨registry.polygons.size⟩ :: vertices.map .point))) := by
  refine ⟨fun given => ⟨isRotated_rotateToLeast given, fun nonempty => ?_⟩,
    fun given turned distinct rotated => rotateToLeast_of_isRotated distinct rotated,
    fun registry first second triangle letters distinct spells alsoSpells =>
      spells.declarePolygon_eq distinct alsoSpells,
    fun palette earlier letters => ?_⟩
  · obtain ⟨rest, turned⟩ := List.head?_eq_some_iff.1 (head?_rotateToLeast nonempty)
    exact ⟨leastLabel given, rest, turned, fun label member => leastLabel_le member⟩
  · intro registry new
    have named : NamesEntities registry := namesEntities_construct palette earlier
    exact new.apply (wellFormed_construct palette earlier) fun _ _ _ entry => named.exact.1 entry

/-- A square that is named from its third vertex on is the one that is named from its first. -/
theorem construct_polygon_spellings_square :
    let square : Declaration := ⟨"polygon", some "CDAB", 1, ⟨0, 14⟩, [], []⟩
    let registry : Registry Float := construct .standard []
    NewPolygon registry (labels "ABCD") ∧ Spells square false (labels "ABCD") ∧
      ∃ vertices, HasPolygon (apply registry square).2 ⟨0⟩ (labels "ABCD") vertices ∧
        (apply registry square).1 = .ok (.entities (.polygon ⟨0⟩ :: vertices.map .point)) := by
  intro square registry
  have new : NewPolygon registry (labels "ABCD") :=
    ⟨by decide +kernel, by decide +kernel, by decide +kernel, nofun⟩
  have spells : Spells square false (labels "ABCD") :=
    ⟨by decide +kernel, by decide +kernel, "CDAB", rfl, 2, by decide +kernel⟩
  obtain ⟨vertices, added⟩ :=
    (construct_polygon_spellings Float).2.2.2 .standard [] (labels "ABCD") new
  obtain ⟨polygon, succeeds⟩ := added square false spells nofun
  have turned : rotateToLeast (labels "ABCD") = labels "ABCD" := by decide +kernel
  exact ⟨new, spells, vertices, turned ▸ polygon, succeeds nofun⟩

end FigureMarkup.Construction
