import FigureMarkup.Proofs.Compilation.Integrity
import FigureMarkup.Proofs.Construction.Places

/-!
# Declared places in compiled scenes

The place that a document gives to a point is the one that the scene shows. Neither placing the
other points nor anything else that is declared about the point moves it; only a later declaration
of a place for the same point does.
-/

namespace FigureMarkup

open Construction Figure Markup Plane Placement Text

variable {σ α : Type}

/-- An entry of a scene is that of the point of a name, in whatever case it is written. -/
def SceneEntity.IsPoint (name : String) (entry : SceneEntity α) : Prop :=
  ∃ spelling, entry.id = "point_" ++ spelling ∧ lower spelling = lower name

variable [Scalar α]

/-- The point of a name has exactly one entry in a scene, with the coordinates that it has in the
registry. -/
theorem Scene.Depicts.entry_of_pointAt {scene : Scene α} {registry : Registry α}
    (depicts : scene.Depicts registry) (named : NamesEntities registry) {name : String}
    {place : Vec α} (here : PointAt registry name place) :
    ∃ entry ∈ scene.entities, entry.IsPoint name ∧
      entry.data = .point (some place.x) (some place.y) ∧
      ∀ other ∈ scene.entities, other.IsPoint name → other = entry := by
  obtain ⟨id, known, position⟩ := here
  obtain ⟨spelling, stored, same⟩ := named.exact.1 known
  have held : registry.Holds (.point id) := Registry.holds_iff_name.2 ⟨spelling, stored⟩
  obtain ⟨entry, found, identified, shown⟩ := depicts.entry (.point id) held
  have sceneId : registry.sceneId (.point id) = "point_" ++ spelling := by
    rw [Registry.sceneId, show registry.name (.point id) = some spelling from stored]
    rfl
  refine ⟨entry, (Scene.find?_eq_some_iff.1 found).1, ⟨spelling, identified.trans sceneId, same⟩,
    ?_, fun other member isPoint => ?_⟩
  · obtain ⟨point, point?, here⟩ := Option.bind_eq_some_iff.1 position
    have data : some (pointData point) = some entry.data := by
      simpa [data?, point?] using (entity?_eq_some_iff.1 shown).2.2
    obtain ⟨x, y⟩ := Point.coordinates_of_position here
    rw [← Option.some.inj data, pointData, x, y]
  · -- An entry of the same name is that of an entity of the same kind, and hence of the same one.
    obtain ⟨alsoSpelling, alsoIdentified, alsoSame⟩ := isPoint
    obtain ⟨entity, alsoHeld, alsoShown⟩ := depicts.entity other member
    obtain ⟨alsoName, alsoStored⟩ := Registry.holds_iff_name.1 alsoHeld
    have sameId := (entity?_eq_some_iff.1 alsoShown).1.symm.trans alsoIdentified
    rw [Registry.sceneId, alsoStored] at sameId
    obtain ⟨kind, spelled⟩ : entity.kind = EntityKind.point ∧ alsoName = alsoSpelling :=
      kind_name_inj sameId
    have lowered : lower alsoName = lower spelling := by rw [spelled, alsoSame, same]
    obtain rfl : entity = .point id := named.apart kind alsoStored stored lowered
    exact Option.some.inj (alsoShown.symm.trans shown)

omit [Scalar α] in
/-- Resolving a figure moves no point that has a place. -/
theorem Placement.Frame.pointAt {before after : Registry α} (frame : Frame before after)
    {name : String} {place : Vec α} (here : PointAt before name place) :
    PointAt after name place := by
  obtain ⟨id, known, position⟩ := here
  exact ⟨id, (frame.sameNames.index? .point name).trans known, frame.position position⟩

omit [Scalar α] in
theorem Construction.NamesEntities.of_sameNames {first second : Registry α}
    (named : NamesEntities first) (same : Registry.SameNames second first) :
    NamesEntities second where
  exact {kind key index} := by rw [same.names, same.name, named.exact]
  found {entity name spelling} stored equal := by
    rw [Registry.find?, same.index?]
    exact named.found (same.name entity ▸ stored) equal
  apart ofKind stored alsoStored equal :=
    named.apart ofKind (same.name _ ▸ stored) (same.name _ ▸ alsoStored) equal

variable [Random.Source σ α]

/-- If a document compiles, each point to which it gives a place has exactly one entry in the
scene, with the coordinates that the last declaration of its place writes. -/
theorem compile_places {settings : CompileSettings α} {random : σ} {document : String}
    {scene : Scene α} (compiles : compile settings random document = .ok scene) :
    ∃ declarations, Declaration.parse document = .ok declarations ∧
      ∀ name, (∃ declaration ∈ declarations, PutsPoint name declaration) →
        ∃ last place entry, (declarations.filter (PutsPoint name)).getLast? = some last ∧
          WritesPlace last place ∧ entry ∈ scene.entities ∧ entry.IsPoint name ∧
          entry.data = .point (some place.x) (some place.y) ∧
          ∀ other ∈ scene.entities, other.IsPoint name → other = entry := by
  obtain ⟨compilation, text, compiled, -, rfl⟩ := compile_eq_ok compiles
  obtain ⟨parsed, sound⟩ := Compilation.sound_of_ofDocument compiled
  refine ⟨compilation.declarations, parsed, fun name ⟨declaration, member, puts⟩ => ?_⟩
  have nonempty : compilation.declarations.filter (PutsPoint name) ≠ [] :=
    List.ne_nil_of_mem (List.mem_filter.2 ⟨member, decide_eq_true puts⟩)
  have isLast := List.getLast?_eq_some_getLast nonempty
  have succeeds (i : Nat) (declaration : Declaration)
      (stored : compilation.declarations[i]? = some declaration) : ∃ outcome,
        (apply (construct settings.palette (compilation.declarations.take i) : Registry α)
          declaration).1 = .ok outcome := by
    obtain ⟨target, -, outcome, done, -⟩ := sound.targets i declaration stored
    exact ⟨outcome, done⟩
  obtain ⟨place, writes, here⟩ := construct_places succeeds isLast
  have named := (namesEntities_construct (α := α) settings.palette
    compilation.declarations).of_sameNames sound.resolved.frame.sameNames
  obtain ⟨entry, member, isPoint, data, only⟩ :=
    (sound.intact text).1.entry_of_pointAt named (sound.resolved.frame.pointAt here)
  exact ⟨_, place, entry, isLast, writes, member, isPoint, data, only⟩

/-- A point that is placed twice, may be placed anywhere, lies on a line, is the center of a circle
and a vertex of a polygon stands where it is placed last. -/
theorem compile_places_again :
    let document :=
      "[point A random] [loc a 1 2] [line AB] [circle c center=a radius=1] " ++
        "[point a x=3 y=-0.5 lieson=\"line AB\"] [polygon BAC]"
    ∃ scene : Scene Float, compile .standard (Random.Keystream.ofSeed 1) document = .ok scene ∧
      ∃ entry, scene.find? "point_A" = some entry ∧
        entry.data = .point (Scalar.read? "3".toList) (Scalar.read? "-0.5".toList) := by
  intro document
  let last : Declaration :=
    ⟨"point", some "a", 1, ⟨68, 105⟩, [("x", "3"), ("y", "-0.5"), ("lieson", "line AB")], []⟩
  have declared : (Declaration.parse document).toOption.map
      (fun declarations => (declarations.filter (PutsPoint "A")).getLast?) = some (some last) := by
    decide +kernel
  have shown : (compile .standard (Random.Keystream.ofSeed 1) document :
      Except _ (Scene Float)).toOption.map (fun scene => (scene.find? "point_A").isSome) =
        some true := by
    decide +kernel
  cases compiles : (compile .standard (Random.Keystream.ofSeed 1) document :
      Except _ (Scene Float)) with
  | error error =>
      rw [compiles] at shown
      cases shown
  | ok scene =>
      rw [compiles] at shown
      obtain ⟨entry, found⟩ := Option.isSome_iff_exists.1 (Option.some.inj shown)
      obtain ⟨declarations, parsed, places⟩ := compile_places compiles
      rw [parsed] at declared
      have isLast : (declarations.filter (PutsPoint "A")).getLast? = some last :=
        Option.some.inj declared
      obtain ⟨member, puts⟩ := List.mem_filter.1 (List.mem_of_getLast? isLast)
      obtain ⟨also, place, placed, alsoLast, writes, -, -, data, only⟩ :=
        places "A" ⟨last, member, of_decide_eq_true puts⟩
      obtain rfl : last = also := Option.some.inj (isLast.symm.trans alsoLast)
      obtain ⟨listed, identified⟩ := Scene.find?_eq_some_iff.1 found
      obtain rfl : entry = placed := only entry listed ⟨"A", identified, rfl⟩
      have x : trim (coordinateText last 0 "x").toList = "3".toList := by decide +kernel
      have y : trim (coordinateText last 1 "y").toList = "-0.5".toList := by decide +kernel
      exact ⟨scene, rfl, entry, found, by rw [data, ← writes.x, ← writes.y, x, y]⟩

end FigureMarkup
