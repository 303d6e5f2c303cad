import FigureMarkup.Proofs.Construction.WellFormed
import FigureMarkup.Proofs.Placement.Settling

/-!
# What resolving a figure leaves alone

Resolving a figure puts points somewhere that have no place, and measures angles. Whether it ends
well or not, and whatever figure it starts from, everything else stays: points that have a place,
what is known about points otherwise, all lines, circles and polygons, and the names and colors.
-/

namespace FigureMarkup.Placement

open Figure Plane Construction

variable {σ α : Type}

/-- A point stays as it is, or it has had no place and gets one. -/
def PointStays (old now : Point α) : Prop :=
  now = old ∨ old.isPlaced = false ∧ ∃ position, now = old.place position

/-- An angle is measured anew at most, for which its two arms may be exchanged. -/
structure AngleStays (old now : Angle α) : Prop where
  name : now.name = old.name
  vertex : now.vertex = old.vertex
  arms : (now.p1 = old.p1 ∧ now.p3 = old.p3) ∨ (now.p1 = old.p3 ∧ now.p3 = old.p1)
  big : now.big = old.big
  color : now.color = old.color

theorem PointStays.trans {old middle now : Point α} (one : PointStays old middle)
    (two : PointStays middle now) : PointStays old now := by
  rcases one with rfl | ⟨unplaced, position, rfl⟩
  · exact two
  · rcases two with rfl | ⟨contradictory, -⟩
    · exact .inr ⟨unplaced, position, rfl⟩
    · cases contradictory

theorem PointStays.eq_of_isPlaced {old now : Point α} (stays : PointStays old now)
    (placed : old.isPlaced = true) : now = old := by
  rcases stays with same | ⟨unplaced, -⟩
  · exact same
  · rw [placed] at unplaced
    cases unplaced

theorem PointStays.name {old now : Point α} (stays : PointStays old now) :
    now.name = old.name := by
  rcases stays with rfl | ⟨-, position, rfl⟩ <;> rfl

theorem PointStays.color {old now : Point α} (stays : PointStays old now) :
    now.color = old.color := by
  rcases stays with rfl | ⟨-, position, rfl⟩ <;> rfl

theorem AngleStays.refl (angle : Angle α) : AngleStays angle angle :=
  ⟨rfl, rfl, .inl ⟨rfl, rfl⟩, rfl, rfl⟩

theorem AngleStays.trans {old middle now : Angle α} (one : AngleStays old middle)
    (two : AngleStays middle now) : AngleStays old now where
  name := two.name.trans one.name
  vertex := two.vertex.trans one.vertex
  arms := by
    rcases one.arms with ⟨first, last⟩ | ⟨first, last⟩ <;>
      rcases two.arms with ⟨laterFirst, laterLast⟩ | ⟨laterFirst, laterLast⟩ <;>
        rw [laterFirst, laterLast, first, last] <;> simp
  big := two.big.trans one.big
  color := two.color.trans one.color

/-- An angle stays sound when its arms are exchanged. -/
theorem AngleStays.sound {registry : Registry α} {old now : Angle α}
    (stays : AngleStays old now) (sound : AngleSound registry old) : AngleSound registry now := by
  obtain ⟨p1, vertex, p3, first, middle, last, distinct, held⟩ := sound
  rcases stays.arms with ⟨sameFirst, sameLast⟩ | ⟨sameFirst, sameLast⟩
  · exact ⟨p1, vertex, p3, sameFirst.trans first, stays.vertex.trans middle,
      sameLast.trans last, distinct, held⟩
  · refine ⟨p3, vertex, p1, sameFirst.trans last, stays.vertex.trans middle,
      sameLast.trans first, ?_, fun point member => held point ?_⟩
    · exact (List.reverse_perm [p1, vertex, p3]).nodup_iff.2 distinct
    · exact List.mem_reverse.1 member

/-- Two registries differ only in places that the first one does not know, and in measurements of
angles. -/
structure Frame (before after : Registry α) : Prop where
  lines : after.lines = before.lines
  circles : after.circles = before.circles
  polygons : after.polygons = before.polygons
  names : after.names = before.names
  colors : after.colors = before.colors
  count : ∀ kind, after.count kind = before.count kind
  point : ∀ id old, before.point? id = some old →
    ∃ now, after.point? id = some now ∧ PointStays old now
  angle : ∀ id old, before.angle? id = some old →
    ∃ now, after.angle? id = some now ∧ AngleStays old now

namespace Frame

variable {before middle after : Registry α}

theorem refl (registry : Registry α) : Frame registry registry where
  lines := rfl
  circles := rfl
  polygons := rfl
  names := rfl
  colors := rfl
  count _ := rfl
  point _ old stored := ⟨old, stored, .inl rfl⟩
  angle _ old stored := ⟨old, stored, .refl old⟩

theorem trans (one : Frame before middle) (two : Frame middle after) : Frame before after where
  lines := two.lines.trans one.lines
  circles := two.circles.trans one.circles
  polygons := two.polygons.trans one.polygons
  names := two.names.trans one.names
  colors := two.colors.trans one.colors
  count kind := (two.count kind).trans (one.count kind)
  point id old stored := by
    obtain ⟨between, stored, first⟩ := one.point id old stored
    obtain ⟨now, stored, second⟩ := two.point id between stored
    exact ⟨now, stored, first.trans second⟩
  angle id old stored := by
    obtain ⟨between, stored, first⟩ := one.angle id old stored
    obtain ⟨now, stored, second⟩ := two.angle id between stored
    exact ⟨now, stored, first.trans second⟩

/-- A point that has a place does not move. -/
theorem position (frame : Frame before after) {id : PointId} {position : Vec α}
    (known : before.position id = some position) : after.position id = some position := by
  obtain ⟨old, stored, here⟩ := Option.bind_eq_some_iff.1 known
  obtain ⟨now, found, stays⟩ := frame.point id old stored
  have placed : old.isPlaced = true := by simp [Point.isPlaced, here]
  rw [Registry.position, found, stays.eq_of_isPlaced placed]
  exact here

/-! ### What a frame keeps -/

theorem line? (frame : Frame before after) (id : LineId) : after.line? id = before.line? id := by
  rw [Registry.line?, Registry.line?, frame.lines]

theorem circle? (frame : Frame before after) (id : CircleId) :
    after.circle? id = before.circle? id := by
  rw [Registry.circle?, Registry.circle?, frame.circles]

theorem polygon? (frame : Frame before after) (id : PolygonId) :
    after.polygon? id = before.polygon? id := by
  rw [Registry.polygon?, Registry.polygon?, frame.polygons]

theorem holds_iff (frame : Frame before after) {entity : EntityRef} :
    after.Holds entity ↔ before.Holds entity := by
  rw [Registry.Holds, Registry.Holds, frame.count]

/-- A point that is there in the end was there before. -/
theorem point_before (frame : Frame before after) {id : PointId} {now : Point α}
    (stored : after.point? id = some now) :
    ∃ old, before.point? id = some old ∧ PointStays old now := by
  have held := frame.holds_iff.1 (Registry.holds_point_iff.2 ⟨now, stored⟩)
  obtain ⟨old, known⟩ := Registry.holds_point_iff.1 held
  obtain ⟨found, again, stays⟩ := frame.point id old known
  rw [stored, Option.some.injEq] at again
  exact ⟨old, known, again ▸ stays⟩

/-- An angle that is there in the end was there before. -/
theorem angle_before (frame : Frame before after) {id : AngleId} {now : Angle α}
    (stored : after.angle? id = some now) :
    ∃ old, before.angle? id = some old ∧ AngleStays old now := by
  have held := frame.holds_iff.1 (Registry.holds_angle_iff.2 ⟨now, stored⟩)
  obtain ⟨old, known⟩ := Registry.holds_angle_iff.1 held
  obtain ⟨found, again, stays⟩ := frame.angle id old known
  rw [stored, Option.some.injEq] at again
  exact ⟨old, known, again ▸ stays⟩

theorem sameNames (frame : Frame before after) : Registry.SameNames after before where
  count := frame.count
  names := frame.names
  name entity := by
    cases named : before.name entity with
    | none =>
        have absent : ¬ before.Holds entity := by
          rw [Registry.holds_iff_name, named]
          simp
        rw [← frame.holds_iff, Registry.holds_iff_name] at absent
        exact Option.eq_none_iff_forall_ne_some.2 fun name known => absent ⟨name, known⟩
    | some name =>
        cases entity with
        | point id =>
            obtain ⟨old, stored, rfl⟩ := Option.map_eq_some_iff.1 named
            obtain ⟨now, found, stays⟩ := frame.point id old stored
            simp [Registry.name, found, stays.name]
        | line id => rw [← named, Registry.name, Registry.name, frame.line?]
        | circle id => rw [← named, Registry.name, Registry.name, frame.circle?]
        | polygon id => rw [← named, Registry.name, Registry.name, frame.polygon?]
        | angle id =>
            obtain ⟨old, stored, rfl⟩ := Option.map_eq_some_iff.1 named
            obtain ⟨now, found, stays⟩ := frame.angle id old stored
            simp [Registry.name, found, stays.name]

theorem definingPoints (frame : Frame before after) (shape : ShapeRef) :
    after.definingPoints shape = before.definingPoints shape := by
  cases shape with
  | line id => rw [Registry.definingPoints, Registry.definingPoints, frame.line?]
  | circle id => rw [Registry.definingPoints, Registry.definingPoints, frame.circle?]
  | polygon id => rw [Registry.definingPoints, Registry.definingPoints, frame.polygon?]

theorem pointSound (frame : Frame before after) {id : PointId} {old now : Point α}
    (stays : PointStays old now) (sound : PointSound before id old) :
    PointSound after id now := by
  have held (shape : ShapeRef) (known : shape ∈ old.constraints) : after.Holds shape.entity :=
    frame.holds_iff.2 (sound.held shape known)
  have reasons (shape : ShapeRef) :
      shape ∈ old.constraints ↔ after.defines id shape ∨ shape ∈ old.liesOn := by
    rw [sound.reasons shape, Registry.defines, Registry.defines, frame.definingPoints]
  rcases stays with rfl | ⟨-, position, rfl⟩
  · exact ⟨sound.constraints, sound.liesOn, sound.included, held, reasons, sound.coordinates⟩
  · exact ⟨sound.constraints, sound.liesOn, sound.included, held, reasons, rfl⟩

theorem wellFormed (frame : Frame before after) (formed : WellFormed before) :
    WellFormed after := by
  have stays {entity : EntityRef} : before.Holds entity → after.Holds entity := frame.holds_iff.2
  refine ⟨formed.indexed.of_sameNames frame.sameNames, fun id line stored => ?_,
    fun id circle stored => ?_, fun id polygon stored => ?_, fun id angle stored => ?_,
    fun id point stored => ?_⟩
  · exact (formed.lines id line (frame.line? id ▸ stored)).mono stays
  · exact (formed.circles id circle (frame.circle? id ▸ stored)).mono stays
  · exact (formed.polygons id polygon (frame.polygon? id ▸ stored)).mono stays
  · obtain ⟨old, known, changed⟩ := frame.angle_before stored
    exact (changed.sound (formed.angles id old known)).mono stays
  · obtain ⟨old, known, changed⟩ := frame.point_before stored
    exact frame.pointSound changed (formed.points id old known)

end Frame

/-- Putting a point somewhere that has no place leaves all other things alone. -/
theorem frame_placePoint {registry : Registry α} {id : PointId}
    (waiting : registry.awaits id = true) (position : Vec α) :
    Frame registry (registry.placePoint id position) where
  lines := rfl
  circles := rfl
  polygons := rfl
  names := rfl
  colors := rfl
  count kind := (registry.sameNames_placePoints [(id, position)]).count kind
  point other old stored := by
    refine ⟨if id = other then old.place position else old, ?_, ?_⟩
    · simp [Registry.point?_placePoint, stored]
    · split
      case isTrue same =>
        subst same
        refine .inr ⟨?_, position, rfl⟩
        simpa [Registry.awaits, stored] using waiting
      case isFalse => exact .inl rfl
  angle _ old stored := ⟨old, stored, .refl old⟩

theorem frame_placePoints {registry : Registry α} {placed : List (PointId × Vec α)}
    (fresh : registry.Fresh placed) : Frame registry (registry.placePoints placed) := by
  induction placed generalizing registry with
  | nil => exact .refl registry
  | cons placement placed ih =>
      obtain ⟨id, position⟩ := placement
      obtain ⟨waiting, fresh⟩ := fresh
      exact (frame_placePoint waiting position).trans (ih fresh)

theorem Extends.frame {ids : List PointId} {before after : Run σ α}
    (one : Extends ids before after) : Frame before.registry after.registry := by
  obtain ⟨placed, -, fresh, registry, -⟩ := one
  rw [registry]
  exact frame_placePoints fresh

variable [Scalar α]

theorem angleStays_measureAt (angle : Angle α) (a vertex c : Vec α) :
    AngleStays angle (angle.measureAt a vertex c) := by
  unfold Angle.measureAt
  dsimp only
  split
  · exact .refl angle
  · split
    -- The two sweeps that are kept and the two that exchange the arms, in the order of the cases.
    · exact ⟨rfl, rfl, .inl ⟨rfl, rfl⟩, rfl, rfl⟩
    · exact ⟨rfl, rfl, .inr ⟨rfl, rfl⟩, rfl, rfl⟩
    · exact ⟨rfl, rfl, .inr ⟨rfl, rfl⟩, rfl, rfl⟩
    · exact ⟨rfl, rfl, .inl ⟨rfl, rfl⟩, rfl, rfl⟩

theorem angleStays_measure? (registry : Registry α) (angle : Angle α) :
    AngleStays angle ((registry.measure? angle).getD angle) := by
  cases measured : registry.measure? angle with
  | none => exact .refl angle
  | some now =>
      simp only [Registry.measure?, bind, Option.bind_eq_some_iff, pure, Option.some.injEq]
        at measured
      obtain ⟨a, -, vertex, -, c, -, rfl⟩ := measured
      exact angleStays_measureAt angle a vertex c

theorem frame_measureAngles (registry : Registry α) : Frame registry (measureAngles registry) where
  lines := rfl
  circles := rfl
  polygons := rfl
  names := rfl
  colors := rfl
  count kind := by cases kind <;> simp [measureAngles, Registry.count]
  point _ old stored := ⟨old, stored, .inl rfl⟩
  angle id old stored := by
    refine ⟨(registry.measure? old).getD old, ?_, angleStays_measure? registry old⟩
    simp only [Registry.angle?] at stored
    simp [Registry.angle?, measureAngles, stored]

/-- Resolving a figure, also if it fails, only puts points somewhere that have no place and
measures angles. No point moves. -/
theorem resolve_frame [Random.Source σ α] (settings : Settings α) (progress : Progress σ α) :
    Frame progress.registry (resolve settings progress).2.registry ∧
      ∀ id position, progress.registry.position id = some position →
        (resolve settings progress).2.registry.position id = some position := by
  have placing : Frame progress.registry (placeAll settings progress).2.registry :=
    (placeAll_ends settings progress).extends_run.frame
  have frame : Frame progress.registry (resolve settings progress).2.registry := by
    rw [resolve]
    rcases placed : placeAll settings progress with ⟨error | _, run⟩ <;> rw [placed] at placing
    · exact placing
    · exact placing.trans (frame_measureAngles run.registry)
  exact ⟨frame, fun _ _ known => frame.position known⟩

end FigureMarkup.Placement
