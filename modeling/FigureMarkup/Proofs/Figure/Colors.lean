import FigureMarkup.Proofs.Figure.Views
import Mathlib.Data.List.Nodup
import Mathlib.Logic.Function.Iterate

/-!
# Colors of entities

Every entity gets a color when it is created. Points and circles have a color of their own, and
lines, polygons and angles share a cycle, from which each of them takes the next color. What a
registry hands out in this way is the same whether entities are created in one step or in several.
-/

namespace FigureMarkup

/-! ## Cycles -/

namespace ColorCycle

theorem palette_iterate_advance (colors : ColorCycle) (n : Nat) :
    (advance^[n] colors).palette = colors.palette := by
  induction n generalizing colors with
  | zero => rfl
  | succ n ih => exact ih colors.advance

/-- The place of a cycle after some steps. -/
theorem iterate_advance_start (palette : Palette) (n : Nat) :
    advance^[n] (start palette) = ⟨palette, n % palette.cycle.length⟩ := by
  induction n with
  | zero => simp [start]
  | succ n ih => rw [Function.iterate_succ_apply', ih, advance, Nat.mod_add_mod]

/-- After the last color of a cycle comes the first one again. -/
theorem color_iterate_advance (palette : Palette) (n : Nat) :
    some (advance^[n] (start palette)).color =
      palette.cycle[n % palette.cycle.length]? := by
  have inside : n % palette.cycle.length < palette.cycle.length :=
    Nat.mod_lt _ (List.length_pos_iff.2 palette.cycle_ne_nil)
  simp [iterate_advance_start, color, List.getElem?_eq_getElem inside]

end ColorCycle

namespace Figure

/-- The kinds of entities that get the colors of a cycle in turn. -/
def EntityKind.takesTurn : EntityKind → Bool
  | .point | .circle => false
  | .line | .polygon | .angle => true

namespace Registry

variable {α : Type}

/-! ## Colors of entities -/

theorem holds_iff_color {registry : Registry α} {entity : EntityRef} :
    registry.Holds entity ↔ ∃ color, registry.color entity = some color := by
  rw [← Option.isSome_iff_exists]
  cases entity with
  | point id => simp [holds_point_iff, color, ← Option.isSome_iff_exists]
  | line id => simp [holds_line_iff, color, ← Option.isSome_iff_exists]
  | circle id => simp [holds_circle_iff, color, ← Option.isSome_iff_exists]
  | polygon id => simp [holds_polygon_iff, color, ← Option.isSome_iff_exists]
  | angle id => simp [holds_angle_iff, color, ← Option.isSome_iff_exists]

theorem not_holds_iff_color {registry : Registry α} {entity : EntityRef} :
    ¬ registry.Holds entity ↔ registry.color entity = none := by
  rw [holds_iff_color, ← Option.isSome_iff_exists, Option.not_isSome_iff_eq_none]

/-- The color of the next entity of a kind. -/
def nextColor (registry : Registry α) : EntityKind → Rgba
  | .point => registry.colors.palette.point
  | .circle => registry.colors.palette.circle
  | .line | .polygon | .angle => registry.colors.color

theorem color_add (registry : Registry α) (kind : EntityKind) (name : String)
    (entity : EntityRef) :
    (registry.add kind name).color entity =
      if entity = registry.newest kind then some (registry.nextColor kind)
      else registry.color entity := by
  cases entity <;> cases kind <;>
    simp only [color, nextColor, EntityRef.ofIndex, point?_add, line?_add, circle?_add,
      polygon?_add, angle?_add, reduceCtorEq, if_false] <;>
    split <;> rfl

theorem color_add_of_color {registry : Registry α} (kind : EntityKind) (name : String)
    {entity : EntityRef} {shade : Rgba} (colored : registry.color entity = some shade) :
    (registry.add kind name).color entity = some shade := by
  have older : entity ≠ registry.newest kind := by
    rintro rfl
    exact registry.not_holds_newest kind (holds_iff_color.2 ⟨shade, colored⟩)
  rw [color_add, if_neg older, colored]

theorem colors_add (registry : Registry α) (kind : EntityKind) (name : String) :
    (registry.add kind name).colors =
      if kind.takesTurn then registry.colors.advance else registry.colors := by
  cases kind <;> rfl

/-- Two registries have entities of the same colors, and have come to the same color. -/
structure SameColors (first second : Registry α) : Prop where
  colors : first.colors = second.colors
  color : ∀ entity, first.color entity = second.color entity

namespace SameColors

theorem refl (registry : Registry α) : SameColors registry registry := ⟨rfl, fun _ => rfl⟩

theorem trans {first second third : Registry α} (one : SameColors first second)
    (two : SameColors second third) : SameColors first third :=
  ⟨one.colors.trans two.colors, fun entity => (one.color entity).trans (two.color entity)⟩

end SameColors

theorem map_color_of_keeps {β : Type} {color : β → Rgba} {change : β → β}
    (keeps : ∀ item, color (change item) = color item) (stored : Option β) (chosen : Prop)
    [Decidable chosen] :
    (stored.map fun item => if chosen then change item else item).map color =
      stored.map color := by
  rw [Option.map_map]
  exact congrArg (Option.map · stored) (funext fun item => by simp [apply_ite, keeps])

theorem sameColors_modifyPoint (registry : Registry α) (id : PointId) {change : Point α → Point α}
    (keeps : ∀ point, (change point).color = point.color) :
    SameColors (registry.modifyPoint id change) registry where
  colors := rfl
  color entity := by
    cases entity with
    | point other =>
        rw [color, point?_modifyPoint, map_color_of_keeps keeps]
        rfl
    | _ => rfl

theorem sameColors_modifyLine (registry : Registry α) (id : LineId) {change : Line → Line}
    (keeps : ∀ line, (change line).color = line.color) :
    SameColors (registry.modifyLine id change) registry where
  colors := rfl
  color entity := by
    cases entity with
    | line other =>
        rw [color, line?_modifyLine, map_color_of_keeps keeps]
        rfl
    | _ => rfl

theorem sameColors_modifyCircle (registry : Registry α) (id : CircleId)
    {change : Circle α → Circle α} (keeps : ∀ circle, (change circle).color = circle.color) :
    SameColors (registry.modifyCircle id change) registry where
  colors := rfl
  color entity := by
    cases entity with
    | circle other =>
        rw [color, circle?_modifyCircle, map_color_of_keeps keeps]
        rfl
    | _ => rfl

theorem sameColors_modifyPolygon (registry : Registry α) (id : PolygonId)
    {change : Polygon → Polygon} (keeps : ∀ polygon, (change polygon).color = polygon.color) :
    SameColors (registry.modifyPolygon id change) registry where
  colors := rfl
  color entity := by
    cases entity with
    | polygon other =>
        rw [color, polygon?_modifyPolygon, map_color_of_keeps keeps]
        rfl
    | _ => rfl

theorem sameColors_modifyAngle (registry : Registry α) (id : AngleId) {change : Angle α → Angle α}
    (keeps : ∀ angle, (change angle).color = angle.color) :
    SameColors (registry.modifyAngle id change) registry where
  colors := rfl
  color entity := by
    cases entity with
    | angle other =>
        rw [color, angle?_modifyAngle, map_color_of_keeps keeps]
        rfl
    | _ => rfl

/-! ## Handing out colors -/

/-- A registry comes from another one by creating entities, where those that take turns are created
in some order, and no entity changes its color. -/
structure HandsOut (before : Registry α) (order : List EntityRef) (after : Registry α) : Prop where
  colors : after.colors = ColorCycle.advance^[order.length] before.colors
  kept : ∀ {entity color}, before.color entity = some color → after.color entity = some color
  nodup : order.Nodup
  mem_iff : ∀ entity, entity ∈ order ↔
    entity.kind.takesTurn = true ∧ after.Holds entity ∧ ¬ before.Holds entity
  turn : ∀ {n entity}, order[n]? = some entity →
    after.color entity = some (ColorCycle.advance^[n] before.colors).color
  fixed : ∀ {entity}, entity.kind.takesTurn = false → after.Holds entity →
    ¬ before.Holds entity → after.color entity = some (before.nextColor entity.kind)

namespace HandsOut

variable {before middle after : Registry α} {order more : List EntityRef}

theorem holds (hands : HandsOut before order after) {entity : EntityRef}
    (held : before.Holds entity) : after.Holds entity := by
  obtain ⟨color, colored⟩ := holds_iff_color.1 held
  exact holds_iff_color.2 ⟨color, hands.kept colored⟩

/-- A registry with the same colors creates nothing. -/
theorem of_sameColors (same : SameColors after before) : HandsOut before [] after where
  colors := same.colors
  kept colored := (same.color _).trans colored
  nodup := .nil
  mem_iff entity := by simp [holds_iff_color, same.color]
  turn := nofun
  fixed _ held absent := by
    rw [holds_iff_color, same.color, ← holds_iff_color] at held
    exact absurd held absent

theorem refl (registry : Registry α) : HandsOut registry [] registry :=
  of_sameColors (.refl registry)

theorem nextColor_eq (hands : HandsOut before order after) {kind : EntityKind}
    (fixed : kind.takesTurn = false) : after.nextColor kind = before.nextColor kind := by
  have palette : after.colors.palette = before.colors.palette := by
    rw [hands.colors, ColorCycle.palette_iterate_advance]
  cases kind with
  | point | circle => simp [nextColor, palette]
  | line | polygon | angle => cases fixed

theorem trans (one : HandsOut before order middle) (two : HandsOut middle more after) :
    HandsOut before (order ++ more) after where
  colors := by
    rw [two.colors, one.colors, ← Function.iterate_add_apply, List.length_append, Nat.add_comm]
  kept colored := two.kept (one.kept colored)
  nodup := one.nodup.append two.nodup fun entity first second =>
    ((two.mem_iff entity).1 second).2.2 ((one.mem_iff entity).1 first).2.1
  mem_iff entity := by
    rw [List.mem_append, one.mem_iff, two.mem_iff]
    have stays : middle.Holds entity → after.Holds entity := two.holds
    have stayed : before.Holds entity → middle.Holds entity := one.holds
    tauto
  turn {n entity} found := by
    by_cases early : n < order.length
    · rw [List.getElem?_append_left early] at found
      exact two.kept (one.turn found)
    · rw [List.getElem?_append_right (Nat.le_of_not_lt early)] at found
      rw [two.turn found, one.colors, ← Function.iterate_add_apply,
        Nat.sub_add_cancel (Nat.le_of_not_lt early)]
  fixed {entity} fixed held absent := by
    by_cases between : middle.Holds entity
    · exact two.kept (one.fixed fixed between absent)
    · rw [two.fixed fixed held between, one.nextColor_eq fixed]

/-- An entity that takes no turn is created. -/
theorem add_fixed (registry : Registry α) (kind : EntityKind) (fixed : kind.takesTurn = false)
    (name : String) : HandsOut registry [] (registry.add kind name) where
  colors := by rw [colors_add, fixed]; rfl
  kept colored := color_add_of_color kind name colored
  nodup := .nil
  mem_iff entity := by
    simp only [List.not_mem_nil, holds_add, false_iff]
    rintro ⟨turn, held | rfl, absent⟩
    · exact absent held
    · rw [EntityRef.kind_ofIndex, fixed] at turn
      cases turn
  turn := nofun
  fixed {entity} _ held absent := by
    rcases holds_add.1 held with older | rfl
    · exact absurd older absent
    · rw [color_add, if_pos rfl, EntityRef.kind_ofIndex]

/-- An entity that takes its turn is created, and gets the next color. -/
theorem add_turn (registry : Registry α) (kind : EntityKind) (turn : kind.takesTurn = true)
    (name : String) : HandsOut registry [registry.newest kind] (registry.add kind name) where
  colors := by rw [colors_add, turn]; rfl
  kept colored := color_add_of_color kind name colored
  nodup := List.nodup_singleton _
  mem_iff entity := by
    rw [List.mem_singleton, holds_add]
    constructor
    · rintro rfl
      exact ⟨by rw [EntityRef.kind_ofIndex, turn], .inr rfl, registry.not_holds_newest kind⟩
    · rintro ⟨-, held | new, absent⟩
      · exact absurd held absent
      · exact new
  turn {n entity} found := by
    obtain ⟨rfl, rfl⟩ : n = 0 ∧ registry.newest kind = entity := by
      simpa [List.getElem?_singleton] using found
    rw [color_add, if_pos rfl]
    cases kind with
    | line | polygon | angle => rfl
    | point | circle => cases turn
  fixed {entity} fixed held absent := by
    rcases holds_add.1 held with older | rfl
    · exact absurd older absent
    · rw [EntityRef.kind_ofIndex, turn] at fixed
      cases fixed

theorem congr (hands : HandsOut before order middle) (same : SameColors after middle) :
    HandsOut before order after := by
  simpa using hands.trans (of_sameColors same)

end HandsOut

end Registry

end Figure

end FigureMarkup
