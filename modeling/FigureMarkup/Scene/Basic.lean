import FigureMarkup.Color.Rgba
import FigureMarkup.Figure.Entity

/-!
# Scenes

A scene holds everything that is needed to show a figure: its entities, the steps in which they
appear, and the text that goes with it. Entities refer to points by identifiers and no longer by
numbers. They stand in the order of their identifiers, and no identifier stands twice.
-/

namespace FigureMarkup

open Figure Plane

inductive EntityData (α : Type) where
  | point (x y : Option α)
  | line (p1 p2 : Option String)
  | circle (p1 p2 p3 center : Option String) (radius : Option α)
  | polygon (points : List String) (label : Option String)
  /-- An angle with its start, vertex and end, its sweep in degrees, and whether that is beyond
  half a turn. -/
  | angle (p1 vertex p3 : Option String) (degrees : Option α) (big : Bool)

namespace EntityData

variable {α : Type}

def kind : EntityData α → EntityKind
  | .point _ _ => .point
  | .line _ _ => .line
  | .circle _ _ _ _ _ => .circle
  | .polygon _ _ => .polygon
  | .angle _ _ _ _ _ => .angle

def position? : EntityData α → Option (Vec α)
  | .point (some x) (some y) => some ⟨x, y⟩
  | _ => none

end EntityData

structure SceneEntity (α : Type) where
  id : String
  color : Rgba
  data : EntityData α

namespace SceneEntity

variable {α : Type}

/-- Decide whether entities stand in the order of their identifiers, without repetition. -/
abbrev Ordered (entities : List (SceneEntity α)) : Prop :=
  entities.Pairwise fun first second => first.id < second.id

/-- Put an entity in its place. It replaces the one with its identifier. -/
def insert (entity : SceneEntity α) : List (SceneEntity α) → List (SceneEntity α)
  | [] => [entity]
  | other :: rest =>
      if entity.id < other.id then entity :: other :: rest
      else if other.id < entity.id then other :: entity.insert rest
      else entity :: rest

/-- Put entities in order. Of two with one identifier the later one stays. -/
def arrange (entities : List (SceneEntity α)) : List (SceneEntity α) :=
  entities.foldl (fun arranged entity => entity.insert arranged) []

theorem id_mem_insert {entity : SceneEntity α} {entities : List (SceneEntity α)} {id : String}
    (member : id ∈ (entity.insert entities).map (·.id)) :
    id = entity.id ∨ id ∈ entities.map (·.id) := by
  induction entities with
  | nil => simpa [insert] using member
  | cons other rest ih =>
      rw [insert] at member
      split at member
      · simpa using member
      · split at member <;> grind

theorem ordered_insert (entity : SceneEntity α) {entities : List (SceneEntity α)}
    (ordered : Ordered entities) : Ordered (entity.insert entities) := by
  induction entities with
  | nil => simp [insert, Ordered]
  | cons other rest ih =>
      obtain ⟨least, ordered⟩ := List.pairwise_cons.1 ordered
      rw [insert]
      split
      case isTrue before =>
        refine List.pairwise_cons.2 ⟨?_, List.pairwise_cons.2 ⟨least, ordered⟩⟩
        intro later member
        rcases List.mem_cons.1 member with rfl | member
        · exact before
        · exact String.lt_trans before (least later member)
      case isFalse notBefore =>
        split
        case isTrue after =>
          refine List.pairwise_cons.2 ⟨?_, ih ordered⟩
          intro later member
          rcases id_mem_insert (List.mem_map_of_mem member) with same | member
          · rw [same]
            exact after
          · obtain ⟨found, member, same⟩ := List.mem_map.1 member
            rw [← same]
            exact least found member
        case isFalse notAfter =>
          have same : other.id = entity.id :=
            String.le_antisymm (String.not_lt.1 notBefore) (String.not_lt.1 notAfter)
          refine List.pairwise_cons.2 ⟨?_, ordered⟩
          intro later member
          rw [← same]
          exact least later member

theorem ordered_arrange (entities : List (SceneEntity α)) : Ordered (arrange entities) := by
  suffices keeps : ∀ arranged : List (SceneEntity α), Ordered arranged →
      Ordered (entities.foldl (fun arranged entity => entity.insert arranged) arranged) from
    keeps [] List.Pairwise.nil
  induction entities with
  | nil => exact fun _ ordered => ordered
  | cons entity rest ih => exact fun _ ordered => ih _ (ordered_insert entity ordered)

end SceneEntity

structure Scene (α : Type) where
  entities : List (SceneEntity α)
  animations : List (List String)
  /-- The text that goes with the figure, in which parts can refer to entities. -/
  text : String
  /-- The entities stand in the order of their identifiers. -/
  ordered : SceneEntity.Ordered entities

namespace Scene

variable {α : Type}

def ofEntities (entities : List (SceneEntity α)) (animations : List (List String))
    (text : String) : Scene α :=
  ⟨SceneEntity.arrange entities, animations, text, SceneEntity.ordered_arrange entities⟩

def find? (scene : Scene α) (id : String) : Option (SceneEntity α) :=
  scene.entities.find? (·.id == id)

def position? (scene : Scene α) (id : String) : Option (Vec α) :=
  (scene.find? id).bind (·.data.position?)

end Scene

end FigureMarkup
