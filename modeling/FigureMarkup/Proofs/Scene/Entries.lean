import FigureMarkup.Scene.Basic
import Mathlib.Data.List.Forall2
import Mathlib.Data.List.Nodup

/-!
# Entries of scenes

Entities with different identifiers are arranged without loss, and then each is the one that its
identifier finds. Where they end up depends on nothing but their identifiers.
-/

namespace FigureMarkup

variable {α : Type}

namespace SceneEntity

theorem insert_perm {entity : SceneEntity α} {entities : List (SceneEntity α)}
    (fresh : ∀ other ∈ entities, other.id ≠ entity.id) :
    (entity.insert entities).Perm (entity :: entities) := by
  induction entities with
  | nil => exact .refl _
  | cons other rest ih =>
      rw [insert]
      split
      case isTrue => exact .refl _
      case isFalse notBefore =>
        split
        case isTrue =>
          have later := ih fun entry member => fresh entry (List.mem_cons_of_mem _ member)
          exact (later.cons other).trans (.swap entity other rest)
        case isFalse notAfter =>
          have same : other.id = entity.id :=
            String.le_antisymm (String.not_lt.1 notBefore) (String.not_lt.1 notAfter)
          exact absurd same (fresh other List.mem_cons_self)

/-- Entities with different identifiers all stay when they are put in order. -/
theorem arrange_perm {entities : List (SceneEntity α)}
    (distinct : (entities.map (·.id)).Nodup) : (arrange entities).Perm entities := by
  -- Entities are inserted one by one, so the induction is over those that are still to come.
  suffices keeps : ∀ arranged : List (SceneEntity α), ((arranged ++ entities).map (·.id)).Nodup →
      (entities.foldl (fun arranged entity => entity.insert arranged) arranged).Perm
        (arranged ++ entities) from
    keeps [] distinct
  clear distinct
  induction entities with
  | nil =>
      intro arranged _
      rw [List.append_nil]
      exact .refl _
  | cons entity rest ih =>
      intro arranged distinct
      have moved : (entity :: (arranged ++ rest)).Perm (arranged ++ entity :: rest) :=
        List.perm_middle.symm
      have apart := (moved.map (·.id)).nodup_iff.2 distinct
      have fresh (other : SceneEntity α) (member : other ∈ arranged) : other.id ≠ entity.id := by
        intro same
        have among := List.mem_append_left rest member
        exact (List.nodup_cons.1 apart).1 (List.mem_map.2 ⟨other, among, same⟩)
      have inserted : (entity.insert arranged ++ rest).Perm (entity :: (arranged ++ rest)) :=
        (insert_perm fresh).append_right rest
      exact (ih _ ((inserted.map (·.id)).nodup_iff.2 apart)).trans (inserted.trans moved)

/-! ## Two lists of entities -/

section Alike

variable {Alike : SceneEntity α → SceneEntity α → Prop}
  (ids : ∀ {first second}, Alike first second → first.id = second.id)

include ids

theorem forall₂_insert {first second : SceneEntity α} (alike : Alike first second)
    {entities others : List (SceneEntity α)} (all : List.Forall₂ Alike entities others) :
    List.Forall₂ Alike (first.insert entities) (second.insert others) := by
  induction all with
  | nil => exact .cons alike .nil
  | cons here rest ih =>
      rw [insert, insert, ids alike, ids here]
      split
      · exact .cons alike (.cons here rest)
      · split
        · exact .cons here ih
        · exact .cons alike rest

/-- Entities that correspond end up in the same places. -/
theorem forall₂_arrange {entities others : List (SceneEntity α)}
    (all : List.Forall₂ Alike entities others) :
    List.Forall₂ Alike (arrange entities) (arrange others) := by
  suffices keeps : ∀ arranged alsoArranged, List.Forall₂ Alike arranged alsoArranged →
      List.Forall₂ Alike (entities.foldl (fun arranged entity => entity.insert arranged) arranged)
        (others.foldl (fun arranged entity => entity.insert arranged) alsoArranged) from
    keeps [] [] .nil
  induction all with
  | nil => exact fun _ _ arranged => arranged
  | cons here _ ih => exact fun _ _ arranged => ih _ _ (forall₂_insert ids here arranged)

end Alike

end SceneEntity

namespace Scene

variable {scene : Scene α}

theorem nodup_ids (scene : Scene α) : (scene.entities.map (·.id)).Nodup :=
  List.pairwise_map.2 (scene.ordered.imp fun before => String.ne_of_lt before)

/-- An identifier finds the entity that has it. -/
theorem find?_eq_some_iff {id : String} {entity : SceneEntity α} :
    scene.find? id = some entity ↔ entity ∈ scene.entities ∧ entity.id = id := by
  constructor
  · intro found
    exact ⟨List.mem_of_find?_eq_some found, by simpa using List.find?_some found⟩
  · rintro ⟨member, rfl⟩
    cases found : scene.find? entity.id with
    | none =>
        have missing := List.find?_eq_none.1 found entity member
        simp at missing
    | some other =>
        have alsoMember := List.mem_of_find?_eq_some found
        have same : other.id = entity.id := by simpa using List.find?_some found
        rw [List.inj_on_of_nodup_map scene.nodup_ids alsoMember member same]

end Scene

end FigureMarkup
