import FigureMarkup.Proofs.Plane.Circles

/-!
# Where shapes meet

In exact arithmetic the computed points of two shapes lie on both of them. There is one whenever
the shapes have a common point, unless they are circles about one center, and each common point is
found once where the shapes cannot share a stretch.
-/

namespace FigureMarkup.Plane

/-! ## Points that count once -/

theorem any_isNear_zero {kept : List (Vec ℝ)} {p : Vec ℝ} :
    kept.any (·.isNear p 0) = true ↔ p ∈ kept := by
  simp only [List.any_eq_true, Vec.isNear_zero, exists_eq_right]

theorem mem_keepDistinct {kept points : List (Vec ℝ)} {p : Vec ℝ} :
    p ∈ keepDistinct 0 kept points ↔ p ∈ points ∧ p ∉ kept := by
  induction points generalizing kept with
  | nil => simp [keepDistinct]
  | cons q rest ih =>
      rw [keepDistinct]
      by_cases known : q ∈ kept
      · rw [if_pos (any_isNear_zero.2 known), ih]
        grind
      · rw [if_neg (mt any_isNear_zero.1 known), List.mem_cons, ih]
        grind

theorem nodup_keepDistinct (kept points : List (Vec ℝ)) : (keepDistinct 0 kept points).Nodup := by
  induction points generalizing kept with
  | nil => exact List.nodup_nil
  | cons q rest ih =>
      rw [keepDistinct]
      split
      · exact ih kept
      · refine List.nodup_cons.2 ⟨fun again => ?_, ih (q :: kept)⟩
        exact (mem_keepDistinct.1 again).2 List.mem_cons_self

@[simp]
theorem mem_distinct {points : List (Vec ℝ)} {p : Vec ℝ} : p ∈ distinct 0 points ↔ p ∈ points := by
  simp [distinct, mem_keepDistinct]

theorem nodup_distinct (points : List (Vec ℝ)) : (distinct 0 points).Nodup :=
  nodup_keepDistinct [] points

theorem Lists.distinct {points : List (Vec ℝ)} {common : Vec ℝ → Prop}
    (lists : Lists points common) : Lists (distinct 0 points) common :=
  fun p => mem_distinct.trans (lists p)

theorem Represents.distinct {points : List (Vec ℝ)} {common : Vec ℝ → Prop}
    (represents : Represents points common) : Represents (distinct 0 points) common where
  sound p member := represents.sound p (mem_distinct.1 member)
  nonempty p shared := by
    obtain ⟨q, member⟩ := List.exists_mem_of_ne_nil _ (represents.nonempty p shared)
    exact List.ne_nil_of_mem (mem_distinct.2 member)
  complete finite p shared := mem_distinct.2 (represents.complete finite p shared)

/-- Points of several pieces together represent what the pieces have in common with something. -/
theorem represents_flatMap {β : Type} (pieces : List β) {points : β → List (Vec ℝ)}
    {common : β → Vec ℝ → Prop} (each : ∀ piece, Represents (points piece) (common piece)) :
    Represents (pieces.flatMap points) (fun p => ∃ piece ∈ pieces, common piece p) where
  sound p member := by
    obtain ⟨piece, among, here⟩ := List.mem_flatMap.1 member
    exact ⟨piece, among, (each piece).sound p here⟩
  nonempty p := by
    rintro ⟨piece, among, shared⟩
    obtain ⟨q, here⟩ := List.exists_mem_of_ne_nil _ ((each piece).nonempty p shared)
    exact List.ne_nil_of_mem (List.mem_flatMap.2 ⟨piece, among, here⟩)
  complete finite p := by
    rintro ⟨piece, among, shared⟩
    have part : {p | common piece p}.Finite := finite.subset fun q here => ⟨piece, among, here⟩
    exact List.mem_flatMap.2 ⟨piece, among, (each piece).complete part p shared⟩

/-! ## Two shapes -/

namespace Shape

/-- Two shapes are circles about one center. -/
def Concentric : Shape ℝ → Shape ℝ → Prop
  | .circle c₁ _, .circle c₂ _ => c₁ = c₂
  | _, _ => False

/-- Two shapes of which neither is a polygon cannot share a stretch: segments that are not
parallel, a segment and a circle, or circles about different centers. -/
def Transversal : Shape ℝ → Shape ℝ → Prop
  | .segment a₁ b₁, .segment a₂ b₂ => ¬ Parallel a₁ b₁ a₂ b₂
  | .segment _ _, .circle _ _ => True
  | .circle _ _, .segment _ _ => True
  | .circle c₁ _, .circle c₂ _ => c₁ ≠ c₂
  | _, _ => False

/-- Two shapes go through a point. -/
def Common (first second : Shape ℝ) (p : Vec ℝ) : Prop := first.Passes p ∧ second.Passes p

variable {first second : Shape ℝ}

/-- Shapes that cannot share a stretch meet exactly in the computed points. -/
theorem lists_meetSmooth (proper : first.Proper) (alsoProper : second.Proper)
    (transversal : Transversal first second) :
    Lists (meetSmooth first second 0) (Common first second) := by
  cases first with
  | segment a₁ b₁ =>
      cases second with
      | segment a₂ b₂ => exact (lists_segmentSegment transversal).distinct
      | circle center radius => exact (lists_segmentCircle a₁ b₁ center alsoProper).distinct
      | polygon => exact transversal.elim
  | circle center radius =>
      cases second with
      | segment a b =>
          exact (lists_segmentCircle a b center proper).distinct.congr fun p => and_comm
      | circle c₂ r₂ => exact (lists_circleCircle transversal proper alsoProper).distinct
      | polygon => exact transversal.elim
  | polygon => exact transversal.elim

theorem intersect_of_transversal (transversal : Transversal first second) (tolerance : ℝ) :
    first.intersect second tolerance = meetSmooth first second tolerance := by
  cases first <;> cases second <;> first | rfl | exact transversal.elim

/-- The points where a segment meets a shape represent their common points. -/
theorem represents_meetEdges_segment (a b : Vec ℝ) (proper : second.Proper) :
    Represents (meetEdges (.segment a b) second 0) (Common (.segment a b) second) := by
  cases second with
  | segment a₂ b₂ => exact (represents_segmentSegment a b a₂ b₂).distinct
  | circle center radius =>
      have lists : Lists (meetSmooth (.segment a b) (.circle center radius) 0)
          (Common (.segment a b) (.circle center radius)) :=
        lists_meetSmooth trivial proper trivial
      exact .of_lists lists
  | polygon vertices =>
      have pieces := represents_flatMap (cyclicPairs vertices) fun edge =>
        (represents_segmentSegment a b edge.1 edge.2).distinct
      refine pieces.distinct.congr fun p => ?_
      simp only [Common, Passes]
      grind

/-- The points where a circle meets a shape represent their common points. -/
theorem represents_meetEdges_circle (center : Vec ℝ) {radius : ℝ} (proper : 0 ≤ radius)
    (alsoProper : second.Proper) (apart : ¬ Concentric (.circle center radius) second) :
    Represents (meetEdges (.circle center radius) second 0)
      (Common (.circle center radius) second) := by
  cases second with
  | segment a b =>
      have lists : Lists (meetSmooth (.circle center radius) (.segment a b) 0)
          (Common (.circle center radius) (.segment a b)) :=
        lists_meetSmooth proper trivial trivial
      exact .of_lists lists
  | circle c₂ r₂ =>
      have lists : Lists (meetSmooth (.circle center radius) (.circle c₂ r₂) 0)
          (Common (.circle center radius) (.circle c₂ r₂)) :=
        lists_meetSmooth proper alsoProper apart
      exact .of_lists lists
  | polygon vertices =>
      have pieces := represents_flatMap (cyclicPairs vertices) fun edge =>
        Represents.of_lists (lists_segmentCircle edge.1 edge.2 center proper).distinct
      refine pieces.distinct.congr fun p => ?_
      simp only [Common, Passes]
      grind

/-- The points where two shapes meet represent their common points, unless they are circles about
one center. -/
theorem represents_intersect (proper : first.Proper) (alsoProper : second.Proper)
    (apart : ¬ Concentric first second) :
    Represents (first.intersect second 0) (Common first second) := by
  cases first with
  | segment a b => exact represents_meetEdges_segment a b alsoProper
  | circle center radius => exact represents_meetEdges_circle center proper alsoProper apart
  | polygon vertices =>
      have pieces := represents_flatMap (cyclicPairs vertices) fun edge =>
        represents_meetEdges_segment edge.1 edge.2 alsoProper
      refine pieces.distinct.congr fun p => ?_
      simp only [Common, Passes]
      grind

/-- Circles about one center are taken to meet nowhere. -/
theorem intersect_of_concentric (concentric : Concentric first second) :
    first.intersect second 0 = [] := by
  cases first with
  | circle c₁ r₁ =>
      cases second with
      | circle c₂ r₂ =>
          obtain rfl : c₁ = c₂ := concentric
          have vanishes : c₁.distance c₁ ≤ 0 := Vec.distance_le_zero.2 rfl
          have empty : circleCircle c₁ r₁ c₁ r₂ 0 = [] := if_pos vanishes
          change distinct 0 (circleCircle c₁ r₁ c₁ r₂ 0) = []
          rw [empty]
          rfl
      | _ => exact concentric.elim
  | _ => exact concentric.elim

/-- Computed points lie on both shapes. -/
theorem common_of_mem_intersect (proper : first.Proper) (alsoProper : second.Proper) {p : Vec ℝ}
    (member : p ∈ first.intersect second 0) : Common first second p := by
  by_cases concentric : Concentric first second
  · rw [intersect_of_concentric concentric] at member
    cases member
  · exact (represents_intersect proper alsoProper concentric).sound p member

theorem nodup_meetEdges (first second : Shape ℝ) : (meetEdges first second 0).Nodup := by
  cases second with
  | polygon vertices => exact nodup_distinct _
  | _ => cases first <;> first | exact nodup_distinct _ | exact List.nodup_nil

theorem nodup_intersect (first second : Shape ℝ) : (first.intersect second 0).Nodup := by
  cases first with
  | polygon vertices => exact nodup_distinct _
  | _ => exact nodup_meetEdges _ second

end Shape

open Shape

/-- Where two shapes meet, in exact arithmetic: every computed point lies on both shapes, none is
computed only if the shapes have no common point or are circles about one center, and every common
point is computed once where the shapes cannot share a stretch. -/
theorem intersect_exact {first second : Shape ℝ} (proper : first.Proper)
    (alsoProper : second.Proper) :
    (∀ p ∈ first.intersect second 0,
        first.contains p 0 = true ∧ second.contains p 0 = true) ∧
      (first.intersect second 0 = [] →
        (∀ p, ¬ (first.Passes p ∧ second.Passes p)) ∨ Concentric first second) ∧
      (Transversal first second →
        ∀ p, p ∈ first.intersect second 0 ↔ first.Passes p ∧ second.Passes p) ∧
      (first.intersect second 0).Nodup := by
  refine ⟨fun p member => ?_, fun empty => ?_, fun transversal => ?_, nodup_intersect first second⟩
  · rw [contains_zero, contains_zero]
    exact common_of_mem_intersect proper alsoProper member
  · by_cases concentric : Concentric first second
    · exact .inr concentric
    · exact .inl fun p shared =>
        (represents_intersect proper alsoProper concentric).nonempty p shared empty
  · rw [intersect_of_transversal transversal]
    exact lists_meetSmooth proper alsoProper transversal

/-- Circles of radius five whose centers are eight apart meet on both sides of the middle. -/
theorem intersect_exact_circles :
    let first : Shape ℝ := .circle ⟨0, 0⟩ 5
    let second : Shape ℝ := .circle ⟨8, 0⟩ 5
    first.Proper ∧ second.Proper ∧ Transversal first second ∧
      ⟨4, 3⟩ ∈ first.intersect second 0 ∧ ⟨4, -3⟩ ∈ first.intersect second 0 := by
  intro first second
  have positive : (0 : ℝ) ≤ 5 := by norm_num
  have proper : first.Proper := positive
  have alsoProper : second.Proper := positive
  have apart : Transversal first second := by
    simp [first, second, Transversal]
  have exactly := (intersect_exact proper alsoProper).2.2.1 apart
  refine ⟨positive, positive, apart, (exactly _).2 ⟨?_, ?_⟩, (exactly _).2 ⟨?_, ?_⟩⟩ <;>
    · refine (distance_eq_iff positive).2 ?_
      norm_num [Vec.dot_eq]

end FigureMarkup.Plane
