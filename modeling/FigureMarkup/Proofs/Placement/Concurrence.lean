import FigureMarkup.Proofs.Plane.Meeting
import FigureMarkup.Proofs.Placement.Underconstrained
import FigureMarkup.Proofs.Random.Exact

/-!
# Where several shapes meet

The common points of several shapes are looked for among those of the first two. In exact
arithmetic one is found, in whatever order the shapes stand, if there is any and no two shapes
share a stretch. Of a shared stretch only the middle is looked at, which the other shapes may miss.
-/

namespace FigureMarkup.Plane

/-! ## Wider tolerances -/

theorem onSegment_mono {p a b : Vec ℝ} {narrow wide : ℝ} (wider : narrow ≤ wide)
    (on : onSegment p a b narrow = true) : onSegment p a b wide = true := by
  rw [onSegment, decide_eq_true_eq] at on ⊢
  exact on.trans wider

namespace Shape

theorem contains_mono {shape : Shape ℝ} {p : Vec ℝ} {narrow wide : ℝ} (wider : narrow ≤ wide)
    (contained : shape.contains p narrow = true) : shape.contains p wide = true := by
  cases shape with
  | segment a b => exact onSegment_mono wider contained
  | circle center radius =>
      rw [contains, onCircle, decide_eq_true_eq] at contained ⊢
      exact contained.trans wider
  | polygon vertices =>
      rw [contains, List.any_eq_true] at contained ⊢
      obtain ⟨edge, member, on⟩ := contained
      exact ⟨edge, member, onSegment_mono wider on⟩

/-! ## Several shapes -/

/-- The tolerance up to which further shapes have to contain a common point. -/
theorem slack_eq : Scalar.max 0 (defaultTolerance : ℝ) * 1e3 = 1e-6 := by
  rw [Scalar.real_max, defaultTolerance]
  norm_num

theorem Concentric.symm {first second : Shape ℝ} (concentric : Concentric first second) :
    Concentric second first := by
  cases first <;> cases second <;> first | exact concentric.elim | exact Eq.symm concentric

/-- Two shapes share no stretch. -/
def Thin (first second : Shape ℝ) : Prop := {p | Common first second p}.Finite

theorem Thin.symm {first second : Shape ℝ} (thin : Thin first second) : Thin second first :=
  thin.subset fun _ shared => shared.symm

end Shape

open Shape

/-- A common point of all shapes is found if it is found where the first two of them meet. -/
theorem mem_intersectAll {first second : Shape ℝ} {rest : List (Shape ℝ)} {p : Vec ℝ} :
    p ∈ intersectAll (first :: second :: rest) 0 ↔
      p ∈ first.intersect second 0 ∧ ∀ shape ∈ rest, shape.contains p 1e-6 = true := by
  rw [intersectAll]
  simp only [List.mem_filter, List.all_eq_true, slack_eq]

/-- If shapes go through one point, then a common point is found in each order in which the first
two shapes share no stretch or nothing follows them. -/
theorem intersectAll_of_common {first second : Shape ℝ} {rest : List (Shape ℝ)}
    (proper : first.Proper) (alsoProper : second.Proper) (apart : ¬ Concentric first second)
    (thin : rest = [] ∨ Thin first second) {p : Vec ℝ}
    (through : ∀ shape ∈ first :: second :: rest, shape.Passes p) :
    intersectAll (first :: second :: rest) 0 ≠ [] := by
  have represents : Represents (first.intersect second 0) (Common first second) :=
    represents_intersect proper alsoProper apart
  have shared : Common first second p := ⟨through first (by simp), through second (by simp)⟩
  rcases thin with rfl | finite
  · obtain ⟨q, member⟩ := List.exists_mem_of_ne_nil _ (represents.nonempty p shared)
    exact List.ne_nil_of_mem (mem_intersectAll.2 ⟨member, by simp⟩)
  · refine List.ne_nil_of_mem (mem_intersectAll.2 ⟨represents.complete finite p shared, ?_⟩)
    intro shape member
    exact contains_mono (by norm_num) (contains_zero.2 (through shape (by simp [member])))

/-- Of the stretch that two segments share only the middle is looked at. A third segment may miss
it and go through another point of the stretch, which is found in another order. -/
theorem intersectAll_overlap :
    let long : Shape ℝ := .segment ⟨0, 0⟩ ⟨4, 0⟩
    let short : Shape ℝ := .segment ⟨1, 0⟩ ⟨3, 0⟩
    let across : Shape ℝ := .segment ⟨1, -1⟩ ⟨1, 1⟩
    let shapes := [long, short, across]
    (∀ shape ∈ shapes, shape.Proper) ∧
      shapes.Pairwise (fun first second => ¬ Concentric first second) ∧
      (∀ shape ∈ shapes, shape.Passes ⟨1, 0⟩) ∧
      intersectAll shapes 0 = [] ∧ intersectAll [long, across, short] 0 ≠ [] := by
  intro long short across shapes
  have through : ∀ shape ∈ shapes, shape.Passes ⟨1, 0⟩ := by
    simp only [shapes, long, short, across, List.forall_mem_cons, Passes, OnEdge, Vec.ext_iff,
      Vec.lerp_x, Vec.lerp_y]
    exact ⟨⟨1 / 4, by norm_num⟩, ⟨0, by norm_num⟩, ⟨1 / 2, by norm_num⟩, by simp⟩
  have middle : segmentSegment (⟨0, 0⟩ : Vec ℝ) ⟨4, 0⟩ ⟨1, 0⟩ ⟨3, 0⟩ 0 = [⟨2, 0⟩] := by
    norm_num [segmentSegment, parallelSegments, Vec.dot_eq, Vec.cross_eq, Vec.lerp_eq, Vec.ext_iff]
  have missed : across.contains ⟨2, 0⟩ 1e-6 = false := by
    norm_num [across, contains, onSegment, distanceToSegment, Vec.dot_eq, Vec.distance_eq,
      Scalar.clamp]
  have crossing : Thin long across := by
    refine (Set.finite_singleton (⟨1, 0⟩ : Vec ℝ)).subset ?_
    rintro p ⟨⟨t, -, -, rfl⟩, u, -, -, same⟩
    rw [Vec.ext_iff] at same
    simp only [Vec.lerp_x, Vec.lerp_y] at same
    exact Vec.ext (by simp; linarith) (by simp)
  refine ⟨by simp [shapes, long, short, across, Proper],
    by simp [shapes, long, short, across, Concentric], through, ?_, ?_⟩
  · refine List.eq_nil_iff_forall_not_mem.2 fun p found => ?_
    obtain ⟨member, kept⟩ := mem_intersectAll.1 found
    replace member := mem_distinct.1 (show p ∈ distinct 0 _ from member)
    rw [middle, List.mem_singleton] at member
    have hit := kept across List.mem_cons_self
    rw [member, missed] at hit
    cases hit
  · exact intersectAll_of_common trivial trivial (by simp [long, Concentric])
      (.inr crossing) fun shape member => through shape (by grind)

end FigureMarkup.Plane

namespace FigureMarkup.Placement

open Figure Plane Shape

section Rules

variable {σ α : Type} [Scalar α] [Random.Source σ α]

/-- A point of several shapes is put where these meet. -/
theorem byConstraints_of_several (settings : Settings α) (registry : Registry α) (id : PointId)
    (source : σ) (several : 2 ≤ (registry.shapes (constraintsOf registry id)).length) :
    byConstraints settings registry id source =
      whereAllMeet settings (registry.shapes (constraintsOf registry id)) source := by
  have enough : 2 ≤ (constraintsOf registry id).length :=
    several.trans (List.length_filterMap_le ..)
  unfold byConstraints
  match constraints : constraintsOf registry id with
  | [] | [_] => simp [constraints] at enough
  | _ :: _ :: _ => exact if_neg (constraints ▸ Nat.not_lt.2 several)

theorem whereAllMeet_of_ne_nil [Random.Lawful σ] {settings : Settings α}
    {shapes : List (Shape α)} (meet : intersectAll shapes settings.tolerance ≠ [])
    (source : σ) :
    ∃ position later, whereAllMeet settings shapes source = .ok (some (position, later)) := by
  unfold whereAllMeet
  rcases chosen : Random.choose (intersectAll shapes settings.tolerance) source with
    ⟨_ | position, later⟩
  · exact absurd (Random.choose_eq_none_iff.1 (congrArg Prod.fst chosen)) meet
  · exact ⟨position, later, rfl⟩

end Rules

/-- Whatever the order in which several shapes through one point constrain a point, the point can
be placed, unless two of them share a stretch or are circles about one center. -/
theorem placed_of_common {σ : Type} [Random.Source σ ℝ] [Random.Lawful σ]
    {shapes : List (Shape ℝ)} (several : 2 ≤ shapes.length)
    (proper : ∀ shape ∈ shapes, shape.Proper)
    (apart : shapes.Pairwise fun first second => ¬ Concentric first second) {p : Vec ℝ}
    (through : ∀ shape ∈ shapes, shape.Passes p) :
    (∀ first second rest, (first :: second :: rest).Perm shapes →
        rest = [] ∨ Thin first second → intersectAll (first :: second :: rest) 0 ≠ []) ∧
      (shapes.length = 2 ∨ shapes.Pairwise Thin →
        (∀ order : List (Shape ℝ), order.Perm shapes → intersectAll order 0 ≠ []) ∧
          ∀ (settings : Settings ℝ) (registry : Registry ℝ) (id : PointId) (source : σ),
            settings.tolerance = 0 →
            (registry.shapes (constraintsOf registry id)).Perm shapes →
            ∃ position later,
              byConstraints settings registry id source = .ok (some (position, later))) := by
  have led (first second : Shape ℝ) (rest : List (Shape ℝ))
      (perm : (first :: second :: rest).Perm shapes) (thin : rest = [] ∨ Thin first second) :
      intersectAll (first :: second :: rest) 0 ≠ [] := by
    have among (shape : Shape ℝ) (member : shape ∈ first :: second :: rest) : shape ∈ shapes :=
      perm.mem_iff.1 member
    have alsoApart := apart.perm perm.symm fun differ same => differ same.symm
    exact intersectAll_of_common (proper first (among first (by simp)))
      (proper second (among second (by simp))) (List.rel_of_pairwise_cons alsoApart (by simp))
      thin fun shape member => through shape (among shape member)
  refine ⟨led, fun thin => ?_⟩
  have found (order : List (Shape ℝ)) (perm : order.Perm shapes) : intersectAll order 0 ≠ [] := by
    match order, perm.length_eq with
    | [], length | [_], length =>
        simp only [List.length_nil, List.length_singleton] at length
        omega
    | first :: second :: rest, length =>
        refine led first second rest perm ?_
        rcases thin with two | finite
        · exact .inl (List.length_eq_zero_iff.1 (by simpa [two] using length))
        · have alsoThin := finite.perm perm.symm fun thin => thin.symm
          exact .inr (List.rel_of_pairwise_cons alsoThin (by simp))
  refine ⟨found, fun settings registry id source exactly perm => ?_⟩
  rw [byConstraints_of_several settings registry id source (perm.length_eq ▸ several)]
  exact whereAllMeet_of_ne_nil (exactly ▸ found _ perm) source

/-- A point on three lines that cross. -/
noncomputable def crossing : Registry ℝ :=
  let palette := Palette.standard
  let point (name : String) (x y : ℝ) : Point ℝ := (Point.new name palette.point).place ⟨x, y⟩
  let line (name : String) (a b : Nat) : Line :=
    { Line.new name palette.point with p1 := some ⟨a⟩, p2 := some ⟨b⟩ }
  { Registry.empty palette with
    points := #[point "A" (-1) 0, point "B" 1 0, point "C" 0 (-1), point "D" 0 1,
      point "E" (-1) (-1), point "F" 1 1, { Point.new "P" palette.point with
        constraints := [.line ⟨1⟩, .line ⟨0⟩, .line ⟨2⟩] }]
    lines := #[line "AB" 0 1, line "CD" 2 3, line "EF" 4 5] }

/-- No two of the lines share a stretch. So they are found to meet in every order, and the point
can be placed. -/
theorem placed_of_common_crossing :
    let shapes : List (Shape ℝ) :=
      [.segment ⟨-1, 0⟩ ⟨1, 0⟩, .segment ⟨0, -1⟩ ⟨0, 1⟩, .segment ⟨-1, -1⟩ ⟨1, 1⟩]
    (∀ shape ∈ shapes, shape.Passes ⟨0, 0⟩) ∧ shapes.Pairwise Thin ∧
      (∀ order : List (Shape ℝ), order.Perm shapes → intersectAll order 0 ≠ []) ∧
      (crossing.shapes (constraintsOf crossing ⟨6⟩)).Perm shapes ∧
      ∃ position later, byConstraints ⟨1, 0, 0.2⟩ crossing ⟨6⟩
        (⟨.ofSeed 1⟩ : Random.ExactKeystream) = .ok (some (position, later)) := by
  intro shapes
  have through : ∀ shape ∈ shapes, shape.Passes ⟨0, 0⟩ := by
    simp only [shapes, List.forall_mem_cons, Passes, OnEdge, Vec.ext_iff, Vec.lerp_x, Vec.lerp_y]
    exact ⟨⟨1 / 2, by norm_num⟩, ⟨1 / 2, by norm_num⟩, ⟨1 / 2, by norm_num⟩, by simp⟩
  have perm : (crossing.shapes (constraintsOf crossing ⟨6⟩)).Perm shapes := .swap _ _ [_]
  have several : 2 ≤ shapes.length := by simp [shapes]
  have proper : ∀ shape ∈ shapes, shape.Proper := by simp [shapes, Proper]
  have apart : shapes.Pairwise fun first second => ¬ Concentric first second := by
    simp [shapes, Concentric]
  have alone {first second : Shape ℝ}
      (meet : ∀ p, Common first second p → p = ⟨0, 0⟩) : Thin first second :=
    (Set.finite_singleton (⟨0, 0⟩ : Vec ℝ)).subset meet
  have thin : shapes.Pairwise Thin := by
    simp only [shapes, List.pairwise_cons, List.forall_mem_cons, List.not_mem_nil, false_implies,
      implies_true, List.Pairwise.nil, and_true]
    refine ⟨⟨alone ?_, alone ?_⟩, alone ?_⟩
    all_goals
      rintro p ⟨⟨t, -, -, rfl⟩, u, -, -, same⟩
      rw [Vec.ext_iff] at same ⊢
      simp only [Vec.lerp_x, Vec.lerp_y] at same ⊢
      constructor <;> linarith
  obtain ⟨meet, placed⟩ :=
    (placed_of_common (σ := Random.ExactKeystream) several proper apart through).2 (.inr thin)
  exact ⟨through, thin, meet, perm, placed ⟨1, 0, 0.2⟩ crossing ⟨6⟩ ⟨.ofSeed 1⟩ rfl perm⟩

end FigureMarkup.Placement
