import FigureMarkup.Proofs.Construction.Numbers
import FigureMarkup.Proofs.Plane.RandomPoints
import FigureMarkup.Proofs.Placement.Concurrence
import FigureMarkup.Proofs.Placement.Visits

/-!
# Placements that honour constraints

In exact arithmetic a visit puts a point where its constraints say: anywhere within the bound if
there are none, on the shape if there is one, and where the first two shapes meet, near all others,
if there are several. Lines and polygons stay what they are until the end of the run, so the point
stays on them.
-/

namespace FigureMarkup.Placement

open Figure Plane Shape Markup Construction

/-! ## The shapes of a figure -/

theorem nonneg_of_isRadius {value : ℝ} (radius : IsRadius value) : 0 ≤ value := by
  cases radius with
  | positive positive =>
      rw [Scalar.real_zero] at positive
      exact positive.le
  | distance center boundary same => exact same ▸ Vec.distance_nonneg

/-- Points can be drawn from every concrete shape of a figure that declarations build, wherever its
points have been put. -/
theorem drawable_of_shape? {palette : Palette} {declarations : List Declaration}
    {registry : Registry ℝ} {placed : List (PointId × Vec ℝ)}
    (went : registry = (construct palette declarations).placePoints placed) {ref : ShapeRef}
    {shape : Shape ℝ} (known : registry.shape? ref = some shape) : shape.Drawable := by
  have occurs : Occurs shape := by
    refine occurs_of_shape? (fun id circle stored => ?_) known
    rw [went, Registry.circle?_placePoints] at stored
    exact (construct_written palette declarations).circles id circle stored
  cases shape with
  | segment a b => trivial
  | circle center radius => exact nonneg_of_isRadius occurs
  | polygon vertices => exact Nat.le_of_succ_le occurs

/-! ## Rules in exact arithmetic -/

variable {σ : Type} [Random.Source σ ℝ] [Random.Ranged σ] {settings : Settings ℝ}

theorem within_of_anywhere {source later : σ} {position : Vec ℝ}
    (chosen : anywhere settings source = .ok (some (position, later))) :
    position.x ∈ Set.Icc (-|settings.bound|) |settings.bound| ∧
      position.y ∈ Set.Icc (-|settings.bound|) |settings.bound| := by
  obtain ⟨next, first, second⟩ := between?_of_anywhere chosen
  exact ⟨Random.Ranged.between?_mem first, Random.Ranged.between?_mem second⟩

theorem passes_of_on [Random.Lawful σ] {shape : Shape ℝ} (drawable : shape.Drawable)
    {source later : σ} {position : Vec ℝ}
    (chosen : on settings shape source = .ok (some (position, later))) :
    shape.Passes position :=
  randomPoint_of_on chosen ▸ passes_randomPoint drawable settings.padding source

/-! ## Visits -/

/-- A place is what the constraints of a point ask for: within the bound if there are none, on the
shape of the only one, or on the first two of several shapes and near the others. -/
inductive Honours (settings : Settings ℝ) (registry : Registry ℝ) : List ShapeRef → Vec ℝ → Prop
  | free {position : Vec ℝ} (x : position.x ∈ Set.Icc (-|settings.bound|) |settings.bound|)
      (y : position.y ∈ Set.Icc (-|settings.bound|) |settings.bound|) :
      Honours settings registry [] position
  | single {constraint : ShapeRef} {shape : Shape ℝ} {position : Vec ℝ}
      (concrete : registry.shape? constraint = some shape)
      (contained : shape.contains position 0 = true) :
      Honours settings registry [constraint] position
  | several {constraints : List ShapeRef} {first second : Shape ℝ} {rest : List (Shape ℝ)}
      {position : Vec ℝ} (concrete : registry.shapes constraints = first :: second :: rest)
      (onFirst : first.contains position 0 = true) (onSecond : second.contains position 0 = true)
      (nearOthers : ∀ shape ∈ rest, shape.contains position 1e-6 = true) :
      Honours settings registry constraints position

/-- No concrete constraint is ignored. -/
theorem Honours.near {registry : Registry ℝ} {constraints : List ShapeRef} {position : Vec ℝ}
    (honours : Honours settings registry constraints position) {constraint : ShapeRef}
    (member : constraint ∈ constraints) {shape : Shape ℝ}
    (known : registry.shape? constraint = some shape) : shape.contains position 1e-6 = true := by
  have wider : (0 : ℝ) ≤ 1e-6 := by norm_num
  cases honours with
  | free => cases member
  | single concrete contained =>
      obtain rfl := List.mem_singleton.1 member
      obtain rfl := Option.some.inj (known.symm.trans concrete)
      exact contains_mono wider contained
  | several concrete onFirst onSecond nearOthers =>
      have among : shape ∈ registry.shapes constraints :=
        List.mem_filterMap.2 ⟨constraint, member, known⟩
      rw [concrete, List.mem_cons, List.mem_cons] at among
      rcases among with rfl | rfl | among
      · exact contains_mono wider onFirst
      · exact contains_mono wider onSecond
      · exact nearOthers shape among

theorem Honours.passes_of_single {registry : Registry ℝ} {constraint : ShapeRef}
    {position : Vec ℝ} (honours : Honours settings registry [constraint] position)
    {shape : Shape ℝ} (known : registry.shape? constraint = some shape) :
    shape.Passes position := by
  cases honours with
  | single concrete contained =>
      obtain rfl := Option.some.inj (known.symm.trans concrete)
      exact contains_zero.1 contained
  | several concrete => simp [Registry.shapes, known] at concrete

theorem honours_of_byConstraints [Random.Lawful σ] (exactly : settings.tolerance = 0)
    {registry : Registry ℝ}
    (drawable : ∀ ref shape, registry.shape? ref = some shape → shape.Drawable) {id : PointId}
    {source later : σ} {position : Vec ℝ}
    (chosen : byConstraints settings registry id source = .ok (some (position, later))) :
    Honours settings registry (constraintsOf registry id) position := by
  rcases byConstraints_some chosen with ⟨empty, free⟩ | ⟨ref, shape, single, concrete, drawn⟩ |
    ⟨several, meeting⟩
  · obtain ⟨x, y⟩ := within_of_anywhere free
    rw [empty]
    exact .free x y
  · rw [single]
    exact .single concrete (contains_zero.2 (passes_of_on (drawable ref shape concrete) drawn))
  · have proper : ∀ shape ∈ registry.shapes (constraintsOf registry id), shape.Proper := by
      intro shape member
      obtain ⟨ref, -, concrete⟩ := List.mem_filterMap.1 member
      exact (drawable ref shape concrete).proper
    have found := Random.mem_of_choose (choose_of_whereAllMeet meeting)
    rw [exactly] at found
    cases shapes : registry.shapes (constraintsOf registry id) with
    | nil => simp [shapes] at several
    | cons first others =>
        cases others with
        | nil => simp [shapes] at several
        | cons second rest =>
            rw [shapes] at found proper
            obtain ⟨meets, near⟩ := mem_intersectAll.1 found
            obtain ⟨onFirst, onSecond⟩ :=
              common_of_mem_intersect (proper first (by simp)) (proper second (by simp)) meets
            exact .several shapes (contains_zero.2 onFirst) (contains_zero.2 onSecond) near

/-- A line or a polygon stays what it is while points are placed. -/
theorem shape?_of_refines {earlier later : Registry ℝ} (refines : Refines earlier later)
    {ref : ShapeRef} (straight : ref.isCircle = false) {shape : Shape ℝ}
    (known : earlier.shape? ref = some shape) : later.shape? ref = some shape := by
  refine (refines.shape?_iff known).2 ?_
  cases ref with
  | circle id => cases straight
  | line => exact not_false
  | polygon => exact not_false

/-- A point is put in a place that honours its constraints, none of which is ignored. -/
structure PutHonouring (settings : Settings ℝ) (before after : Registry ℝ) (id : PointId)
    (constraints : List ShapeRef) (position : Vec ℝ) : Prop where
  registry : after = before.placePoint id position
  place : after.position id = some position
  honours : Honours settings before constraints position
  near : ∀ constraint ∈ constraints, ∀ shape, before.shape? constraint = some shape →
    shape.contains position 1e-6 = true

theorem putHonouring_of_visit [Random.Lawful σ] (exactly : settings.tolerance = 0)
    {palette : Palette} {declarations : List Declaration} {placed : List (PointId × Vec ℝ)}
    {run later : Run σ ℝ} {id : PointId} {point : Point ℝ}
    (went : run.registry = (construct palette declarations).placePoints placed)
    (stored : run.registry.point? id = some point)
    (visited : visit settings run id = (.ok true, later)) :
    ∃ position,
      PutHonouring settings run.registry later.registry id point.constraints position := by
  obtain ⟨position, source, chosen, rfl⟩ := visit_eq_true visited
  have honours := honours_of_byConstraints exactly
    (fun ref shape known => drawable_of_shape? went known) chosen
  rw [constraintsOf_eq stored] at honours
  refine ⟨position, rfl, ?_, honours, fun constraint member shape => honours.near member⟩
  have held : run.registry.Holds (.point id) := Registry.holds_point_iff.2 ⟨point, stored⟩
  exact (Registry.position_placePoint held position id).trans (if_pos rfl)

/-- Visits honour constraints, in exact arithmetic. A visit that places no point changes nothing.
One that places a point gives it a place that honours its constraints and ignores none of those
that are concrete. In the course of a run, the point keeps this place until the end, and every line
and polygon that constrains it keeps its shape. -/
theorem visit_honours [Random.Lawful σ] (palette : Palette) (declarations : List Declaration)
    (exactly : settings.tolerance = 0) :
    (∀ (placed : List (PointId × Vec ℝ)) (run later : Run σ ℝ) (id : PointId) (point : Point ℝ),
        run.registry = (construct palette declarations).placePoints placed →
        run.registry.point? id = some point → point.isPlaced = false →
        (visit settings run id = (.ok false, later) → later.registry = run.registry) ∧
        (visit settings run id = (.ok true, later) → ∃ position,
          PutHonouring settings run.registry later.registry id point.constraints position)) ∧
      ∀ (source : σ) (now later : Run σ ℝ) (id : PointId),
        let start : Progress σ ℝ := ⟨construct palette declarations, source⟩
        let final := (resolve settings start).2.registry
        Visits settings start now id → ∃ placed point,
          now.registry = (construct palette declarations).placePoints placed ∧
          now.registry.point? id = some point ∧ point.isPlaced = false ∧
          (visit settings now id = (.ok true, later) → ∃ position,
            PutHonouring settings now.registry later.registry id point.constraints position ∧
            final.position id = some position ∧
            ∀ constraint ∈ point.constraints, constraint.isCircle = false → ∀ shape,
              now.registry.shape? constraint = some shape →
              final.shape? constraint = some shape) := by
  constructor
  · intro placed run later id point went stored _
    refine ⟨fun visited => ?_, putHonouring_of_visit exactly went stored⟩
    rw [visit_eq_false visited]
  · intro source now later id start final visits
    obtain ⟨waiting, ⟨placed, -, -, went, -⟩, -⟩ := visits.amid
    obtain ⟨point, stored, unplaced⟩ := (Option.any_eq_true _ _).1 waiting
    refine ⟨placed, point, went, stored, by simpa using unplaced, fun visited => ?_⟩
    obtain ⟨position, put⟩ := putHonouring_of_visit exactly went stored visited
    obtain ⟨whole, onward⟩ := visits.frames
    rw [visited] at onward
    exact ⟨position, put, onward.position put.place, fun constraint _ straight shape known =>
      shape?_of_refines whole.refines straight known⟩

/-- A point on the line through two points with places. -/
def onLine : List Declaration :=
  [⟨"loc", some "A", 1, ⟨0, 9⟩, [], ["0", "0"]⟩, ⟨"loc", some "B", 1, ⟨11, 20⟩, [], ["4", "0"]⟩,
    ⟨"line", some "AB", 1, ⟨22, 31⟩, [], []⟩,
    ⟨"point", some "P", 1, ⟨33, 57⟩, [("lieson", "line AB")], []⟩]

/-- The point is visited after the two others, and lies on the line at the end. -/
theorem visit_honours_line :
    let settings : Settings ℝ := ⟨1, 0, 0.2⟩
    let start : Progress Random.ExactKeystream ℝ := ⟨construct .standard onLine, ⟨.ofSeed 1⟩⟩
    let final := (resolve settings start).2.registry
    settings.tolerance = 0 ∧ ∃ shape position, final.shape? (.line ⟨0⟩) = some shape ∧
      final.position ⟨2⟩ = some position ∧ shape.Passes position := by
  intro settings start final
  have left : start.registry.pointIds.filter start.registry.waits = [⟨2⟩] := by decide +kernel
  have only : constraintsOf start.registry ⟨2⟩ = [.line ⟨0⟩] := by decide +kernel
  have joined : (start.registry.shape? (.line ⟨0⟩)).isSome = true := by decide +kernel
  obtain ⟨shape, joined⟩ := Option.isSome_iff_exists.1 joined
  rcases scattered : scatter settings (.start start) start.registry.pointIds with ⟨_ | ids, run⟩
  · refine absurd (scatter_error (congrArg Prod.fst scattered)) (not_failsAnywhere ?_ _)
    norm_num [settings]
  · obtain ⟨-, started⟩ := scatter_left settings (nodup_pointIds _) scattered
    obtain rfl : ids = [⟨2⟩] := started.trans left
    have visits : Visits settings start run.beginRound ⟨2⟩ :=
      ⟨_, run, scattered, .now (.now _ _ _)⟩
    have here := shape?_of_refines visits.amid.before.frame.refines rfl joined
    have same : constraintsOf run.beginRound.registry ⟨2⟩ = [.line ⟨0⟩] := by
      obtain ⟨placed, -, -, went, -⟩ := visits.amid.before
      rw [went, constraintsOf_placePoints]
      exact only
    obtain ⟨later, visited⟩ : ∃ later, visit settings run.beginRound ⟨2⟩ = (.ok true, later) :=
      visit_of_single same here
    have honoured := visit_honours (σ := Random.ExactKeystream) .standard onLine
      (show settings.tolerance = 0 from rfl)
    obtain ⟨placed, point, went, stored, -, honours⟩ :=
      honoured.2 start.source run.beginRound later ⟨2⟩ visits
    obtain ⟨position, put, stays, keeps⟩ := honours visited
    have single : point.constraints = [.line ⟨0⟩] := (constraintsOf_eq stored).symm.trans same
    have near := put.honours
    rw [single] at near keeps
    refine ⟨rfl, shape, position, keeps _ (List.mem_singleton_self _) rfl shape here, stays, ?_⟩
    exact near.passes_of_single here

end FigureMarkup.Placement
