import FigureMarkup.Proofs.Placement.Frame
import FigureMarkup.Proofs.Random.Lawful
import Mathlib.Data.List.Nodup

/-!
# What resolving a figure guarantees

A figure that declarations build is either placed as a whole, and then all its angles are measured,
or the names of exactly those points are reported that are left without a place. With a lawful
source and a bound of ordinary size there is no third way to end.
-/

namespace FigureMarkup.Placement

open Figure Plane Markup Construction

variable {σ α : Type}

/-! ## Placing keeps registries well formed -/

theorem Extends.wellFormed {ids : List PointId} {before after : Run σ α}
    (one : Extends ids before after) (formed : WellFormed before.registry) :
    WellFormed after.registry :=
  one.frame.wellFormed formed

/-! ## The points of a registry in order -/

theorem map_filter_range {β γ : Type} (members : List β) (p : β → Bool) (f : β → γ) (d : γ) :
    ((List.range members.length).filter fun i => (members[i]?).any p).map
        (fun i => ((members[i]?).map f).getD d) =
      (members.filter p).map f := by
  induction members with
  | nil => rfl
  | cons first rest ih =>
      rw [List.length_cons, List.range_succ_eq_map, List.filter_cons, List.filter_map,
        List.filter_cons]
      have later : (List.filter ((fun i => ((first :: rest)[i]?).any p) ∘ Nat.succ)
          (List.range rest.length)).map
            ((fun i => (((first :: rest)[i]?).map f).getD d) ∘ Nat.succ) =
          (rest.filter p).map f := ih
      by_cases kept : p first = true
      · simp [kept, ← later, Function.comp_def]
      · simp [kept, ← later, Function.comp_def]

/-- The names of some points of a registry, chosen by what they are, are those of its entities. -/
theorem namesOf_filter (registry : Registry α) (p : Point α → Bool) :
    namesOf registry (registry.pointIds.filter fun id => (registry.point? id).any p) =
      (registry.points.toList.filter p).map Point.name := by
  have all := map_filter_range registry.points.toList p Point.name ""
  rw [namesOf, Registry.pointIds, List.filter_map, List.map_map]
  simpa [Function.comp_def, Registry.name, Registry.point?] using all

theorem length_fixedIds (registry : Registry α) :
    (fixedIds registry).length =
      registry.points.countP fun point => !point.isPlaced && !point.random := by
  calc
    (fixedIds registry).length = (namesOf registry (fixedIds registry)).length := by
      simp [namesOf]
    _ = ((registry.points.toList.filter fun point =>
          !point.isPlaced && !point.random).map Point.name).length :=
      congrArg List.length (namesOf_filter registry _)
    _ = registry.points.countP fun point => !point.isPlaced && !point.random := by
      rw [List.length_map, ← List.countP_eq_length_filter, Array.countP_toList]

/-- Different points have different names. -/
theorem eq_of_name_eq {registry : Registry α} (indexed : Indexed registry)
    {first second : PointId} {one two : Point α} (stored : registry.point? first = some one)
    (alsoStored : registry.point? second = some two) (same : one.name = two.name) :
    first = second := by
  have named : registry.name (.point first) = some one.name := by simp [Registry.name, stored]
  have alsoNamed : registry.name (.point second) = some two.name := by
    simp [Registry.name, alsoStored]
  have found : registry.index? .point one.name = some first.index := indexed.found named
  have alsoFound : registry.index? .point two.name = some second.index := indexed.found alsoNamed
  rw [same, alsoFound, Option.some.injEq] at found
  cases first
  cases second
  exact congrArg PointId.mk found.symm

theorem nodup_namesOf {registry : Registry α} (indexed : Indexed registry) {ids : List PointId}
    (distinct : ids.Nodup) (held : ∀ id ∈ ids, registry.Holds (.point id)) :
    (namesOf registry ids).Nodup := by
  refine distinct.map_on fun first known second alsoKnown same => ?_
  obtain ⟨one, stored⟩ := Registry.holds_point_iff.1 (held first known)
  obtain ⟨two, alsoStored⟩ := Registry.holds_point_iff.1 (held second alsoKnown)
  refine eq_of_name_eq indexed stored alsoStored ?_
  simpa [Registry.name, stored, alsoStored] using same

/-- A point whose name is among those of some points is one of them. -/
theorem mem_of_name_mem {registry : Registry α} (indexed : Indexed registry) {ids : List PointId}
    (held : ∀ id ∈ ids, registry.Holds (.point id)) {id : PointId} {point : Point α}
    (stored : registry.point? id = some point) (named : point.name ∈ namesOf registry ids) :
    id ∈ ids := by
  obtain ⟨other, member, same⟩ := List.mem_map.1 named
  obtain ⟨found, alsoStored⟩ := Registry.holds_point_iff.1 (held other member)
  have equal : other = id :=
    eq_of_name_eq indexed alsoStored stored (by simpa [Registry.name, alsoStored] using same)
  exact equal ▸ member

/-! ## Angles -/

/-- No angle of a registry is measured. -/
def Unmeasured (registry : Registry α) : Prop :=
  ∀ id angle, registry.angle? id = some angle → angle.measured = none

/-- Declarations measure no angles. -/
theorem construct_sound [Scalar α] (palette : Palette) (declarations : List Declaration) :
    WellFormed (construct palette declarations : Registry α) ∧
      Unmeasured (construct palette declarations : Registry α) := by
  refine construct_induction ?_ declarations fun declaration _ before after _ change kept => ?_
  · intro id angle stored
    simp [Registry.angle?, Registry.empty] at stored
  · intro id angle stored
    rcases change.angle_cases stored with
      ⟨old, stored, same⟩ | ⟨_, _, _, _, _, _, _, _, _, _, unmeasured⟩
    · exact same.measured.trans (kept id old stored)
    · exact unmeasured

variable [Scalar α]

theorem measureAt_degrees {angle : Angle α} (unmeasured : angle.measured = none)
    (a vertex c : Vec α) : (angle.measureAt a vertex c).degrees.isSome = true := by
  have fresh : angle.isMeasuredAt a vertex c = false := by
    simp [Angle.isMeasuredAt, unmeasured]
  rw [Angle.measureAt, if_neg (by simp [fresh])]
  dsimp only
  split <;> rfl

/-- Once its points are placed, an angle is measured. -/
theorem measure?_degrees {registry : Registry α} {angle : Angle α}
    (sound : AngleSound registry angle) (unmeasured : angle.measured = none)
    (placed : ∀ id, registry.Holds (.point id) → registry.position id ≠ none) :
    ((registry.measure? angle).getD angle).degrees.isSome = true := by
  obtain ⟨p1, vertex, p3, first, middle, last, -, held⟩ := sound
  have known (id : PointId) (member : id ∈ [p1, vertex, p3]) :
      ∃ position, registry.position id = some position :=
    Option.ne_none_iff_exists'.1 (placed id (held id member))
  obtain ⟨a, atFirst⟩ := known p1 (by simp)
  obtain ⟨v, atMiddle⟩ := known vertex (by simp)
  obtain ⟨c, atLast⟩ := known p3 (by simp)
  have measured : registry.measure? angle = some (angle.measureAt a v c) := by
    simp [Registry.measure?, first, middle, last, atFirst, atMiddle, atLast]
  rw [measured]
  exact measureAt_degrees unmeasured a v c

omit [Scalar α] in
theorem angle?_measureAngles [Scalar α] (registry : Registry α) (id : AngleId) :
    (measureAngles registry).angle? id =
      (registry.angle? id).map fun angle => (registry.measure? angle).getD angle := by
  simp [measureAngles, Registry.angle?]

/-! ## Ends of a resolution -/

variable [Random.Source σ α] {settings : Settings α} {progress : Progress σ α}

theorem resolve_of_ok (done : (placeAll settings progress).1 = .ok ()) :
    resolve settings progress = (.ok (), { (placeAll settings progress).2 with
      registry := measureAngles (placeAll settings progress).2.registry }) := by
  rcases placed : placeAll settings progress with ⟨error | _, run⟩
  · simp [placed] at done
  · simp only [resolve, placed]

theorem resolve_of_error {error : PlacementError}
    (failed : (placeAll settings progress).1 = .error error) :
    resolve settings progress = (.error error, (placeAll settings progress).2.toProgress) := by
  rcases placed : placeAll settings progress with ⟨fault | _, run⟩
  · obtain rfl : fault = error := by simpa [placed] using failed
    simp only [resolve, placed]
  · simp [placed] at failed

theorem placeAll_of_resolve_ok (done : (resolve settings progress).1 = .ok ()) :
    (placeAll settings progress).1 = .ok () := by
  cases placed : (placeAll settings progress).1 with
  | ok => rfl
  | error error =>
      rw [resolve_of_error placed] at done
      cases done

theorem placeAll_of_resolve_error {error : PlacementError}
    (failed : (resolve settings progress).1 = .error error) :
    (placeAll settings progress).1 = .error error := by
  cases placed : (placeAll settings progress).1 with
  | ok =>
      rw [resolve_of_ok placed] at failed
      cases failed
  | error other =>
      rw [resolve_of_error placed] at failed
      exact failed

theorem position_ne_none_of_ok (done : (placeAll settings progress).1 = .ok ()) {id : PointId}
    (held : (placeAll settings progress).2.registry.Holds (.point id)) :
    (placeAll settings progress).2.registry.position id ≠ none := by
  have ends := placeAll_ends settings progress
  intro unplaced
  have member : id ∈ progress.registry.pointIds :=
    mem_pointIds.2 (ends.extends_run.holds_iff.1 held)
  have waiting := Registry.awaits_iff.2 ⟨held, unplaced⟩
  have left := List.mem_filter.2 ⟨member, waiting⟩
  rw [ends.done done] at left
  exact List.not_mem_nil left

/-- The points that are left at the end, in order. -/
abbrev leftIds (settings : Settings α) (progress : Progress σ α) : List PointId :=
  (placeAll settings progress).2.registry.pointIds.filter
    (placeAll settings progress).2.registry.awaits

theorem holds_of_mem_left {id : PointId} (member : id ∈ leftIds settings progress) :
    (placeAll settings progress).2.registry.Holds (.point id) :=
  mem_pointIds.1 (List.mem_filter.1 member).1

/-- An underconstrained figure has points for which all rules are exhausted, and their names are
the ones that are reported. -/
theorem stuck_of_underconstrained {names : List String}
    (failed : (placeAll settings progress).1 = .error (.underconstrained names)) :
    names = namesOf (placeAll settings progress).2.registry (leftIds settings progress) ∧
      Stuck settings (placeAll settings progress).2 (leftIds settings progress) := by
  have ends := placeAll_ends settings progress
  have same : progress.registry.pointIds = (placeAll settings progress).2.registry.pointIds := by
    obtain ⟨placed, -, -, went, -⟩ := ends.extends_run
    rw [went, Registry.pointIds, Registry.pointIds, Registry.size_points_placePoints]
    rfl
  rcases ends.failed _ failed with fails | ⟨named, stuck⟩
  · cases fails.eq
  · rw [same] at named stuck
    cases named
    exact ⟨rfl, stuck⟩

/-- With a lawful source a point can be put anywhere within a bound of ordinary size. -/
theorem not_failsAnywhere [Random.Lawful σ] (bounded : Scalar.abs settings.bound ≤ 1e300)
    (error : PlacementError) : ¬ FailsAnywhere σ settings error := by
  rintro ⟨source, failed⟩
  have drawn (source : σ) := Random.Lawful.between?_isSome settings.bound source bounded
  obtain ⟨⟨x, next⟩, first⟩ := Option.isSome_iff_exists.1 (drawn source)
  obtain ⟨⟨y, later⟩, second⟩ := Option.isSome_iff_exists.1 (drawn next)
  simp [anywhere, first, second] at failed

/-- Resolving a figure that declarations build takes at most one round for each point that has no
place and may not lie anywhere. It places all points and measures all angles, or it reports exactly
the points that it leaves without a place. -/
theorem resolve_outcome [Random.Lawful σ] (palette : Palette) (declarations : List Declaration)
    (settings : Settings α) (source : σ) (bounded : Scalar.abs settings.bound ≤ 1e300) :
    let start : Progress σ α := ⟨construct palette declarations, source⟩
    let result := resolve settings start
    (placeAll settings start).2.rounds ≤
        (start.registry.points.countP fun point => !point.isPlaced && !point.random) ∧
      (result.1 = .ok () →
        (∀ id point, result.2.registry.point? id = some point → point.isPlaced = true) ∧
        ∀ id angle, result.2.registry.angle? id = some angle → angle.degrees.isSome = true) ∧
      (∀ names, result.1 = .error (.underconstrained names) →
        names ≠ [] ∧ names.Nodup ∧
        names = (result.2.registry.points.toList.filter fun point => !point.isPlaced).map
          Point.name) ∧
      result.1 ≠ .error .unboundedSquare := by
  intro start result
  obtain ⟨formed, unmeasured⟩ := construct_sound (α := α) palette declarations
  have ends := placeAll_ends settings start
  have soundly : WellFormed (placeAll settings start).2.registry :=
    ends.extends_run.wellFormed formed
  refine ⟨?_, fun done => ?_, fun names failed => ?_, fun failed => ?_⟩
  · have bounded := ends.rounds
    rw [length_fixedIds] at bounded
    simpa [Run.start] using bounded
  · have placed := placeAll_of_resolve_ok done
    have known {id : PointId}
        (held : (placeAll settings start).2.registry.Holds (.point id)) :
        (placeAll settings start).2.registry.position id ≠ none :=
      position_ne_none_of_ok placed held
    have final : result.2.registry = measureAngles (placeAll settings start).2.registry := by
      simp only [result, resolve_of_ok placed]
    rw [final]
    refine ⟨fun id point stored => ?_, fun id angle stored => ?_⟩
    · have stored : (placeAll settings start).2.registry.point? id = some point := stored
      have place := known (Registry.holds_point_iff.2 ⟨point, stored⟩)
      rw [Registry.position, stored, Option.bind_some, ← Option.isSome_iff_ne_none] at place
      exact place
    · rw [angle?_measureAngles, Option.map_eq_some_iff] at stored
      obtain ⟨old, stored, rfl⟩ := stored
      refine measure?_degrees (soundly.angles id old stored) (unmeasured id old ?_) fun _ => known
      obtain ⟨placed, -, -, went, -⟩ := ends.extends_run
      rwa [went, Registry.angle?_placePoints] at stored
  · have left := placeAll_of_resolve_error failed
    obtain ⟨named, stuck⟩ := stuck_of_underconstrained left
    have final : result.2.registry = (placeAll settings start).2.registry := by
      simp only [result, resolve_of_error left]
    refine ⟨?_, ?_, ?_⟩
    · rw [named, namesOf, Ne, List.map_eq_nil_iff]
      exact stuck.nonempty
    · rw [named]
      exact nodup_namesOf soundly.indexed ((nodup_pointIds _).filter _) fun id => holds_of_mem_left
    · rw [named, final]
      exact namesOf_filter _ _
  · rcases ends.failed _ (placeAll_of_resolve_error failed) with fails | ⟨named, -⟩
    · exact not_failsAnywhere bounded _ fails
    · cases named

/-- The points of a line are placed, with the source that a seed fixes. -/
theorem resolve_outcome_line :
    let line : Declaration := ⟨"line", some "AB", 1, ⟨0, 9⟩, [], []⟩
    let settings : Settings Float := .standard
    let start : Progress Random.Keystream Float := ⟨construct .standard [line], .ofSeed 1⟩
    Scalar.abs settings.bound ≤ 1e300 ∧ (placeAll settings start).2.rounds ≤ 2 ∧
      (resolve settings start).1 = .ok () ∧
      ∀ id point, (resolve settings start).2.registry.point? id = some point →
        point.isPlaced = true := by
  intro line settings start
  have small : Scalar.abs settings.bound ≤ 1e300 := by decide +kernel
  have done : (resolve settings start).1 = .ok () := by decide +kernel
  have two : (start.registry.points.countP fun point => !point.isPlaced && !point.random) = 2 := by
    decide +kernel
  have outcome := resolve_outcome .standard [line] settings (Random.Keystream.ofSeed 1) small
  exact ⟨small, two ▸ outcome.1, done, (outcome.2.1 done).1⟩

end FigureMarkup.Placement
