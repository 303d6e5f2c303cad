import FigureMarkup.Proofs.Figure.Angles
import FigureMarkup.Proofs.Placement.Resolution

/-!
# Resolving a figure again

Once a figure is resolved, all its points have places, so a second run has nothing to place and
draws nothing. It measures the angles again, and each of them recognizes the places that it was
measured from, in the order into which measuring has brought its arms. Only what is no number
differs from itself; without it a resolved figure stays as it is.
-/

namespace FigureMarkup.Figure

open Plane

variable {α : Type} [Scalar α]

/-! ## Angles that are measured already -/

theorem Angle.measureAt_of_stale {angle : Angle α} {a vertex c : Vec α}
    (stale : angle.isMeasuredAt a vertex c = false) :
    angle.measureAt a vertex c = angle.orient (signedAngle a vertex c) a vertex c := by
  rw [measureAt, if_neg (by simp [stale])]
  cases big : angle.big <;> by_cases negative : signedAngle a vertex c < 0.0 <;>
    simp [orient, exchanges, swept, exchange, record, big, negative]

/-- Measuring leaves an angle whose points stand at the places that it was measured from. -/
theorem Angle.Stands.measureAt {registry : Registry α} {angle : Angle α} {a vertex c : Vec α}
    (stands : angle.Stands registry a vertex c)
    (same : (a == a) = true ∧ (vertex == vertex) = true ∧ (c == c) = true) :
    ∃ start stop, (angle.measureAt a vertex c).Stands registry start vertex stop ∧
      (angle.measureAt a vertex c).isMeasuredAt start vertex stop = true := by
  cases fresh : angle.isMeasuredAt a vertex c with
  | true =>
      rw [Angle.measureAt, if_pos fresh]
      exact ⟨a, c, stands, fresh⟩
  | false =>
      rw [measureAt_of_stale fresh]
      refine ⟨_, _, stands.orient (signedAngle a vertex c), ?_⟩
      rw [isMeasuredAt, orient_measured]
      cases exchanges angle.big (signedAngle a vertex c) <;> simp [same]

namespace Registry

theorem measure?_eq_some_iff {registry : Registry α} {angle measured : Angle α} :
    registry.measure? angle = some measured ↔
      ∃ a vertex c, angle.Stands registry a vertex c ∧ angle.measureAt a vertex c = measured := by
  constructor
  · intro result
    obtain ⟨a, start, result⟩ := Option.bind_eq_some_iff.1 result
    obtain ⟨vertex, middle, result⟩ := Option.bind_eq_some_iff.1 result
    obtain ⟨c, stop, result⟩ := Option.bind_eq_some_iff.1 result
    exact ⟨a, vertex, c, ⟨start, middle, stop⟩, Option.some.inj result⟩
  · rintro ⟨a, vertex, c, stands, rfl⟩
    simp [measure?, stands.start, stands.vertex, stands.stop]

/-- Every place of a registry equals itself, so that it is recognized. -/
def KnowsPlaces (registry : Registry α) : Prop :=
  ∀ id place, registry.position id = some place → (place == place) = true

theorem KnowsPlaces.beq_self {registry : Registry α} (knows : registry.KnowsPlaces)
    {point : Option PointId} {place : Vec α} (here : point.bind registry.position = some place) :
    (place == place) = true := by
  obtain ⟨id, -, here⟩ := Option.bind_eq_some_iff.1 here
  exact knows id place here

theorem KnowsPlaces.measure?_again {registry : Registry α} (knows : registry.KnowsPlaces)
    {angle measured : Angle α} (once : registry.measure? angle = some measured) :
    registry.measure? measured = some measured := by
  obtain ⟨a, vertex, c, stands, rfl⟩ := measure?_eq_some_iff.1 once
  have same := And.intro (knows.beq_self stands.start)
    (And.intro (knows.beq_self stands.vertex) (knows.beq_self stands.stop))
  obtain ⟨start, stop, stands, recognized⟩ := stands.measureAt same
  refine measure?_eq_some_iff.2 ⟨start, vertex, stop, stands, ?_⟩
  rw [Angle.measureAt, if_pos recognized]

/-- What measuring makes of an angle is left by measuring it again, also if it has no sweep. -/
theorem KnowsPlaces.getD_measure?_again {registry : Registry α} (knows : registry.KnowsPlaces)
    (angle : Angle α) :
    (registry.measure? ((registry.measure? angle).getD angle)).getD
        ((registry.measure? angle).getD angle) =
      (registry.measure? angle).getD angle := by
  cases once : registry.measure? angle with
  | none =>
      rw [Option.getD_none, once]
      rfl
  | some measured =>
      rw [Option.getD_some, knows.measure?_again once]
      rfl

end Registry

end FigureMarkup.Figure

namespace FigureMarkup.Placement

open Figure Plane Markup Construction

variable {σ τ α : Type} [Scalar α]

theorem measureAngles_again {registry : Registry α} (knows : registry.KnowsPlaces) :
    measureAngles (measureAngles registry) = measureAngles registry := by
  -- Measuring moves no points, so the second time uses the places of the first.
  have measure?_eq (angle : Angle α) :
      (measureAngles registry).measure? angle = registry.measure? angle := rfl
  have angles : (measureAngles (measureAngles registry)).angles =
      (measureAngles registry).angles := by
    simp only [measureAngles, Array.map_map]
    refine Array.map_congr_left fun angle _ => ?_
    exact knows.getD_measure?_again angle
  calc
    measureAngles (measureAngles registry) =
        { measureAngles registry with
          angles := (measureAngles (measureAngles registry)).angles } := rfl
    _ = measureAngles registry := by rw [angles]

/-! ## Runs that have nothing to place -/

section

variable [Random.Source σ α]

theorem scatter_of_placed (settings : Settings α) (run : Run σ α) {ids : List PointId}
    (placed : ∀ id ∈ ids, run.registry.awaits id = false) :
    scatter settings run ids = (.ok [], run) := by
  induction ids with
  | nil => rfl
  | cons id ids ih =>
      have later := ih fun other member => placed other (List.mem_cons_of_mem id member)
      have here := placed id List.mem_cons_self
      rw [scatter]
      cases stored : run.registry.point? id with
      | none => exact later
      | some point =>
          have known : point.isPlaced = true := by
            simpa [Registry.awaits, stored] using here
          dsimp only
          rw [if_pos known]
          exact later

omit [Scalar α] in
theorem awaits_of_fullyPlaced {registry : Registry α} (placed : registry.FullyPlaced)
    (id : PointId) : registry.awaits id = false := by
  rw [Bool.eq_false_iff]
  intro waiting
  obtain ⟨held, unplaced⟩ := Registry.awaits_iff.1 waiting
  obtain ⟨position, known⟩ := placed id held
  rw [known] at unplaced
  cases unplaced

/-- A figure of which all points have places is measured, and nothing else happens to it. -/
theorem resolve_of_fullyPlaced (settings : Settings α) {progress : Progress σ α}
    (placed : progress.registry.FullyPlaced) :
    resolve settings progress =
      (.ok (), { progress with registry := measureAngles progress.registry }) := by
  have nothing : scatter settings (.start progress) progress.registry.pointIds =
      (.ok [], .start progress) :=
    scatter_of_placed settings (.start progress) fun id _ => awaits_of_fullyPlaced placed id
  have finished : placeAll settings progress = (.ok (), .start progress) := by
    rw [placeAll, nothing]
    exact settle_nil _
  rw [resolve, finished]
  rfl

theorem fullyPlaced_of_ok {settings : Settings α} {progress : Progress σ α}
    (done : (resolve settings progress).1 = .ok ()) :
    (resolve settings progress).2.registry.FullyPlaced := by
  have finished := placeAll_of_resolve_ok done
  rw [resolve_of_ok finished]
  intro id held
  exact Option.ne_none_iff_exists'.1 (position_ne_none_of_ok finished held)

/-- A resolved figure is left alone by any further run, whatever the settings and the source. -/
theorem resolve_of_resolved [Random.Source τ α] {settings : Settings α} {progress : Progress σ α}
    (done : (resolve settings progress).1 = .ok ())
    (knows : (resolve settings progress).2.registry.KnowsPlaces) (later : Settings α)
    (source : τ) :
    resolve later ⟨(resolve settings progress).2.registry, source⟩ =
      (.ok (), ⟨(resolve settings progress).2.registry, source⟩) := by
  have placed : (Progress.mk (resolve settings progress).2.registry source).registry.FullyPlaced :=
    fullyPlaced_of_ok done
  rw [resolve_of_fullyPlaced later placed]
  have measured := resolve_of_ok (placeAll_of_resolve_ok done)
  rw [measured] at knows ⊢
  -- The places are those of the run before its angles were measured.
  have before : (placeAll settings progress).2.registry.KnowsPlaces := knows
  simp only [measureAngles_again before]

end

/-- No point of a registry has a place with a coordinate that is no number. -/
def AllNumbers (registry : Registry Float) : Prop :=
  ∀ point ∈ registry.points.toList, ∀ place ∈ point.position, place.IsNumber

instance (registry : Registry Float) : Decidable (AllNumbers registry) :=
  inferInstanceAs (Decidable (∀ point ∈ _, ∀ place ∈ _, _))

theorem AllNumbers.knowsPlaces {registry : Registry Float} (numbers : AllNumbers registry) :
    registry.KnowsPlaces := by
  intro id place here
  obtain ⟨point, stored, here⟩ := Option.bind_eq_some_iff.1 here
  have member : point ∈ registry.points.toList :=
    Array.mem_toList_iff.2 (Array.mem_of_getElem? stored)
  exact (numbers point member place here).beq_self

/-- If a figure is resolved and no coordinate is no number, then resolving it again, with any
settings and any source, succeeds and changes nothing: no place, no sweep, no order of arms, and no
number is drawn. The figure and the settings that it was resolved with may be any. -/
theorem resolve_again {σ τ : Type} [Random.Source σ Float] [Random.Source τ Float]
    (settings : Settings Float) (progress : Progress σ Float)
    (done : (resolve settings progress).1 = .ok ())
    (numbers : AllNumbers (resolve settings progress).2.registry)
    (later : Settings Float) (source : τ) :
    resolve later ⟨(resolve settings progress).2.registry, source⟩ =
      (.ok (), ⟨(resolve settings progress).2.registry, source⟩) :=
  resolve_of_resolved done numbers.knowsPlaces later source

/-- An angle between points that are drawn stays as it is measured, and another source is left
where it stands. -/
theorem resolve_again_angle :
    let angle : Declaration := ⟨"angle", some "ABC", 1, ⟨0, 11⟩, [], ["big"]⟩
    let once := resolve .standard (⟨construct .standard [angle], .ofSeed 1⟩ :
      Progress Random.Keystream Float)
    let start : Progress Random.Keystream Float := ⟨once.2.registry, .ofSeed 2⟩
    once.1 = .ok () ∧ AllNumbers once.2.registry ∧
      resolve ⟨0.25, 1e-6, 0.4⟩ start = (.ok (), start) := by
  intro angle once start
  have done : once.1 = .ok () := by decide +kernel
  have numbers : AllNumbers once.2.registry := by decide +kernel
  exact ⟨done, numbers, resolve_again .standard _ done numbers ⟨0.25, 1e-6, 0.4⟩ _⟩

end FigureMarkup.Placement
