import FigureMarkup.Proofs.Construction.Numbers
import FigureMarkup.Proofs.Placement.Accounts
import FigureMarkup.Proofs.Plane.Sizes

/-!
# Places that are finite

A run keeps what was written, and what was written is finite. Any other place is finite if the bound
for free points is not too large and the shapes that constrained the point were tame when it was
placed.
-/

namespace FigureMarkup.Placement

open Figure Plane Markup Construction
open FigureMarkup.Random (Keystream mem_of_choose)

/-! ## What is written -/

theorem isFinite_of_ofNumeral? {numeral : Decimal.Numeral} {x : Float}
    (rounded : Scalar.ofNumeral? numeral = some x) : x.isFinite = true := by
  change (if numeral.toFloat.isFinite then some numeral.toFloat else none) = some x at rounded
  split at rounded
  case isTrue finite =>
    cases rounded
    exact finite
  case isFalse => cases rounded

theorem isFinite_of_read? {text : List Char} {x : Float} (read : Scalar.read? text = some x) :
    x.isFinite = true := by
  obtain ⟨numeral, -, rounded⟩ := Option.bind_eq_some_iff.1 read
  exact isFinite_of_ofNumeral? rounded

theorem isFinite_of_isWritten {place : Vec Float} (written : IsWritten place) : place.IsFinite := by
  obtain ⟨⟨_, x⟩, ⟨_, y⟩⟩ := written
  exact ⟨isFinite_of_read? x, isFinite_of_read? y⟩

theorem isFinite_of_written {registry : Registry Float} (written : Written registry) {id : PointId}
    {place : Vec Float} (here : registry.position id = some place) : place.IsFinite := by
  obtain ⟨point, stored, known⟩ := Option.bind_eq_some_iff.1 here
  exact isFinite_of_isWritten (written.points id point stored place known)

/-! ## What is chosen -/

variable {settings : Settings Float}

theorem isFinite_of_anywhere (small : Scalar.abs settings.bound ≤ 1e300)
    {source later : Keystream} {position : Vec Float}
    (chosen : anywhere settings source = .ok (some (position, later))) : position.IsFinite := by
  obtain ⟨next, first, second⟩ := between?_of_anywhere chosen
  exact ⟨(Keystream.sized_between? small first).isFinite,
    (Keystream.sized_between? small second).isFinite⟩

/-- Why a place could fail to be finite: a constraint of the point has a shape that is not tame, or
the place was drawn on a circle and depends on a cosine and a sine. -/
inductive Wild (settings : Settings Float) (registry : Registry Float) (id : PointId)
    (place : Vec Float) : Prop
  | untamed {ref : ShapeRef} {shape : Shape Float} (member : ref ∈ constraintsOf registry id)
      (concrete : registry.shape? ref = some shape) (wild : ¬ shape.Tame settings.tolerance)
  | turned {ref : ShapeRef} {center : Vec Float} {radius : Float}
      (member : ref ∈ constraintsOf registry id)
      (concrete : registry.shape? ref = some (.circle center radius)) (source : Keystream)
      (drawn : ((Shape.circle center radius).randomPoint settings.padding source).1 = place)
      (beyond : ¬ UnitTurns)

/-- A place that is chosen is finite, or something could have made it too large. -/
theorem Chooses.isFinite_or_wild (small : Scalar.abs settings.bound ≤ 1e300)
    {registry : Registry Float} (formed : WellFormed registry) {id : PointId}
    {source later : Keystream} {position : Vec Float}
    (chooses : Chooses settings registry id source position later) :
    position.IsFinite ∨ Wild settings registry id position := by
  cases chooses with
  | free chosen => exact .inl (isFinite_of_anywhere small chosen)
  | @single ref shape may concrete chosen =>
      have drawn := randomPoint_of_on chosen
      by_cases tame : shape.Tame settings.tolerance
      · by_cases turns : ∀ center radius, shape = .circle center radius → UnitTurns
        · rw [← drawn]
          exact .inl (Shape.isFinite_randomPoint tame turns settings.padding source)
        · simp only [not_forall] at turns
          obtain ⟨center, radius, rfl, beyond⟩ := turns
          exact .inr (.turned (may.mem formed) concrete source drawn beyond)
      · exact .inr (.untamed (may.mem formed) concrete tame)
  | @meeting refs may chosen =>
      by_cases tame : ∀ shape ∈ registry.shapes refs, shape.Tame settings.tolerance
      · have found := mem_of_choose (choose_of_whereAllMeet chosen)
        exact .inl (isFinite_of_mem_intersectAll tame found)
      · simp only [not_forall] at tame
        obtain ⟨shape, member, wild⟩ := tame
        obtain ⟨ref, among, concrete⟩ := List.mem_filterMap.1 member
        exact .inr (.untamed ((may ref among).mem formed) concrete wild)

/-! ## Places of a run -/

/-- A run has put a point in a place that could fail to be finite, given the shapes as they were at
that moment. -/
def PutWildly (settings : Settings Float) (start : Progress Keystream Float) (id : PointId)
    (place : Vec Float) : Prop :=
  ∃ count, (placeAll settings start).2.placed[count]? = some (id, place) ∧
    Wild settings (moment settings start count) id place

/-- Each place at the end of a run is finite, unless the run put its point there wildly. -/
theorem isFinite_or_putWildly (small : Scalar.abs settings.bound ≤ 1e300)
    {start : Progress Keystream Float} (formed : WellFormed start.registry)
    (written : Written start.registry) {id : PointId} {place : Vec Float}
    (here : (placeAll settings start).2.registry.position id = some place) :
    place.IsFinite ∨ PutWildly settings start id place := by
  obtain ⟨fresh, went⟩ := fresh_placed settings start
  rw [went] at here
  rcases Registry.position_placePoints_cases fresh here with before | put
  · exact .inl (isFinite_of_written written before)
  · obtain ⟨count, stored⟩ := List.mem_iff_getElem?.1 put
    obtain ⟨before, after, chooses⟩ := chooses_at_moment settings start stored
    have now := wellFormed_moment settings start formed count
    exact (chooses.isFinite_or_wild small now).imp_right fun wild => ⟨count, stored, wild⟩

end FigureMarkup.Placement
