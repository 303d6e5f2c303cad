import FigureMarkup.Proofs.Construction.Interpreting
import FigureMarkup.Proofs.Strict.Figure

/-!
# Strict construction

Declarations are applied by strict operations: entities are looked up and changed only if the
registry holds them. Each handler enters what it refers to before it uses it, and a well-formed
registry holds everything that its entities refer to. So applying a declaration to a well-formed
registry always has a result, and interpreting a document has one throughout.
-/

namespace FigureMarkup.Strict

open Figure Plane Markup Construction Registry

variable {α : Type}

/-! ## Constraining points -/

def constrain (registry : Registry α) (shape : ShapeRef) (points : List PointId) :
    Option (Registry α) :=
  points.foldlM (fun registry id =>
    withHeld registry (.point id) (registry.modifyPoint id (Point.addConstraint shape))) registry

def touchShape (registry : Registry α) (shape : ShapeRef) : Option (Effect α) := do
  let points ← definingPoints registry shape
  let constrained ← constrain registry shape points
  return (.ok (shape.entity :: points.map .point), constrained)

theorem constrain_eq {registry : Registry α} (shape : ShapeRef) {points : List PointId}
    (held : ∀ id ∈ points, registry.Holds (.point id)) :
    constrain registry shape points = some (Construction.constrain registry shape points) := by
  induction points generalizing registry with
  | nil => rfl
  | cons id points ih =>
      have here := held id List.mem_cons_self
      have same : SameNames (registry.modifyPoint id (Point.addConstraint shape)) registry :=
        registry.sameNames_modifyPoint id fun _ => rfl
      rw [constrain, List.foldlM_cons, withHeld_eq here, constrain_cons]
      exact ih fun other member => same.holds_iff.2 (held other (List.mem_cons_of_mem id member))

theorem touchShape_eq {registry : Registry α} {shape : ShapeRef}
    (known : registry.Holds shape.entity)
    (held : ∀ id ∈ registry.definingPoints shape, registry.Holds (.point id)) :
    touchShape registry shape = some (Construction.touchShape registry shape) := by
  simp [touchShape, definingPoints, withHeld_eq known, constrain_eq shape held,
    Construction.touchShape]

/-! ## Finding shapes -/

def bareShape (registry : Registry α) (reference name : String) :
    Option (Except Fault ShapeRef) :=
  match candidates registry name with
  | [] => some (.error (.undefined reference))
  | [shape] => some (.ok shape)
  | shapes => do
      let ids ← shapes.mapM fun shape => sceneId registry shape.entity
      return .error (.ambiguous name ids)

def referredShape (registry : Registry α) (reference : String) :
    Option (Except Fault ShapeRef) :=
  match (Text.words reference.toList).map String.ofList with
  | [kind, name] => some (qualifiedShape registry reference kind name)
  | [name] => bareShape registry reference name
  | _ => some (.error (.undefined reference))

def declaredShape (registry : Registry α) (declaration : Declaration) :
    Option (Except Fault (Option ShapeRef)) :=
  match declaration.argument? "lieson" with
  | none => some (.ok none)
  | some reference => (referredShape registry reference).map fun referred => referred.map some

theorem bareShape_eq {registry : Registry α} (indexed : Indexed registry)
    (reference name : String) :
    bareShape registry reference name =
      some (Construction.bareShape registry reference name) := by
  have ids : (candidates registry name).mapM (fun shape => sceneId registry shape.entity) =
      some ((candidates registry name).map fun shape => registry.sceneId shape.entity) :=
    mapM_eq fun shape member => withHeld_eq (holds_of_mem_candidates indexed name member) _
  unfold bareShape Construction.bareShape
  generalize candidates registry name = shapes at ids ⊢
  rcases shapes with _ | ⟨first, _ | ⟨second, rest⟩⟩
  · rfl
  · rfl
  · simp [ids]

theorem referredShape_eq {registry : Registry α} (indexed : Indexed registry)
    (reference : String) :
    referredShape registry reference = some (Construction.referredShape registry reference) := by
  unfold referredShape Construction.referredShape
  rcases (Text.words reference.toList).map String.ofList with
    _ | ⟨first, _ | ⟨second, _ | ⟨third, rest⟩⟩⟩
  · rfl
  · exact bareShape_eq indexed reference first
  · rfl
  · rfl

theorem declaredShape_eq {registry : Registry α} (indexed : Indexed registry)
    (declaration : Declaration) :
    declaredShape registry declaration =
      some (Construction.declaredShape registry declaration) := by
  unfold declaredShape Construction.declaredShape
  cases declaration.argument? "lieson" with
  | none => rfl
  | some reference => simp [referredShape_eq indexed]

/-! ## Handlers -/

section Handlers

variable [Scalar α]

/-- Read what a point declaration says, its numbers before the shape that it refers to. -/
def readPoint (registry : Registry α) (declaration : Declaration) :
    Option (Except Fault (String × Option (Vec α) × Option ShapeRef)) :=
  match requiredName declaration with
  | .error fault => some (.error fault)
  | .ok name =>
      match keywordPosition declaration with
      | .error fault => some (.error fault)
      | .ok position =>
          (declaredShape registry declaration).map fun declared =>
            declared.map fun shape => (name, position, shape)

def declarePoint (registry : Registry α) (declaration : Declaration) : Option (Effect α) := do
  match ← readPoint registry declaration with
  | .error fault => return (.error fault, registry)
  | .ok (name, position, shape) => do
      let (id, registry) ← enterPoint registry name
      let registry ← withHeld registry (.point id)
        (registry.modifyPoint id (recordPoint position shape (declaration.hasFlag "random")))
      return (.ok [.point id], registry)

def declareLine (registry : Registry α) (declaration : Declaration) : Option (Effect α) :=
  match endpointLabels declaration with
  | .error fault => some (.error fault, registry)
  | .ok (first, second) => do
      let (a, registry) ← enterPoint registry first
      let (b, registry) ← enterPoint registry second
      if a = b then
        return (.error (.malformed .lineDegenerate), registry)
      else
        match registry.findLine? a b with
        | some id => touchShape registry (.line id)
        | none => do
            let name := newName declaration "p1" (sortedName first second)
            match ← enter registry .line name with
            | ((_, false), registry) => return (.error (.malformed (.lineTaken name)), registry)
            | ((index, true), registry) => do
                let registry ← withHeld registry (.line ⟨index⟩)
                  (registry.modifyLine ⟨index⟩ fun line => { line with p1 := some a, p2 := some b })
                touchShape registry (.line ⟨index⟩)

def circleEntities (registry : Registry α) (id : CircleId) : Option (List EntityRef) :=
  withHeld registry (.circle id) (Construction.circleEntities registry id)

def enterBoundary (registry : Registry α) (id : CircleId) (name : String) :
    Option (Registry α) :=
  match labels name with
  | [first, second, third] => do
      let (a, registry) ← enterPoint registry first
      let (b, registry) ← enterPoint registry second
      let (c, registry) ← enterPoint registry third
      let registry ← constrain registry (.circle id) [a, b, c]
      withHeld registry (.circle id) <| registry.modifyCircle id fun circle =>
        { circle with p1 := some a, p2 := some b, p3 := some c }
  | _ => some registry

def enterCenter (registry : Registry α) (id : CircleId) :
    Option String → Option (Registry α)
  | none => some registry
  | some name => do
      let (center, registry) ← enterPoint registry name
      withHeld registry (.circle id) <| registry.modifyCircle id fun circle =>
        { circle with center := some center }

def enterRadius (registry : Registry α) (id : CircleId) :
    Option (DeclaredRadius α) → Option (Registry α)
  | some (.literal value) =>
      withHeld registry (.circle id) <| registry.modifyCircle id fun circle =>
        { circle with radius := some (.literal value) }
  | some (.between first second) => do
      let (a, registry) ← enterPoint registry first
      let (b, registry) ← enterPoint registry second
      withHeld registry (.circle id) <| registry.modifyCircle id fun circle =>
        { circle with radius := some (.between a b) }
  | none => do
      let circle ← registry.circle? id
      match ← circleRadius registry circle with
      | some value =>
          withHeld registry (.circle id) <| registry.modifyCircle id fun circle =>
            { circle with radius := some (.literal value) }
      | none => return registry

def declareCircle (registry : Registry α) (declaration : Declaration) : Option (Effect α) :=
  match requiredName declaration with
  | .error fault => some (.error fault, registry)
  | .ok name =>
      match registry.index? .circle name with
      | some index => do
          let entities ← circleEntities registry ⟨index⟩
          return (.ok entities, registry)
      | none =>
          match declaredRadius declaration with
          | .error fault => some (.error fault, registry)
          | .ok radius => do
              let ((index, _), registry) ← enter registry .circle name
              let registry ← enterBoundary registry ⟨index⟩ name
              let registry ← enterCenter registry ⟨index⟩ (declaration.argument? "center")
              let registry ← enterRadius registry ⟨index⟩ radius
              let entities ← circleEntities registry ⟨index⟩
              return (.ok entities, registry)

def declarePolygon (registry : Registry α) (declaration : Declaration) (triangle : Bool) :
    Option (Effect α) :=
  match vertexLabels declaration triangle with
  | .error fault => some (.error fault, registry)
  | .ok labels => do
      let (vertices, registry) ← enterPoints registry labels
      if allDistinct vertices then
        match registry.findPolygon? vertices with
        | some id => touchShape registry (.polygon id)
        | none => do
            let name := newName declaration "points" (String.join labels)
            match ← enter registry .polygon name with
            | ((_, false), registry) => return (.error (.malformed (.polygonTaken name)), registry)
            | ((index, true), registry) => do
                let label := if triangle then some ("triangle " ++ name) else none
                let registry ← withHeld registry (.polygon ⟨index⟩) <|
                  registry.modifyPolygon ⟨index⟩ fun polygon => { polygon with vertices, label }
                touchShape registry (.polygon ⟨index⟩)
      else
        return (.error (.malformed .polygonDegenerate), registry)

/-- Read what a center declaration says, and find the circle that it is about. -/
def readCenter (registry : Registry α) (declaration : Declaration) :
    Except Fault (String × CircleId) := do
  let name ← requiredName declaration
  match declaration.argument? "circle" with
  | none => .error (.malformed .missingCircle)
  | some circle =>
      match registry.index? .circle circle with
      | none => .error (.undefined ("circle " ++ circle))
      | some index => .ok (name, ⟨index⟩)

def declareCenter (registry : Registry α) (declaration : Declaration) : Option (Effect α) :=
  match readCenter registry declaration with
  | .error fault => some (.error fault, registry)
  | .ok (name, circle) => do
      let (center, registry) ← enterPoint registry name
      let registry ← withHeld registry (.circle circle) <|
        registry.modifyCircle circle fun circle => { circle with center := some center }
      return (.ok [.point center], registry)

def declareAngle (registry : Registry α) (declaration : Declaration) : Option (Effect α) :=
  match angleLabels declaration with
  | .error fault => some (.error fault, registry)
  | .ok (first, second, third) => do
      let (p1, registry) ← enterPoint registry first
      let (vertex, registry) ← enterPoint registry second
      let (p3, registry) ← enterPoint registry third
      let entities (id : AngleId) : List EntityRef :=
        [.angle id, .point p1, .point vertex, .point p3]
      if p1 = vertex || p3 = vertex || p1 = p3 then
        return (.error (.malformed .angleDegenerate), registry)
      else
        match registry.findAngle? p1 vertex p3 with
        | some id => return (.ok (entities id), registry)
        | none => do
            let name := newName declaration "p1" (first ++ second ++ third)
            match ← enter registry .angle name with
            | ((_, false), registry) => return (.error (.malformed (.angleTaken name)), registry)
            | ((index, true), registry) => do
                let registry ← withHeld registry (.angle ⟨index⟩) <|
                  registry.modifyAngle ⟨index⟩ fun angle =>
                    { angle with
                      p1 := some p1
                      vertex := some vertex
                      p3 := some p3
                      big := declaration.hasFlag "big" }
                return (.ok (entities ⟨index⟩), registry)

/-- Read what a declaration of a place says. -/
def readLoc (declaration : Declaration) : Except Fault (String × Vec α) := do
  let name ← requiredName declaration
  let x ← coordinate declaration 0 "x"
  let y ← coordinate declaration 1 "y"
  return (name, ⟨x, y⟩)

def declareLoc (registry : Registry α) (declaration : Declaration) : Option (Effect α) :=
  match readLoc declaration with
  | .error fault => some (.error fault, registry)
  | .ok (name, position) => do
      let (id, registry) ← enterPoint registry name
      let registry ← withHeld registry (.point id) (registry.modifyPoint id (·.place position))
      return (.ok [.point id], registry)

def paint (declaration : Declaration) : Effect α → Option (Effect α)
  | (.error fault, registry) => some (.error fault, registry)
  | (.ok [], registry) => some (.ok [], registry)
  | (.ok (main :: others), registry) =>
      match declaration.argument? "color" with
      | none => some (.ok (main :: others), registry)
      | some value => do
          match ← readColor value with
          | none => return (.error (.invalidColor value), registry)
          | some color => do
              let registry ← withHeld registry main (registry.setColor color main)
              return (.ok (main :: others), registry)

theorem declarePoint_eq {registry : Registry α} (indexed : Indexed registry)
    (declaration : Declaration) :
    declarePoint registry declaration =
      some (Construction.declarePoint registry declaration) := by
  unfold declarePoint Construction.declarePoint readPoint
  cases requiredName declaration with
  | error fault => rfl
  | ok name =>
      cases keywordPosition (α := α) declaration with
      | error fault => rfl
      | ok position =>
          rw [declaredShape_eq indexed]
          cases Construction.declaredShape registry declaration with
          | error fault => rfl
          | ok shape =>
              rcases entered : registry.enterPoint name with ⟨id, later⟩
              have held := (enterPoint_spec declaration indexed entered).2
              simp [Except.map, bind, Except.bind, pure, Except.pure, enterPoint_eq, entered,
                withHeld_eq held]

/-! ### Shapes with their points -/

section Shapes

variable {registry : Registry α} (formed : WellFormed registry)

include formed

omit [Scalar α] in
theorem touchShape_again {shape : ShapeRef} (known : registry.Holds shape.entity) :
    touchShape registry shape = some (Construction.touchShape registry shape) :=
  touchShape_eq known fun _ member => formed.holds_definingPoints member

omit [Scalar α] formed in
/-- A line that was entered can be given its endpoints and touched. -/
theorem joinLine_eq {a b : PointId} (name : String) (heldA : registry.Holds (.point a))
    (heldB : registry.Holds (.point b)) :
    (do
      let joined ← withHeld (registry.add .line name) (registry.newest .line)
        (addJoined registry name a b)
      touchShape joined (.line ⟨registry.lines.size⟩)) =
      some (Construction.touchShape (addJoined registry name a b)
        (.line ⟨registry.lines.size⟩)) := by
  have same := sameNames_addJoined registry name a b
  have created : (registry.add .line name).Holds (registry.newest .line) :=
    holds_add.2 (.inr rfl)
  rw [withHeld_eq created, Option.bind_eq_bind, Option.bind_some]
  refine touchShape_eq (same.holds_iff.2 created) fun id member => same.holds_iff.2 ?_
  rw [definingPoints_addJoined, if_pos rfl] at member
  refine holds_add.2 (.inl ?_)
  rcases List.mem_pair.1 member with rfl | rfl
  · exact heldA
  · exact heldB

omit [Scalar α] formed in
/-- A polygon that was entered can be given its vertices and touched. -/
theorem closePolygon_eq {vertices : List PointId} (name : String) (label : Option String)
    (held : ∀ vertex ∈ vertices, registry.Holds (.point vertex)) :
    (do
      let closed ← withHeld (registry.add .polygon name) (registry.newest .polygon)
        (addClosed registry name vertices label)
      touchShape closed (.polygon ⟨registry.polygons.size⟩)) =
      some (Construction.touchShape (addClosed registry name vertices label)
        (.polygon ⟨registry.polygons.size⟩)) := by
  have same := sameNames_addClosed registry name vertices label
  have created : (registry.add .polygon name).Holds (registry.newest .polygon) :=
    holds_add.2 (.inr rfl)
  rw [withHeld_eq created, Option.bind_eq_bind, Option.bind_some]
  refine touchShape_eq (same.holds_iff.2 created) fun id member => same.holds_iff.2 ?_
  rw [definingPoints_addClosed, if_pos rfl] at member
  exact holds_add.2 (.inl (held id member))

end Shapes

omit [Scalar α] in
theorem declareLine_eq {registry : Registry α} (formed : WellFormed registry)
    (declaration : Declaration) :
    declareLine registry declaration =
      some (Construction.declareLine registry declaration) := by
  unfold declareLine Construction.declareLine
  cases endpointLabels declaration with
  | error fault => rfl
  | ok labels =>
      obtain ⟨first, second⟩ := labels
      rcases enteredA : registry.enterPoint first with ⟨a, one⟩
      rcases enteredB : one.enterPoint second with ⟨b, two⟩
      have ⟨toOne, heldA⟩ := enterPoint_spec declaration formed.indexed enteredA
      have formedOne := toOne.wellFormed formed
      have ⟨toTwo, heldB⟩ := enterPoint_spec declaration formedOne.indexed enteredB
      have formedTwo := toTwo.wellFormed formedOne
      simp only [enterPoint_eq, enteredA, enteredB, Option.bind_eq_bind, Option.bind_some]
      by_cases degenerate : a = b
      · simp only [if_pos degenerate]
        rfl
      · simp only [if_neg degenerate]
        cases found : two.findLine? a b with
        | some id => exact touchShape_again formedTwo (holds_of_findLine? found)
        | none =>
            rcases two.enter_eq .line (newName declaration "p1" (sortedName first second)) with
              ⟨index, -, taken⟩ | ⟨-, created⟩
            · simp only [enter_eq, taken, Option.bind_some]
              rfl
            · simp only [enter_eq, created, Option.bind_some]
              exact joinLine_eq _ (toTwo.holds heldA) heldB

omit [Scalar α] in
theorem declarePolygon_eq {registry : Registry α} (formed : WellFormed registry)
    (declaration : Declaration) (triangle : Bool) :
    declarePolygon registry declaration triangle =
      some (Construction.declarePolygon registry declaration triangle) := by
  unfold declarePolygon Construction.declarePolygon
  cases vertexLabels declaration triangle with
  | error fault => rfl
  | ok labels =>
      rcases entered : registry.enterPoints labels with ⟨vertices, later⟩
      obtain ⟨changes, -, held⟩ := enterPoints_spec declaration formed.indexed entered
      have formedLater := changes.wellFormed formed
      simp only [enterPoints_eq, entered, Option.bind_eq_bind, Option.bind_some]
      by_cases distinct : allDistinct vertices = true
      · simp only [if_pos distinct]
        cases found : later.findPolygon? vertices with
        | some id => exact touchShape_again formedLater (holds_of_findPolygon? found)
        | none =>
            rcases later.enter_eq .polygon
                (newName declaration "points" (String.join labels)) with
              ⟨index, -, taken⟩ | ⟨-, created⟩
            · simp only [enter_eq, taken, Option.bind_some]
              rfl
            · simp only [enter_eq, created, Option.bind_some]
              exact closePolygon_eq _ _ held
      · simp only [if_neg distinct]
        rfl

/-! ### Circles -/

section Circles

variable {registry : Registry α} (declaration : Declaration)

omit [Scalar α] in
include declaration in
theorem enterBoundary_eq (indexed : Indexed registry) {id : CircleId}
    (known : registry.Holds (.circle id)) (name : String) :
    enterBoundary registry id name = some (Construction.enterBoundary registry id name) := by
  unfold enterBoundary Construction.enterBoundary
  rcases labels name with _ | ⟨first, _ | ⟨second, _ | ⟨third, _ | ⟨fourth, rest⟩⟩⟩⟩
  case cons.cons.cons.nil =>
    rcases enteredA : registry.enterPoint first with ⟨a, one⟩
    rcases enteredB : one.enterPoint second with ⟨b, two⟩
    rcases enteredC : two.enterPoint third with ⟨c, three⟩
    have ⟨toOne, heldA⟩ := enterPoint_spec declaration indexed enteredA
    have ⟨toTwo, heldB⟩ := enterPoint_spec declaration (toOne.indexed indexed) enteredB
    have ⟨toThree, heldC⟩ := enterPoint_spec declaration
      (toTwo.indexed (toOne.indexed indexed)) enteredC
    have held : ∀ point ∈ [a, b, c], three.Holds (.point point) := by
      simp only [List.forall_mem_cons]
      exact ⟨toThree.holds (toTwo.holds heldA), toThree.holds heldB, heldC, by simp⟩
    have still : (Construction.constrain three (.circle id) [a, b, c]).Holds (.circle id) :=
      (sameNames_constrain three _ _).holds_iff.2
        (toThree.holds (toTwo.holds (toOne.holds known)))
    simp only [enterPoint_eq, enteredA, enteredB, enteredC, constrain_eq _ held,
      Option.bind_eq_bind, Option.bind_some]
    exact withHeld_eq still _
  all_goals rfl

omit [Scalar α] in
include declaration in
theorem enterCenter_eq (indexed : Indexed registry) {id : CircleId}
    (known : registry.Holds (.circle id)) (center : Option String) :
    enterCenter registry id center = some (Construction.enterCenter registry id center) := by
  cases center with
  | none => rfl
  | some name =>
      rcases entered : registry.enterPoint name with ⟨center, later⟩
      have still := (enterPoint_spec declaration indexed entered).1.holds known
      simp only [enterCenter, Construction.enterCenter, enterPoint_eq, entered,
        Option.bind_eq_bind, Option.bind_some]
      exact withHeld_eq still _

include declaration in
theorem enterRadius_eq (formed : WellFormed registry) {id : CircleId}
    (known : registry.Holds (.circle id)) (radius : Option (DeclaredRadius α)) :
    enterRadius registry id radius = some (Construction.enterRadius registry id radius) := by
  rcases radius with _ | value | ⟨first, second⟩
  · obtain ⟨circle, stored⟩ := holds_circle_iff.1 known
    have measured := circleRadius_eq (formed.circles id circle stored)
    simp only [enterRadius, Construction.enterRadius, stored, measured, Option.bind_eq_bind,
      Option.bind_some]
    cases registry.circleRadius? circle with
    | none => rfl
    | some value => exact withHeld_eq known _
  · exact withHeld_eq known _
  · rcases enteredA : registry.enterPoint first with ⟨a, one⟩
    rcases enteredB : one.enterPoint second with ⟨b, two⟩
    have toOne := (enterPoint_spec declaration formed.indexed enteredA).1
    have toTwo := (enterPoint_spec declaration (toOne.indexed formed.indexed) enteredB).1
    simp only [enterRadius, Construction.enterRadius, enterPoint_eq, enteredA, enteredB,
      Option.bind_eq_bind, Option.bind_some]
    exact withHeld_eq (toTwo.holds (toOne.holds known)) _

include declaration in
/-- A circle without boundary gets what its declaration gives, and what it is made of is told. -/
theorem completeCircle_eq (formed : WellFormed registry) {id : CircleId}
    (known : registry.Holds (.circle id))
    (unbound : registry.definingPoints (.circle id) = []) (name : String)
    (center : Option String) (radius : Option (DeclaredRadius α)) :
    (do
      let bounded ← enterBoundary registry id name
      let centered ← enterCenter bounded id center
      let complete ← enterRadius centered id radius
      let entities ← circleEntities complete id
      return ((.ok entities, complete) : Effect α)) =
      some
        (let bounded := Construction.enterBoundary registry id name
        let centered := Construction.enterCenter bounded id center
        let complete := Construction.enterRadius centered id radius
        (.ok (Construction.circleEntities complete id), complete)) := by
  have bounding : Changes declaration _ _ :=
    enterBoundary_changes formed.indexed known unbound name
  have formedTwo := bounding.wellFormed formed
  have knownTwo := bounding.holds known
  have centering : Changes declaration _ _ := enterCenter_changes formedTwo.indexed id center
  have formedThree := centering.wellFormed formedTwo
  have knownThree := centering.holds knownTwo
  have sizing : Changes declaration _ _ := enterRadius_changes formedThree.indexed id radius
  simp only [Option.bind_eq_bind, enterBoundary_eq declaration formed.indexed known name,
    enterCenter_eq declaration formedTwo.indexed knownTwo,
    enterRadius_eq declaration formedThree knownThree, Option.bind_some]
  rw [circleEntities, withHeld_eq (sizing.holds knownThree)]
  rfl

theorem declareCircle_eq (formed : WellFormed registry) :
    declareCircle registry declaration =
      some (Construction.declareCircle registry declaration) := by
  unfold declareCircle Construction.declareCircle
  cases requiredName declaration with
  | error fault => rfl
  | ok name =>
      dsimp only
      cases found : registry.index? .circle name with
      | some index =>
          have held : registry.Holds (.circle ⟨index⟩) := formed.indexed.held found
          simp [circleEntities, withHeld_eq held]
      | none =>
          cases declaredRadius (α := α) declaration with
          | error fault => rfl
          | ok radius =>
              have created : registry.enter .circle name =
                  ((registry.count .circle, true), registry.add .circle name) := by
                simp [Registry.enter, found]
              have entering : Change declaration registry (registry.add .circle name) :=
                .circle name found
              have unbound : (registry.add .circle name).definingPoints
                  (.circle ⟨registry.count .circle⟩) = [] := by
                rw [definingPoints_add]
                exact definingPoints_of_not_holds (registry.not_holds_newest .circle)
              simp only [enter_eq, created, Option.bind_eq_bind, Option.bind_some]
              exact completeCircle_eq declaration (entering.wellFormed formed)
                (holds_add.2 (.inr rfl)) unbound name _ radius

omit [Scalar α] in
theorem declareCenter_eq (formed : WellFormed registry) :
    declareCenter registry declaration =
      some (Construction.declareCenter registry declaration) := by
  unfold declareCenter Construction.declareCenter readCenter
  cases requiredName declaration with
  | error fault => rfl
  | ok name =>
      cases declaration.argument? "circle" with
      | none => rfl
      | some circle =>
          cases known : registry.index? .circle circle with
          | none =>
              simp only [bind, Except.bind, known]
          | some index =>
              rcases entered : registry.enterPoint name with ⟨center, later⟩
              have held : later.Holds (.circle ⟨index⟩) :=
                (enterPoint_spec declaration formed.indexed entered).1.holds
                  (formed.indexed.held known)
              simp [bind, Except.bind, known, enterPoint_eq, entered, withHeld_eq held]

end Circles

/-! ### Angles and places -/

section Angles

variable {registry : Registry α} (declaration : Declaration)

omit [Scalar α] in
theorem declareAngle_eq :
    declareAngle registry declaration =
      some (Construction.declareAngle registry declaration) := by
  unfold declareAngle Construction.declareAngle
  cases angleLabels declaration with
  | error fault => rfl
  | ok labels =>
      obtain ⟨first, second, third⟩ := labels
      rcases enteredA : registry.enterPoint first with ⟨p1, one⟩
      rcases enteredB : one.enterPoint second with ⟨vertex, two⟩
      rcases enteredC : two.enterPoint third with ⟨p3, three⟩
      simp only [enterPoint_eq, enteredA, enteredB, enteredC, Option.bind_eq_bind,
        Option.bind_some]
      split
      · rfl
      · cases three.findAngle? p1 vertex p3 with
        | some id => rfl
        | none =>
            rcases three.enter_eq .angle (newName declaration "p1" (first ++ second ++ third)) with
              ⟨index, -, taken⟩ | ⟨-, created⟩
            · simp only [enter_eq, taken, Option.bind_some]
              rfl
            · generalize newName declaration "p1" (first ++ second ++ third) = name at created ⊢
              have held : (three.add .angle name).Holds (.angle ⟨three.count .angle⟩) :=
                holds_add.2 (.inr rfl)
              simp only [enter_eq, created, Option.bind_some]
              rw [withHeld_eq held]
              rfl

theorem declareLoc_eq (indexed : Indexed registry) :
    declareLoc registry declaration = some (Construction.declareLoc registry declaration) := by
  unfold declareLoc Construction.declareLoc readLoc
  cases requiredName declaration with
  | error fault => rfl
  | ok name =>
      cases coordinate (α := α) declaration 0 "x" with
      | error fault => rfl
      | ok x =>
          cases coordinate (α := α) declaration 1 "y" with
          | error fault => rfl
          | ok y =>
              rcases entered : registry.enterPoint name with ⟨id, later⟩
              have held := (enterPoint_spec declaration indexed entered).2
              simp [bind, Except.bind, pure, Except.pure, enterPoint_eq, entered,
                withHeld_eq held]

end Angles

end Handlers

/-! ## Applying declarations -/

section Applying

variable [Scalar α]

/-- Paint what an effect is about, and tell the outcome. -/
def finish (declaration : Declaration) (effect : Option (Effect α)) :
    Option (Except Error Outcome × Registry α) := do
  let effect ← effect
  let painted ← paint declaration effect
  return painted.outcome declaration

def apply (registry : Registry α) (declaration : Declaration) :
    Option (Except Error Outcome × Registry α) :=
  match DeclarationKind.ofName? declaration.kind with
  | none => some (.error (.inDeclaration .unknownKind declaration), registry)
  | some .point => finish declaration (declarePoint registry declaration)
  | some .line => finish declaration (declareLine registry declaration)
  | some .circle => finish declaration (declareCircle registry declaration)
  | some .polygon => finish declaration (declarePolygon registry declaration false)
  | some .triangle => finish declaration (declarePolygon registry declaration true)
  | some .center => finish declaration (declareCenter registry declaration)
  | some .angle => finish declaration (declareAngle registry declaration)
  | some .loc => finish declaration (declareLoc registry declaration)
  | some .step => some (.ok .step, registry)
  | some .clear => some (.ok .clear, registry)
  | some .definitions => finish declaration (some (.ok [], registry))

variable {registry : Registry α} (formed : WellFormed registry)

include formed

/-- What a declaration is about can be painted. -/
theorem finish_eq {declaration : Declaration} {effect : Effect α}
    (declaring : Declaring registry declaration effect) :
    finish declaration (some effect) =
      some ((Construction.paint declaration effect).outcome declaration) := by
  have painted : paint declaration effect = some (Construction.paint declaration effect) := by
    obtain ⟨_ | _ | ⟨main, others⟩, later⟩ := effect
    · rfl
    · rfl
    · have held := (declaring.about formed rfl).2 main List.mem_cons_self
      unfold paint Construction.paint
      cases declaration.argument? "color" with
      | none => rfl
      | some value =>
          simp only [readColor_eq, Option.bind_eq_bind, Option.bind_some]
          cases Rgba.read? value with
          | none => rfl
          | some color => simp [withHeld_eq held]
  simp [finish, painted]

/-- Applying a declaration to a well-formed registry always has a result, and it is the usual
one. -/
theorem apply_eq (declaration : Declaration) :
    apply registry declaration = some (Construction.apply registry declaration) := by
  have indexed := formed.indexed
  unfold apply Construction.apply
  match ofKind : DeclarationKind.ofName? declaration.kind with
  | none | some .step | some .clear | some .definitions => rfl
  | some .point =>
      dsimp only
      rw [declarePoint_eq indexed]
      exact finish_eq formed (declaring_point ofKind)
  | some .line =>
      dsimp only
      rw [declareLine_eq formed]
      exact finish_eq formed (declaring_line ofKind)
  | some .circle =>
      dsimp only
      rw [declareCircle_eq declaration formed]
      exact finish_eq formed declaring_circle
  | some .polygon =>
      dsimp only
      rw [declarePolygon_eq formed]
      exact finish_eq formed (declaring_polygon ofKind (.inr (.inl rfl)))
  | some .triangle =>
      dsimp only
      rw [declarePolygon_eq formed]
      exact finish_eq formed (declaring_polygon ofKind (.inr (.inr (.inl rfl))))
  | some .center =>
      dsimp only
      rw [declareCenter_eq declaration formed]
      exact finish_eq formed (declaring_center ofKind)
  | some .angle =>
      dsimp only
      rw [declareAngle_eq declaration]
      exact finish_eq formed (declaring_angle ofKind)
  | some .loc =>
      dsimp only
      rw [declareLoc_eq declaration indexed]
      exact finish_eq formed (declaring_loc ofKind)

end Applying

/-! ## Interpreting documents -/

section Interpreting

variable [Scalar α]

omit [Scalar α] in
def record (interpreter : Interpreter α) (declaration : Declaration) :
    Outcome → Option (Interpreter α)
  | .entities touched =>
      (touched.mapM (sceneId interpreter.registry)).map fun _ =>
        interpreter.record declaration (.entities touched)
  | outcome => some (interpreter.record declaration outcome)

def interpret (interpreter : Interpreter α) (declaration : Declaration) :
    Option (Except Error Outcome × Interpreter α) := do
  let (outcome, registry) ← apply interpreter.registry declaration
  let interpreter := { interpreter with registry }
  match outcome with
  | .error error => return (.error error, interpreter)
  | .ok outcome => do
      let recorded ← record interpreter declaration outcome
      return (.ok outcome, recorded)

def interpretAll (interpreter : Interpreter α) :
    List Declaration → Option (Except Error Unit × Interpreter α)
  | [] => some (.ok (), interpreter)
  | declaration :: rest => do
      match ← interpret interpreter declaration with
      | (.error error, interpreter) => return (.error error, interpreter)
      | (.ok _, interpreter) => interpretAll interpreter rest

theorem interpret_eq {interpreter : Interpreter α} (formed : WellFormed interpreter.registry)
    (declaration : Declaration) :
    interpret interpreter declaration = some (interpreter.interpret declaration) := by
  have about := @apply_about _ declaration _ _ formed
  unfold interpret Interpreter.interpret
  rw [apply_eq formed]
  generalize Construction.apply interpreter.registry declaration = applied at about ⊢
  obtain ⟨outcome, registry⟩ := applied
  cases outcome with
  | error error => rfl
  | ok outcome =>
      cases outcome with
      | step => rfl
      | clear => rfl
      | entities touched =>
          have ids : touched.mapM (sceneId registry) = some (touched.map registry.sceneId) :=
            mapM_eq fun entity member => withHeld_eq (about rfl entity member) _
          simp [record, ids]

/-- Interpreting declarations always has a result, and it is the usual one. -/
theorem interpretAll_eq {interpreter : Interpreter α} (formed : WellFormed interpreter.registry)
    (declarations : List Declaration) :
    interpretAll interpreter declarations = some (interpreter.interpretAll declarations) := by
  induction declarations generalizing interpreter with
  | nil => rfl
  | cons declaration rest ih =>
      have next : WellFormed (interpreter.interpret declaration).2.registry := by
        rw [registry_interpret]
        exact (apply_changes formed.indexed declaration).wellFormed formed
      rw [interpretAll, Interpreter.interpretAll, interpret_eq formed]
      rcases interpreted : interpreter.interpret declaration with ⟨_ | _, later⟩
      · rfl
      · rw [interpreted] at next
        exact ih next

end Interpreting

end FigureMarkup.Strict
