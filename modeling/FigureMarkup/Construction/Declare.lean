import FigureMarkup.Construction.Reference
import FigureMarkup.Figure.Measure

/-!
# Applying declarations

Each kind of declaration has its own effect on a registry. The effect is given together with what
it says: the entities that the declaration is about, the main one first, or the reason for which
the declaration cannot be applied. What was entered before a declaration fails stays entered.
-/

namespace FigureMarkup.Construction

open Figure Plane Markup Text

/-- What a declaration says, and the registry it leaves. -/
abbrev Effect (α : Type) := Except Fault (List EntityRef) × Registry α

/-! ## Reading declarations -/

def requiredName (declaration : Declaration) : Except Fault String :=
  match declaration.name with
  | some name => .ok name
  | none => .error (.malformed .missingName)

section Numbers

variable {α : Type} [Scalar α]

/-- Read a number, around which blanks may stand. -/
def readNumber (field value : String) : Except Fault α :=
  match Scalar.read? (trim value.toList) with
  | some number => .ok number
  | none => .error (.invalidNumber field value)

def keywordNumber (declaration : Declaration) (field : String) : Except Fault α :=
  readNumber field ((declaration.argument? field).getD "")

/-- Read the number that a keyword gives, or else the flag in some place. -/
def coordinate (declaration : Declaration) (place : Nat) (field : String) : Except Fault α :=
  match declaration.argument? field with
  | some value => readNumber field value
  | none => readNumber field (declaration.flags.getD place "")

/-- The place that a point is declared at, if it is given by keywords. -/
def keywordPosition (declaration : Declaration) : Except Fault (Option (Vec α)) :=
  if (declaration.argument? "x").isSome || (declaration.argument? "y").isSome then do
    let x ← keywordNumber declaration "x"
    let y ← keywordNumber declaration "y"
    return some ⟨x, y⟩
  else
    return none

inductive DeclaredRadius (α : Type) where
  | literal (value : α)
  | between (a b : String)

/-- Read a radius: a positive number, or two letters that label points. -/
def readRadius (value : String) : Except Fault (DeclaredRadius α) :=
  let trimmed := trim value.toList
  match Decimal.Numeral.read? trimmed with
  | some numeral =>
      match Scalar.ofNumeral? numeral with
      | some radius =>
          if (0.0 : α) < radius then .ok (.literal radius)
          else .error (.invalidNumber "radius" value)
      | none => .error (.invalidNumber "radius" value)
  | none =>
      match trimmed.map String.singleton with
      | [a, b] => .ok (.between a b)
      | _ => .error (.invalidNumber "radius" value)

end Numbers

variable {α : Type}

/-- The shape that a point is declared to lie on, if there is one. -/
def declaredShape (registry : Registry α) (declaration : Declaration) :
    Except Fault (Option ShapeRef) :=
  match declaration.argument? "lieson" with
  | none => .ok none
  | some reference => (referredShape registry reference).map some

def sortedName (first second : String) : String :=
  if second < first then second ++ first else first ++ second

def endpointLabels (declaration : Declaration) : Except Fault (String × String) :=
  match declaration.argument? "p1", declaration.argument? "p2" with
  | some p1, some p2 => .ok (p1, p2)
  | none, none => do
      let name ← requiredName declaration
      match labels name with
      | [a, b] => .ok (a, b)
      | _ => .error (.malformed (.lineName name))
  | _, _ => .error (.malformed .lineHalfGiven)

/-- The name of a new entity: the declared one if its points are given by a keyword, and otherwise
the one that its labels form. -/
def newName (declaration : Declaration) (keyword formed : String) : String :=
  match declaration.name, declaration.argument? keyword with
  | some name, some _ => name
  | _, _ => formed

def leastLabel : List String → String
  | [] => ""
  | label :: rest => rest.foldl (fun least label => if label < least then label else least) label

/-- Turn a list around so that its first least label comes first. -/
def rotateToLeast (labels : List String) : List String :=
  let start := labels.idxOf (leastLabel labels)
  labels.drop start ++ labels.take start

def listedLabels (list : String) : List String :=
  ((split ',' list.toList).map trim).filterMap fun label =>
    if label.isEmpty then none else some (String.ofList label)

def vertexLabels (declaration : Declaration) (triangle : Bool) : Except Fault (List String) := do
  let labels ←
    match declaration.argument? "points" with
    | some list => .ok (listedLabels list)
    | none => (requiredName declaration).map fun name => rotateToLeast (labels name)
  if triangle && labels.length ≠ 3 then .error (.malformed .triangleSize)
  else if labels.length < 3 then .error (.malformed .polygonSize)
  else .ok labels

/-- The labels of the points of an angle: first arm, vertex, second arm. -/
def angleLabels (declaration : Declaration) : Except Fault (String × String × String) :=
  match declaration.argument? "p1", declaration.argument? "p2", declaration.argument? "p3" with
  | some p1, some p2, some p3 => .ok (p1, p2, p3)
  | none, none, none => do
      let name ← requiredName declaration
      match labels name with
      | [a, b, c] => .ok (a, b, c)
      | _ => .error (.malformed (.angleName name))
  | _, _, _ => .error (.malformed .angleHalfGiven)

def allDistinct : List PointId → Bool
  | [] => true
  | id :: ids => !ids.contains id && allDistinct ids

/-! ## Effects -/

def constrain (registry : Registry α) (shape : ShapeRef) (points : List PointId) : Registry α :=
  points.foldl (fun registry id => registry.modifyPoint id (Point.addConstraint shape)) registry

/-- Let the points of a shape lie on it, and say which entities these are. -/
def touchShape (registry : Registry α) (shape : ShapeRef) : Effect α :=
  let points := registry.definingPoints shape
  (.ok (shape.entity :: points.map .point), constrain registry shape points)

def recordPoint (position : Option (Vec α)) (shape : Option ShapeRef) (random : Bool)
    (point : Point α) : Point α :=
  let placed :=
    match position with
    | some position => point.place position
    | none => point
  let lying :=
    match shape with
    | some shape => placed.addLiesOn shape
    | none => placed
  if random then { lying with random := true } else lying

def declarePoint [Scalar α] (registry : Registry α) (declaration : Declaration) : Effect α :=
  let read : Except Fault (String × Option (Vec α) × Option ShapeRef) := do
    let name ← requiredName declaration
    let position ← keywordPosition declaration
    let shape ← declaredShape registry declaration
    return (name, position, shape)
  match read with
  | .error fault => (.error fault, registry)
  | .ok (name, position, shape) =>
      let (id, registry) := registry.enterPoint name
      (.ok [.point id],
        registry.modifyPoint id (recordPoint position shape (declaration.hasFlag "random")))

/-- Declare a line. A line with the same endpoints is the same line. -/
def declareLine (registry : Registry α) (declaration : Declaration) : Effect α :=
  match endpointLabels declaration with
  | .error fault => (.error fault, registry)
  | .ok (first, second) =>
      let (a, registry) := registry.enterPoint first
      let (b, registry) := registry.enterPoint second
      if a = b then
        (.error (.malformed .lineDegenerate), registry)
      else
        match registry.findLine? a b with
        | some id => touchShape registry (.line id)
        | none =>
            let name := newName declaration "p1" (sortedName first second)
            match registry.enter .line name with
            | ((_, false), registry) => (.error (.malformed (.lineTaken name)), registry)
            | ((index, true), registry) =>
                let join (line : Line) : Line := { line with p1 := some a, p2 := some b }
                touchShape (registry.modifyLine ⟨index⟩ join) (.line ⟨index⟩)

def circleEntities (registry : Registry α) (id : CircleId) : List EntityRef :=
  match registry.circle? id with
  | none => [.circle id]
  | some circle =>
      .circle id :: (circle.boundary.map .point ++ (circle.center.map EntityRef.point).toList)

/-- Give a new circle the boundary points that a name with three letters labels. -/
def enterBoundary (registry : Registry α) (id : CircleId) (name : String) : Registry α :=
  match labels name with
  | [first, second, third] =>
      let (a, registry) := registry.enterPoint first
      let (b, registry) := registry.enterPoint second
      let (c, registry) := registry.enterPoint third
      let registry := constrain registry (.circle id) [a, b, c]
      registry.modifyCircle id fun circle =>
        { circle with p1 := some a, p2 := some b, p3 := some c }
  | _ => registry

/-- Give a new circle the center that is declared, if one is. -/
def enterCenter (registry : Registry α) (id : CircleId) : Option String → Registry α
  | none => registry
  | some name =>
      let (center, registry) := registry.enterPoint name
      registry.modifyCircle id fun circle => { circle with center := some center }

/-- Give a new circle the radius that is declared, or else the one that can already be
measured. -/
def enterRadius [Scalar α] (registry : Registry α) (id : CircleId) :
    Option (DeclaredRadius α) → Registry α
  | some (.literal value) =>
      registry.modifyCircle id fun circle => { circle with radius := some (.literal value) }
  | some (.between first second) =>
      let (a, registry) := registry.enterPoint first
      let (b, registry) := registry.enterPoint second
      registry.modifyCircle id fun circle => { circle with radius := some (.between a b) }
  | none =>
      match (registry.circle? id).bind registry.circleRadius? with
      | some value =>
          registry.modifyCircle id fun circle => { circle with radius := some (.literal value) }
      | none => registry

/-- Read the radius that is declared, if one is. -/
def declaredRadius [Scalar α] (declaration : Declaration) :
    Except Fault (Option (DeclaredRadius α)) :=
  match declaration.argument? "radius" with
  | none => .ok none
  | some value => (readRadius value).map some

/-- Declare a circle. Only the first declaration of a circle counts. -/
def declareCircle [Scalar α] (registry : Registry α) (declaration : Declaration) : Effect α :=
  match requiredName declaration with
  | .error fault => (.error fault, registry)
  | .ok name =>
      match registry.index? .circle name with
      | some index => (.ok (circleEntities registry ⟨index⟩), registry)
      | none =>
          match declaredRadius declaration with
          | .error fault => (.error fault, registry)
          | .ok radius =>
              let ((index, _), registry) := registry.enter .circle name
              let registry := enterBoundary registry ⟨index⟩ name
              let registry := enterCenter registry ⟨index⟩ (declaration.argument? "center")
              let registry := enterRadius registry ⟨index⟩ radius
              (.ok (circleEntities registry ⟨index⟩), registry)

/-- Declare a polygon, or a triangle. A polygon with the same vertices is the same polygon. -/
def declarePolygon (registry : Registry α) (declaration : Declaration) (triangle : Bool) :
    Effect α :=
  match vertexLabels declaration triangle with
  | .error fault => (.error fault, registry)
  | .ok labels =>
      let (vertices, registry) := registry.enterPoints labels
      if allDistinct vertices then
        match registry.findPolygon? vertices with
        | some id => touchShape registry (.polygon id)
        | none =>
            let name := newName declaration "points" (String.join labels)
            match registry.enter .polygon name with
            | ((_, false), registry) => (.error (.malformed (.polygonTaken name)), registry)
            | ((index, true), registry) =>
                let label := if triangle then some ("triangle " ++ name) else none
                let complete (polygon : Polygon) : Polygon :=
                  { polygon with vertices, label }
                touchShape (registry.modifyPolygon ⟨index⟩ complete) (.polygon ⟨index⟩)
      else
        (.error (.malformed .polygonDegenerate), registry)

def declareCenter (registry : Registry α) (declaration : Declaration) : Effect α :=
  let read : Except Fault (String × CircleId) := do
    let name ← requiredName declaration
    match declaration.argument? "circle" with
    | none => .error (.malformed .missingCircle)
    | some circle =>
        match registry.index? .circle circle with
        | none => .error (.undefined ("circle " ++ circle))
        | some index => .ok (name, ⟨index⟩)
  match read with
  | .error fault => (.error fault, registry)
  | .ok (name, circle) =>
      let (center, registry) := registry.enterPoint name
      (.ok [.point center],
        registry.modifyCircle circle fun circle => { circle with center := some center })

/-- Declare an angle. An angle with the same vertex and arms is the same angle. -/
def declareAngle (registry : Registry α) (declaration : Declaration) : Effect α :=
  match angleLabels declaration with
  | .error fault => (.error fault, registry)
  | .ok (first, second, third) =>
      let (p1, registry) := registry.enterPoint first
      let (vertex, registry) := registry.enterPoint second
      let (p3, registry) := registry.enterPoint third
      let entities (id : AngleId) : List EntityRef :=
        [.angle id, .point p1, .point vertex, .point p3]
      if p1 = vertex || p3 = vertex || p1 = p3 then
        (.error (.malformed .angleDegenerate), registry)
      else
        match registry.findAngle? p1 vertex p3 with
        | some id => (.ok (entities id), registry)
        | none =>
            let name := newName declaration "p1" (first ++ second ++ third)
            match registry.enter .angle name with
            | ((_, false), registry) => (.error (.malformed (.angleTaken name)), registry)
            | ((index, true), registry) =>
                let complete (angle : Angle α) : Angle α :=
                  { angle with
                    p1 := some p1
                    vertex := some vertex
                    p3 := some p3
                    big := declaration.hasFlag "big" }
                (.ok (entities ⟨index⟩), registry.modifyAngle ⟨index⟩ complete)

def declareLoc [Scalar α] (registry : Registry α) (declaration : Declaration) : Effect α :=
  let read : Except Fault (String × Vec α) := do
    let name ← requiredName declaration
    let x ← coordinate declaration 0 "x"
    let y ← coordinate declaration 1 "y"
    return (name, ⟨x, y⟩)
  match read with
  | .error fault => (.error fault, registry)
  | .ok (name, position) =>
      let (id, registry) := registry.enterPoint name
      (.ok [.point id], registry.modifyPoint id (·.place position))

/-- Give the main entity of a declaration the color that is declared, if one is. -/
def paint (declaration : Declaration) : Effect α → Effect α
  | (.error fault, registry) => (.error fault, registry)
  | (.ok [], registry) => (.ok [], registry)
  | (.ok (main :: others), registry) =>
      match declaration.argument? "color" with
      | none => (.ok (main :: others), registry)
      | some value =>
          match Rgba.read? value with
          | none => (.error (.invalidColor value), registry)
          | some color => (.ok (main :: others), registry.setColor color main)

inductive Outcome where
  | entities (touched : List EntityRef)
  | step
  | clear
deriving DecidableEq, Repr

/-- The outcome of an effect on entities, or the error that it says. -/
def Effect.outcome (declaration : Declaration) :
    Effect α → Except Error Outcome × Registry α
  | (.ok touched, registry) => (.ok (.entities touched), registry)
  | (.error fault, registry) => (.error (.inDeclaration fault declaration), registry)

def apply [Scalar α] (registry : Registry α) (declaration : Declaration) :
    Except Error Outcome × Registry α :=
  let finish (effect : Effect α) := (paint declaration effect).outcome declaration
  match DeclarationKind.ofName? declaration.kind with
  | none => (.error (.inDeclaration .unknownKind declaration), registry)
  | some .point => finish (declarePoint registry declaration)
  | some .line => finish (declareLine registry declaration)
  | some .circle => finish (declareCircle registry declaration)
  | some .polygon => finish (declarePolygon registry declaration false)
  | some .triangle => finish (declarePolygon registry declaration true)
  | some .center => finish (declareCenter registry declaration)
  | some .angle => finish (declareAngle registry declaration)
  | some .loc => finish (declareLoc registry declaration)
  | some .step => (.ok .step, registry)
  | some .clear => (.ok .clear, registry)
  | some .definitions => finish (.ok [], registry)

end FigureMarkup.Construction
