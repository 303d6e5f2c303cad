import FigureMarkup.Decimal.Numeral

/-!
# TOML values

A TOML document is a table of values under keys. A table remembers how it came about, because
that decides in which ways the rest of the document may still add to it.
-/

namespace FigureMarkup.Toml

inductive Origin where
  /-- It has a header of its own, or it is the document. -/
  | header
  /-- A longer header passes through it. -/
  | passed
  /-- Dotted keys pass through it. -/
  | dotted
  /-- It is written in braces. -/
  | braces
deriving DecidableEq, Repr

inductive Value where
  | string (text : String)
  | integer (value : Int)
  | float (numeral : Decimal.Numeral)
  | boolean (value : Bool)
  /-- A date, a time, or both, as it is written. -/
  | moment (text : String)
  | array (items : List Value)
  | table (origin : Origin) (members : List (String × Value))
  /-- Tables under headers in doubled brackets, latest first. -/
  | tables (items : List (List (String × Value)))

abbrev Members := List (String × Value)

def Members.get? (members : Members) (key : String) : Option Value := members.lookup key

def Members.replace (members : Members) (key : String) (value : Value) : Members :=
  members.map fun member => if member.1 == key then (key, value) else member

def Members.add (members : Members) (key : String) (value : Value) : Members :=
  members ++ [(key, value)]

/-- Change the table under a key, which starts empty with some origin if there is none. `enter`
says whether a table of an origin may be changed, and the last of several tables always may. -/
def Members.descend (members : Members) (key : String) (start : Origin)
    (enter : Origin → Bool) (change : Origin → Members → Option Members) : Option Members :=
  match members.get? key with
  | none => (change start []).map fun table => members.add key (.table start table)
  | some (.table origin table) =>
      if enter origin then
        (change origin table).map fun table => members.replace key (.table origin table)
      else
        none
  | some (.tables (last :: earlier)) =>
      (change .header last).map fun table => members.replace key (.tables (table :: earlier))
  | some _ => none

def Members.insert (key : String) (value : Value) (members : Members) : Option Members :=
  match members.get? key with
  | none => some (members.add key value)
  | some _ => none

/-- Put a value under a new key at the end of a dotted path. `enter` says through tables of which
origins the path may lead. The table at its end takes the key only if dotted keys made it. -/
def Members.insertDotted (enter : Origin → Bool) (key : String) (value : Value) :
    List String → Members → Option Members
  | [], members => members.insert key value
  | [last], members =>
      members.descend last .dotted enter fun origin table =>
        if origin = .dotted then table.insert key value else none
  | step :: path, members =>
      members.descend step .dotted enter fun _ table => insertDotted enter key value path table

def Members.underHeader (change : Members → Option Members) :
    List String → Members → Option Members
  | [], members => change members
  | step :: path, members =>
      members.descend step .passed (· != .braces) fun _ table => underHeader change path table

/-- Open the table of a header. It may exist already if longer headers passed through it. -/
def Members.openTable (key : String) (members : Members) : Option Members :=
  match members.get? key with
  | none => some (members.add key (.table .header []))
  | some (.table .passed table) => some (members.replace key (.table .header table))
  | some _ => none

def Members.appendTable (key : String) (members : Members) : Option Members :=
  match members.get? key with
  | none => some (members.add key (.tables [[]]))
  | some (.tables items) => some (members.replace key (.tables ([] :: items)))
  | some _ => none

end FigureMarkup.Toml
