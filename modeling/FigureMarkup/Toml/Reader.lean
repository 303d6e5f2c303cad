import FigureMarkup.Toml.Text

/-!
# Reading TOML documents

Values, and the lines of a document: headers, which say where the following values go, and keys
with their values. A document either reads as a table or it does not; what is wrong with it is not
said.
-/

namespace FigureMarkup.Toml

/-- Read the items of an array after its opening bracket. The limit is the length of the text. -/
def arrayItems (item : Reader Value) : Nat → Reader (List Value)
  | 0, _ => none
  | limit + 1, text =>
      match skipGap text with
      | ']' :: rest => some ([], rest)
      | text =>
          (item text).bind fun (value, rest) =>
            match skipGap rest with
            | ',' :: rest =>
                (arrayItems item limit rest).map fun (values, rest) => (value :: values, rest)
            | ']' :: rest => some ([value], rest)
            | _ => none

/-- Read a key, an equals sign and a value. -/
def keyAndValue (item : Reader Value) : Reader ((List String × String) × Value) := fun text => do
  let (name, rest) ← key text
  let ((), rest) ← sign '=' rest
  let (value, rest) ← item (skipSpace rest)
  return ((name, value), rest)

/-- Read the members of a table in braces, adding to those before. The limit is the length of the
text. -/
def bracedMembers (item : Reader Value) : Nat → Members → Reader Members
  | 0, _, _ => none
  | limit + 1, members, text => do
      let (((path, last), value), rest) ← keyAndValue item text
      let members ← members.insertDotted (· == .dotted) last value path
      match skipSpace rest with
      | ',' :: rest => bracedMembers item limit members rest
      | '\x7d' :: rest => return (members, rest)
      | _ => none

def mostNested : Nat := 79

/-- Read a value, nested no more deeply than a number of steps. -/
def value : Nat → Reader Value
  | depth, text =>
      match text with
      | '"' :: _ | '\'' :: _ => (string text).map fun (content, rest) => (.string content, rest)
      | '[' :: rest =>
          match depth with
          | 0 => none
          | depth + 1 =>
              (arrayItems (value depth) (rest.length + 1) rest).map fun (items, rest) =>
                (.array items, rest)
      | '\x7b' :: rest =>
          match depth with
          | 0 => none
          | depth + 1 =>
              match skipSpace rest with
              | '\x7d' :: rest => some (.table .braces [], rest)
              | _ =>
                  (bracedMembers (value depth) (rest.length + 1) [] rest).map
                    fun (members, rest) => (.table .braces members, rest)
      | 't' :: 'r' :: 'u' :: 'e' :: rest => some (.boolean true, rest)
      | 'f' :: 'a' :: 'l' :: 's' :: 'e' :: rest => some (.boolean false, rest)
      | _ => if startsMoment text then moment text else number text

structure Document where
  root : Members
  header : List String

/-- Read the header of a table, after its opening bracket. -/
def Document.tableHeader (document : Document) : Reader Document := fun text => do
  let ((path, last), rest) ← key text
  let ((), rest) ← sign ']' rest
  let root ← document.root.underHeader (Members.openTable last) path
  return (⟨root, path ++ [last]⟩, rest)

/-- Read the header of one of several tables, after its opening brackets. -/
def Document.tablesHeader (document : Document) : Reader Document := fun text => do
  let ((path, last), rest) ← key text
  let ((), rest) ← sign ']' rest
  let ((), rest) ← sign ']' rest
  let root ← document.root.underHeader (Members.appendTable last) path
  return (⟨root, path ++ [last]⟩, rest)

/-- Read a key and its value, which go under the header. -/
def Document.member (document : Document) : Reader Document := fun text => do
  let (((path, last), value), rest) ← keyAndValue (value mostNested) text
  let insert := Members.insertDotted (fun o => o == .dotted || o == .passed) last value path
  let root ← document.root.underHeader insert document.header
  return ({ document with root := root }, rest)

/-- Read one line that is not empty, up to its end. -/
def Document.line (document : Document) : Reader Document
  | '[' :: '[' :: rest => document.tablesHeader rest
  | '[' :: rest => document.tableHeader rest
  | text => document.member text

/-- Read lines up to the end of a document. The limit is the length of the text. -/
def Document.lines : Nat → Document → List Char → Option Members
  | 0, _, _ => none
  | limit + 1, document, text =>
      match skipSpace text with
      | [] => some document.root
      | '#' :: _ | '\n' :: _ | '\r' :: _ => (finishLine? text).bind (lines limit document)
      | text => do
          let (document, rest) ← document.line text
          let rest ← finishLine? rest
          lines limit document rest

/-- Read a document. It may start with the mark of the byte order. -/
def readDocument (text : String) : Option Members :=
  let text := text.toList
  let text := if text.head? = some '\ufeff' then text.drop 1 else text
  Document.lines (text.length + 1) ⟨[], []⟩ text

end FigureMarkup.Toml
