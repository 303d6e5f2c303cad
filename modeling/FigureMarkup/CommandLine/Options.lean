/-!
# Options of the command line

The arguments of the program are options and the name of one file, in any order. An option has a
long name and perhaps a short one; short names can stand together behind one dash. The value of an
option is the next argument, or follows the name directly. After two dashes there are only files.
-/

namespace FigureMarkup.CommandLine

structure Options where
  input : Option String
  output : Option String
  palette : Option String
  seed : Option UInt64
  html : Bool
  svg : Bool
  verbosity : Nat
deriving DecidableEq, Repr

def Options.empty : Options := ⟨none, none, none, none, false, false, 0⟩

inductive Request where
  | help
  | compile (options : Options)
deriving DecidableEq, Repr

inductive Switch where
  | html
  | svg
  | verbose
  | help
deriving DecidableEq, Repr

inductive Setting where
  | output
  | palette
  | seed
deriving DecidableEq, Repr

def Switch.name : Switch → String
  | .html => "--html"
  | .svg => "--svg"
  | .verbose => "--verbose"
  | .help => "--help"

def Setting.name : Setting → String
  | .output => "--output"
  | .palette => "--palette"
  | .seed => "--seed"

inductive OptionName where
  | switch (switch : Switch)
  | setting (setting : Setting)
deriving DecidableEq, Repr

/-- The option with a long name. Names cannot be abbreviated. -/
def OptionName.ofLong? (name : String) : Option OptionName :=
  match [Switch.html, .svg, .verbose, .help].find? (·.name == name) with
  | some found => some (.switch found)
  | none => ([Setting.output, .palette, .seed].find? (·.name == name)).map .setting

def OptionName.ofShort? : Char → Option OptionName
  | 'o' => some (.setting .output)
  | 'p' => some (.setting .palette)
  | 'v' => some (.switch .verbose)
  | 'h' => some (.switch .help)
  | _ => none

inductive UsageError where
  | unexpected (argument : String)
  | unwantedValue (option : String)
  | missingValue (option : String)
  | invalidValue (option value : String)
  | repeated (option : String)
  | conflict (first second : String)
deriving DecidableEq, Repr

def UsageError.message : UsageError → String
  | .unexpected argument => "unexpected argument '" ++ argument ++ "'"
  | .unwantedValue option => "the option '" ++ option ++ "' takes no value"
  | .missingValue option => "the option '" ++ option ++ "' needs a value"
  | .invalidValue option value => "invalid value '" ++ value ++ "' for '" ++ option ++ "'"
  | .repeated option => "the option '" ++ option ++ "' cannot stand twice"
  | .conflict first second => "the option '" ++ first ++ "' excludes '" ++ second ++ "'"

/-! ## Items -/

inductive Item where
  | switch (switch : Switch)
  | setting (setting : Setting) (value : String)
  | file (name : String)
  | fault (error : UsageError)
deriving DecidableEq, Repr

/-- Decide whether an argument can be the value of the option before it. -/
def canBeValue (argument : String) : Bool :=
  match argument.toList with
  | '-' :: _ :: _ => false
  | _ => true

/-- Read an argument that starts with two dashes. The second part of the answer is the option that
takes the next argument as its value. -/
def longItems (argument : String) : List Item × Option Setting :=
  let (name, value) := argument.toList.span (· != '=')
  match OptionName.ofLong? (String.ofList name), value with
  | none, _ => ([.fault (.unexpected argument)], none)
  | some (.switch switch), [] => ([.switch switch], none)
  | some (.switch switch), _ :: _ => ([.fault (.unwantedValue switch.name)], none)
  | some (.setting setting), [] => ([], some setting)
  | some (.setting setting), _ :: value => ([.setting setting (String.ofList value)], none)

/-- Read short names behind one dash. The second part of the answer is the option that takes the
next argument as its value. -/
def shortItems (argument : String) : List Char → List Item × Option Setting
  | [] => ([], none)
  | c :: rest =>
      match OptionName.ofShort? c, rest with
      | none, _ => ([.fault (.unexpected argument)], none)
      | some (.switch switch), _ =>
          let (items, pending) := shortItems argument rest
          (.switch switch :: items, pending)
      | some (.setting setting), [] => ([], some setting)
      | some (.setting setting), '=' :: value => ([.setting setting (String.ofList value)], none)
      | some (.setting setting), value => ([.setting setting (String.ofList value)], none)

/-- Read arguments, the first of which is the value of an option that is still pending. -/
def itemsFrom (pending : Option Setting) : List String → List Item
  | [] => pending.toList.map fun setting => .fault (.missingValue setting.name)
  | argument :: rest =>
      match pending with
      | some setting =>
          if canBeValue argument then .setting setting argument :: itemsFrom none rest
          else [.fault (.missingValue setting.name)]
      | none =>
          match argument.toList with
          | ['-', '-'] => rest.map .file
          | '-' :: '-' :: _ =>
              let (items, pending) := longItems argument
              items ++ itemsFrom pending rest
          | '-' :: c :: names =>
              let (items, pending) := shortItems argument (c :: names)
              items ++ itemsFrom pending rest
          | _ => .file argument :: itemsFrom none rest

/-! ## Options of items -/

/-- Read a seed: a whole number below two to the sixty-fourth, perhaps after a plus sign. -/
def seed? (text : String) : Option UInt64 :=
  let digits :=
    match text.toList with
    | '+' :: rest => rest
    | digits => digits
  if digits.isEmpty || !digits.all Char.isDigit then
    none
  else
    let value := digits.foldl (fun value c => 10 * value + (c.toNat - '0'.toNat)) 0
    if value < UInt64.size then some (UInt64.ofNat value) else none

def giveOnce {β : Type} (option : String) (earlier : Option β) (value : β) :
    Except UsageError (Option β) :=
  match earlier with
  | some _ => .error (.repeated option)
  | none => .ok (some value)

/-- Give a file to what has none yet. Files have names. -/
def giveFile (option : String) (earlier : Option String) (file : String) :
    Except UsageError (Option String) :=
  if file.isEmpty then .error (.missingValue option) else giveOnce option earlier file

def turnOn (option : String) (earlier : Bool) : Except UsageError Bool :=
  if earlier then .error (.repeated option) else .ok true

namespace Options

def withSetting (options : Options) (setting : Setting) (value : String) :
    Except UsageError Options :=
  match setting with
  | .output =>
      (giveFile setting.name options.output value).map fun output => { options with output }
  | .palette =>
      (giveFile setting.name options.palette value).map fun palette => { options with palette }
  | .seed =>
      match seed? value with
      | some seed =>
          (giveOnce setting.name options.seed seed).map fun seed => { options with seed }
      | none => .error (.invalidValue setting.name value)

/-- Record a file. There can be only one. -/
def withFile (options : Options) (file : String) : Except UsageError Options :=
  if options.input.isSome then .error (.unexpected file)
  else (giveFile "FILE" options.input file).map fun input => { options with input }

def complete (options : Options) : Except UsageError Request :=
  if options.html && options.svg then .error (.conflict Switch.html.name Switch.svg.name)
  else .ok (.compile options)

/-- Record items in order, up to the first one that is wrong or asks for help. -/
def withItems (options : Options) : List Item → Except UsageError Request
  | [] => options.complete
  | .fault error :: _ => .error error
  | .switch .help :: _ => .ok .help
  | .switch .verbose :: items =>
      { options with verbosity := options.verbosity + 1 }.withItems items
  | .switch .html :: items => do
      let html ← turnOn Switch.html.name options.html
      { options with html }.withItems items
  | .switch .svg :: items => do
      let svg ← turnOn Switch.svg.name options.svg
      { options with svg }.withItems items
  | .setting setting value :: items => do
      let options ← options.withSetting setting value
      options.withItems items
  | .file name :: items => do
      let options ← options.withFile name
      options.withItems items

end Options

def Request.read (arguments : List String) : Except UsageError Request :=
  Options.empty.withItems (itemsFrom none arguments)

end FigureMarkup.CommandLine
