import FigureMarkup.CommandLine.Program

/-!
# The program on files

Here the program meets the files and streams of the operating system.
-/

namespace FigureMarkup.CommandLine

def describe (error : IO.Error) : String :=
  match error with
  | .noFileOrDirectory .. => "No such file or directory (os error 2)"
  | .permissionDenied .. => "Permission denied (os error 13)"
  | .inappropriateType _ 20 _ => "Not a directory (os error 20)"
  | .inappropriateType .. => "Is a directory (os error 21)"
  | error => toString error

def decode (bytes : ByteArray) : Except String String :=
  match String.fromUTF8? bytes with
  | some text => .ok text
  | none => .error "stream did not contain valid UTF-8"

def attempt {β : Type} (action : IO β) : IO (Except String β) := do
  match ← action.toBaseIO with
  | .ok result => return .ok result
  | .error error => return .error (describe error)

def readAll (stream : IO.FS.Stream) : IO ByteArray := do
  let mut bytes := ByteArray.empty
  let mut reading := true
  while reading do
    let block ← stream.read 65536
    bytes := bytes ++ block
    reading := !block.isEmpty
  return bytes

def word (bytes : ByteArray) : UInt64 :=
  bytes.foldl (fun word byte => 256 * word + byte.toUInt64) 0

def system : Host IO where
  load path := return (← attempt (IO.FS.readBinFile path)).bind decode
  loadInput := return (← attempt (do readAll (← IO.getStdin))).bind decode
  save path text := attempt (IO.FS.writeFile path text)
  freshSeed := return word (← IO.getRandomBytes 8)

end FigureMarkup.CommandLine

def main (arguments : List String) : IO UInt32 := do
  let response ← FigureMarkup.CommandLine.run FigureMarkup.CommandLine.system arguments
  IO.print response.output
  IO.eprint response.errors
  return response.code
