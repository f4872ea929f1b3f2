import Scaffold.Command.Run

/-!
# The program

Reads the files that the arguments name, runs, and prints the outcome.
-/

namespace Scaffold.Command

/-- The number of an error of the system. Some calls give it with its sign changed. -/
def errorNumber (code : UInt32) : Nat := min code.toNat (-code).toNat

/-- Why a file was not read. -/
def fileError : IO.Error → File.Error
  | .noFileOrDirectory _ code name | .interrupted _ code name | .alreadyExists _ code name
  | .invalidArgument _ code name | .permissionDenied _ code name | .resourceExhausted _ code name
  | .inappropriateType _ code name | .noSuchThing _ code name | .otherError code name
  | .resourceBusy code name | .resourceVanished code name | .unsupportedOperation code name
  | .hardwareFault code name | .unsatisfiedConstraints code name | .illegalOperation code name
  | .protocolError code name | .timeExpired code name => .ofNumber (errorNumber code) name
  | .unexpectedEof => .system 0 "end of file"
  | .userError name => .system 0 name

/-- The bytes of the files that arguments may name. A value that is attached to its switch counts as
an argument of its own. -/
def readFiles (arguments : List String) :
    IO (List (String × Except File.Error (List UInt8))) := do
  let attached := arguments.filterMap fun a => (Piece.splitEquals? a.toList).map (·.2)
  (arguments ++ attached).mapM fun (path : String) => do
    try
      let bytes ← IO.FS.readBinFile path
      return (path, .ok bytes.toList)
    catch e => return (path, .error (fileError e))

end Scaffold.Command

open Scaffold

def main (arguments : List String) : IO UInt32 := do
  let files ← Command.readFiles arguments
  let opener (path : String) := (files.lookup path).getD (.error .missing)
  match Command.run opener arguments with
  | .ok outcome =>
    IO.print outcome.out
    IO.eprint outcome.err
    return outcome.exit.toUInt32
  | .error crash =>
    IO.eprintln crash.message
    return 1
