import Std.Time.DateTime.Timestamp
import TrafficChart.Program.Run

/-!
# The command

The program on the real machine.
-/

namespace TrafficChart.Program

/-- The number of an error. Some operations give it with a minus sign, as a word. -/
def errorNumber (code : UInt32) : UInt32 := if 2147483648 ≤ code then 0 - code else code

/-- The fault of a file operation. -/
def fileErrorOf : IO.Error → FileError
  | .noFileOrDirectory .. => .notFound
  | .inappropriateType _ code details | .invalidArgument _ code details =>
    match errorNumber code with
    | 20 => .notFolder
    | 21 => .isFolder
    | 36 => .nameTooLong
    | number => .other s!"{details} (os error {number})"
  | .permissionDenied _ code details =>
    match errorNumber code with
    | 13 => .other "Permission denied (os error 13)"
    | number => .other s!"{details} (os error {number})"
  | e => .other (toString e)

instance : Host IO where
  readFile path := do
    try
      return .ok (← IO.FS.readBinFile path)
    catch e =>
      match fileErrorOf e with
      | .isFolder => return .error (.reading .isFolder)
      | cause => return .error (.opening cause)
  makeFolders path := do
    try IO.FS.createDirAll path catch _ => pure ()
  writeFile path text := do
    try
      IO.FS.writeFile path text
      return .ok ()
    catch e => return .error (fileErrorOf e)
  printLine := IO.println
  now := do
    let stamp ← Std.Time.Timestamp.now
    return Int64.ofInt stamp.toMillisecondsSinceUnixEpoch.val

end TrafficChart.Program

open TrafficChart TrafficChart.Program in
def main (arguments : List String) : IO UInt32 := do
  let width ← IO.getEnv widthVariable
  let height ← IO.getEnv heightVariable
  match ← (run ⟨arguments, width, height⟩ : ExceptT (Stop Failure) IO Unit).run with
  | .ok _ => return 0
  | .error (.refused e) =>
    IO.eprint (report e.chain)
    return 1
  | .error (.overflow operation) =>
    IO.eprintln operation.message
    return 101
