import JsonShape.Command.Run
import Std.Time.DateTime.Timestamp

/-!
# The program

The outer layer of the program reads the files that a command asks for, runs the command with
`Command.run`, and prints or writes what it leaves.
-/

namespace JsonShape.Main

/-- The fault that an error of the system stands for. -/
def faultOf : IO.Error → FileFault
  | .noFileOrDirectory _ _ _ => .notFound
  | .inappropriateType _ code details =>
    if code = 20 then .notDirectory
    else if code = 21 then .isDirectory
    else .other s!"{details} (os error {code})"
  | .permissionDenied _ code details => .other s!"{details} (os error {code})"
  | error => .other (toString error)

/-- The text of bytes. -/
def textOf (bytes : ByteArray) : Except FileFault String :=
  match String.fromUTF8? bytes with
  | some text => .ok text
  | none => .error .notText

/-- The text of a file. -/
def readFile (path : String) : IO (Except FileFault String) := do
  try return textOf (← IO.FS.readBinFile path) catch error => return .error (faultOf error)

/-- All bytes of a stream. -/
partial def readStream (stream : IO.FS.Stream) (before : ByteArray) : IO ByteArray := do
  let bytes ← stream.read 65536
  if bytes.isEmpty then return before else readStream stream (before ++ bytes)

/-- The milliseconds since the epoch. -/
def clockMs : IO Int := do
  let now := (← Std.Time.Timestamp.now).val
  return now.second.val * 1000 + now.nano.val / 1000000

/-- Print an outcome. -/
def report (outcome : Outcome) : IO UInt32 := do
  IO.print outcome.stdout
  match outcome.stderr? with
  | some text => IO.eprint text
  | none => pure ()
  return UInt32.ofNat outcome.exitCode

end JsonShape.Main

open JsonShape JsonShape.Main in
/-- The program. -/
def main (arguments : List String) : IO UInt32 := do
  match Command.ofArguments arguments with
  | .error stop => report (Command.stopped stop)
  | .ok command =>
    let stdin ←
      if command.readsInput then
        pure (textOf (← readStream (← IO.getStdin) ByteArray.empty))
      else pure (.ok "")
    let files ← command.files.mapM fun path => do return (path, ← readFile path)
    let read (path : String) : Except FileFault String :=
      (files.lookup path).getD (.error .notFound)
    let outcome := command.run ⟨stdin, read⟩ (← clockMs)
    match outcome.output with
    | none => report outcome
    | some (path, text) =>
      try
        IO.FS.writeFile path text
        report outcome
      catch error => report (.ofError (.unwritable path (faultOf error)))
