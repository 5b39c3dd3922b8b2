import LineArithmetic.Command.Run

/-!
# The program

Runs the command on real files and standard streams: the path that the
arguments name is read first, and everything else is `Command.program`.  Standard
input keeps its line breaks.
-/

namespace LineArithmetic.Command

/-- All bytes of a stream, behind those read so far. -/
partial def readAll (stream : IO.FS.Stream) (bytes : ByteArray) : IO ByteArray := do
  let more ← stream.read 65536
  if more.isEmpty then return bytes else readAll stream (bytes ++ more)

/-- The fault that an error of the operating system stands for.  Opening a path
through a file names the path; reading a directory names nothing. -/
def pathFaultOf : IO.Error → PathFault
  | .inappropriateType (some _) .. => .notADirectory
  | .inappropriateType none .. => .isADirectory
  | .invalidArgument .. | .resourceExhausted .. => .nameTooLong
  | _ => .notFound

/-- Reads a file. -/
def readFile (path : String) : IO (Except PathFault (List UInt8)) := do
  try
    let bytes ← IO.FS.readBinFile path
    return .ok bytes.toList
  catch error => return .error (pathFaultOf error)

/-- What `--help` writes. -/
def helpText : String :=
  "usage: " ++ programName ++ " [options] [path]\n\n" ++
    "Compile an expression document and print the value of every line\n"

/-- Writes what the program leaves behind, and says how it ends. -/
def finishProgram (report : Report) : IO UInt32 := do
  (← IO.getStdout).putStr report.output
  let errors ← IO.getStderr
  for record in report.records do
    if record.level ≠ .debug then errors.putStrLn record.text
  errors.putStr report.errors
  match report.failure with
  | none => return report.exitCode.toUInt32
  | some failure =>
    errors.putStrLn failure.message
    return 1

end LineArithmetic.Command

open LineArithmetic.Command in
def main (arguments : List String) : IO UInt32 := do
  match readArguments arguments with
  | .error _ => finishProgram (program (fun _ => .error .notFound) ⟨[], .kept⟩ arguments)
  | .ok a =>
    if a.help then
      (← IO.getStdout).putStr helpText
      return 0
    let path := a.path.getD standardInput
    let fromInput := path = standardInput
    let input ← if fromInput then readAll (← IO.getStdin) ByteArray.empty else pure ByteArray.empty
    let file ← if fromInput then pure (.error .notFound) else readFile path
    finishProgram (program (fun _ => file) ⟨input.toList, .kept⟩ arguments)
