/-
The command: it reads the source from a file or from standard input, and prints the listing.
-/
import FlowchartLexer.Command.Run

namespace FlowchartLexer.Command

/-- why the system could not read a file; the wrong type is a directory (error 21) or a file used as one -/
def readErrorOf : IO.Error → ReadError
  | .noFileOrDirectory .. => .notFound
  | .inappropriateType _ code _ => if code = 21 then .isDirectory else .notDirectory
  | e => .other (toString e).toList

/-- all bytes of an input -/
def readInput (i : Input) : IO (Except ReadError ByteArray) := do
  try
    match i with
    | .standardInput => return .ok (← (← IO.getStdin).readBinToEnd)
    | .file path => return .ok (← IO.FS.readBinFile (String.ofList path))
  catch e => return .error (readErrorOf e)

end FlowchartLexer.Command

open FlowchartLexer.Command in
/-- run the command -/
def main (args : List String) : IO UInt32 := do
  let words := args.map String.toList
  let contents ←
    match readCommandLine words with
    | some (.list o) => readInput o.input
    | _ => pure (.ok .empty)
  let outcome := run (fun _ => contents) words
  (← IO.getStdout).putStr (String.ofList outcome.output)
  (← IO.getStderr).putStr (String.ofList outcome.errors)
  return outcome.exitCode.toUInt32
