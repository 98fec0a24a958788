/-
Running the command: from the request and the source to what is printed.

A source that cannot be read, or that has a lexical error, is reported on the error stream and nothing is listed. What
the reader of the command line says in its own words, about the use of the program or about words that make no sense, is
not part of an outcome.
-/
import FlowchartLexer.Command.Arguments
import FlowchartLexer.Text.Width

namespace FlowchartLexer.Command

/-- why a source cannot be read -/
inductive ReadError where
  | notFound
  | isDirectory
  | notDirectory
  | invalidEncoding
  | other (details : Text)
  deriving DecidableEq, Repr

/-- what a run prints, and its exit code -/
structure Outcome where
  exitCode : Nat
  output : Text
  errors : Text
  deriving DecidableEq, Repr

namespace ReadError

def message : ReadError → Text
  | .notFound => "No such file or directory (os error 2)".toList
  | .isDirectory => "Is a directory (os error 21)".toList
  | .notDirectory => "Not a directory (os error 20)".toList
  | .invalidEncoding => "stream did not contain valid UTF-8".toList
  | .other details => details

end ReadError

namespace Input

/-- the name of a file, as it was given -/
def fileName? : Input → Option Text
  | .standardInput => none
  | .file path => some path

/-- an error in reading, with the name of the file -/
def describe (i : Input) (e : ReadError) : Text :=
  match i with
  | .standardInput => e.message
  | .file path => path ++ ": ".toList ++ e.message

end Input

namespace Outcome

/-- all went well -/
def success (output : Text) : Outcome :=
  ⟨0, output, []⟩

/-- the source was at fault -/
def failure (message : Text) : Outcome :=
  ⟨1, [], "Error: ".toList ++ message ++ ['\n']⟩

/-- the command line was at fault -/
def misuse : Outcome :=
  ⟨2, [], []⟩

end Outcome

/-- bytes as a text -/
def decode (b : ByteArray) : Except ReadError Text :=
  match String.fromUTF8? b with
  | some s => .ok s.toList
  | none => .error .invalidEncoding

/-- a listing of a source, or what is wrong with it -/
def Options.list (o : Options) (source : Text) : Outcome :=
  match listingItems source o.mode with
  | .ok items => .success (writeListing items o.format)
  | .error e => .failure ((e.diagnostic source o.input.fileName?).render displayWidth)

/-- a listing of what was read, if it could be read -/
def Options.run (o : Options) (contents : Except ReadError ByteArray) : Outcome :=
  match contents.bind decode with
  | .ok source => o.list source
  | .error e => .failure (o.input.describe e)

/-- the name and version of the program -/
def version : Text :=
  "flowlex 0.1.0\n".toList

/-- the outcome of a command line, given what reading each input yields -/
def run (read : Input → Except ReadError ByteArray) (words : List Text) : Outcome :=
  match readCommandLine words with
  | none => .misuse
  | some .version => .success version
  | some .help => .success []
  | some (.list o) => o.run (read o.input)

end FlowchartLexer.Command
