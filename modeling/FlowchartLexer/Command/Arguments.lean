/-
The command line: which words make which request.

The only command lists a source. Its options may stand before or after the file; a value may follow its option as the
next word, behind an equals sign or, for the short option, at once. No word has a shorter form, nothing may be given
twice, and `--` ends the options.
-/
import FlowchartLexer.Listing

namespace FlowchartLexer.Command

/-- where a source is read from -/
inductive Input where
  | standardInput
  | file (path : Text)
  deriving DecidableEq, Repr

/-- what to list, from where and in which format -/
structure Options where
  input : Input
  mode : ListingMode
  format : ListingFormat
  deriving DecidableEq, Repr

/-- what the command line asks for -/
inductive Request where
  | list (o : Options)
  | version
  | help
  deriving DecidableEq, Repr

/-! ## Words -/

/-- what a word on the command line looks like -/
inductive Word where
  /-- the end of the options -/
  | endOfOptions
  /-- a long option, with the value behind an equals sign -/
  | long (name : Text) (value : Option Text)
  /-- a short option and what follows it at once -/
  | short (name : Char) (rest : Text)
  /-- anything else; a single hyphen is a file name -/
  | operand (t : Text)
  deriving DecidableEq, Repr

namespace Word

/-- what a word looks like -/
def ofText : Text → Word
  | ['-', '-'] => .endOfOptions
  | '-' :: '-' :: t =>
    .long (t.takeWhile (· ≠ '='))
      (match t.dropWhile (· ≠ '=') with
        | [] => none
        | _ :: v => some v)
  | '-' :: c :: t => .short c t
  | t => .operand t

end Word

/-! ## The options of a listing -/

/-- what the words have said so far -/
structure Draft where
  input : Option Text
  segments : Bool
  format : Option ListingFormat
  deriving DecidableEq, Repr

namespace Draft

/-- nothing has been said -/
def empty : Draft :=
  ⟨none, false, none⟩

/-- what was not said takes its default -/
def options (d : Draft) : Options where
  input :=
    match d.input with
    | none => .standardInput
    | some ['-'] => .standardInput
    | some path => .file path
  mode := if d.segments then .segments else .tokens
  format := d.format.getD .text

/-- a file name; there is one at most, and it is not empty -/
def setInput? (d : Draft) (t : Text) : Option Draft :=
  if d.input.isSome || t.isEmpty then none else some { d with input := some t }

/-- segments instead of tokens; said once at most -/
def setSegments? (d : Draft) : Option Draft :=
  if d.segments then none else some { d with segments := true }

/-- a format; said once at most -/
def setFormat? (d : Draft) (t : Text) : Option Draft :=
  if d.format.isSome then none else (ListingFormat.ofName? t).map fun f => { d with format := some f }

end Draft

/-- the words behind the end of the options -/
def readOperands (d : Draft) : List Text → Option Request
  | [] => some (.list d.options)
  | t :: ts =>
    match d.setInput? t with
    | none => none
    | some d => readOperands d ts

/-- the words of a listing command; without an answer they make no sense -/
def readOptions (d : Draft) : List Text → Option Request
  | [] => some (.list d.options)
  | t :: ts =>
    match Word.ofText t with
    | .endOfOptions => readOperands d ts
    | .operand t =>
      match d.setInput? t with
      | none => none
      | some d => readOptions d ts
    | .short 'h' _ => some .help
    | .short 'f' ('=' :: v) => readFormat v ts
    | .short 'f' (c :: v) => readFormat (c :: v) ts
    | .short 'f' [] => readValue ts
    | .short _ _ => none
    | .long name value =>
      if name = "segments".toList && value.isNone then
        match d.setSegments? with
        | none => none
        | some d => readOptions d ts
      else if name = "format".toList then
        match value with
        | some v => readFormat v ts
        | none => readValue ts
      else if name = "help".toList && value.isNone then some .help
      else none
where
  /-- a format and the words behind it -/
  readFormat (v : Text) (ts : List Text) : Option Request :=
    match d.setFormat? v with
    | none => none
    | some d => readOptions d ts
  /-- a format that is a word of its own, and the words behind it -/
  readValue : List Text → Option Request
    | [] => none
    | v :: ts =>
      match Word.ofText v with
      | .operand v => readFormat v ts
      | _ => none

/-! ## The whole command line -/

/-- the request that the words make; without an answer they make no sense -/
def readCommandLine : List Text → Option Request
  | [] => none
  | t :: ts =>
    if t = "tokens".toList then readOptions .empty ts
    else if t = "help".toList then
      if ts = [] || ts = ["tokens".toList] || ts = ["help".toList] then some .help else none
    else
      match Word.ofText t with
      | .short 'V' _ => some .version
      | .short 'h' _ => some .help
      | .long name none =>
        if name = "version".toList then some .version
        else if name = "help".toList then some .help
        else none
      | _ => none

end FlowchartLexer.Command
