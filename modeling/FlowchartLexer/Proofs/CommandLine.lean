/-
Asking for a listing.

What can be listed can be asked for: the mode and the format have words of their own, and a file may stand behind the
end of the options, where every word is one. So the requests that the results about listings start from are those of
actual command lines, and their sources those of actual inputs.

- `readOptions_segments`, `readOptions_format`, `readOptions_input`: one equation for each kind of word.
- `readCommandLine_words`: every listing can be asked for, if its file has a name other than a hyphen.
- `decode_toUTF8`: every text can be a source.
- `Reads.run_eq`: a run that was asked for a listing and could read the source lists it.
- `Directory.reads_file`, `Directory.reads_standardInput`: so every source can be listed, in every mode and format.
-/
import FlowchartLexer.Command.Directory

namespace FlowchartLexer.Command

/-! ## Words for a listing -/

/-- an input that has words: a hyphen means standard input, and without a word there is no file -/
def Input.HasWords : Input → Prop
  | .standardInput => True
  | .file path => path ≠ [] ∧ path ≠ ['-']

def inputWords : Input → List Text
  | .standardInput => []
  | .file path => ["--".toList, path]

def modeWords : ListingMode → List Text
  | .tokens => []
  | .segments => ["--segments".toList]

def formatWord : ListingFormat → Text
  | .text => "-ftext".toList
  | .json => "-fjson".toList
  | .ndjson => "-fndjson".toList

/-- words that ask for a listing -/
def Options.words (o : Options) : List Text :=
  "tokens".toList :: (modeWords o.mode ++ formatWord o.format :: inputWords o.input)

section

variable {d : Draft}

theorem readOptions_segments (h : d.segments = false) (ts : List Text) :
    readOptions d ("--segments".toList :: ts) = readOptions { d with segments := true } ts := by
  have hword : Word.ofText "--segments".toList = .long "segments".toList none := by decide
  rw [readOptions, hword]
  simp [Draft.setSegments?, h]

/-- the word for a format is a short option with the name of the format behind it -/
theorem ofText_formatWord (f : ListingFormat) :
    ∃ c v, Word.ofText (formatWord f) = .short 'f' (c :: v) ∧ c ≠ '=' ∧ ListingFormat.ofName? (c :: v) = some f := by
  cases f with
  | text => exact ⟨_, _, rfl, by decide, by decide⟩
  | json => exact ⟨_, _, rfl, by decide, by decide⟩
  | ndjson => exact ⟨_, _, rfl, by decide, by decide⟩

theorem readOptions_format (h : d.format = none) (f : ListingFormat) (ts : List Text) :
    readOptions d (formatWord f :: ts) = readOptions { d with format := some f } ts := by
  obtain ⟨c, v, hword, hc, hv⟩ := ofText_formatWord f
  rw [readOptions, hword]
  simp [readOptions.readFormat, Draft.setFormat?, h, hv]

theorem readOptions_input (h : d.input = none) {i : Input} (hi : i.HasWords) :
    readOptions d (inputWords i) = some (.list { d.options with input := i }) := by
  cases i with
  | standardInput =>
    rw [inputWords, readOptions]
    simp [Draft.options, h]
  | file path =>
    obtain ⟨hpath, hhyphen⟩ := hi
    have hword : Word.ofText "--".toList = .endOfOptions := by decide
    rw [inputWords, readOptions, hword]
    -- by `hhyphen` the path is not the one that is taken for standard input
    simp [readOperands, Draft.setInput?, Draft.options, h, hpath]

end

/-- **Every listing can be asked for**, if its input has words. -/
theorem readCommandLine_words {o : Options} (h : o.input.HasWords) : readCommandLine o.words = some (.list o) := by
  obtain ⟨input, mode, format⟩ := o
  rw [Options.words, readCommandLine, if_pos rfl]
  cases mode with
  | tokens =>
    show readOptions .empty (formatWord format :: inputWords input) = _
    rw [readOptions_format rfl, readOptions_input rfl h]
    rfl
  | segments =>
    show readOptions .empty ("--segments".toList :: formatWord format :: inputWords input) = _
    rw [readOptions_segments rfl, readOptions_format rfl, readOptions_input rfl h]
    rfl

/-! ## Sources -/

/-- a text is read back from its bytes -/
theorem decode_toUTF8 (t : Text) : decode (String.ofList t).toUTF8 = .ok t := by
  have hread : String.fromUTF8? (String.ofList t).toUTF8 = some (String.ofList t) := by
    simp only [String.fromUTF8?, String.toUTF8_eq_toByteArray, dif_pos (String.ofList t).isValidUTF8]
    rfl
  rw [decode, hread]
  exact congrArg Except.ok String.toList_ofList

/-- a command line that asks for a listing, and the source that it is of -/
structure Reads (read : Input → Except ReadError ByteArray) (words : List Text) (o : Options) (source : Text) :
    Prop where
  options : readCommandLine words = some (.list o)
  contents : (read o.input).bind decode = .ok source

/-- what could be read is listed -/
theorem Reads.run_eq {read : Input → Except ReadError ByteArray} {words : List Text} {o : Options} {source : Text}
    (h : Reads read words o source) : run read words = o.list source := by
  rw [run, h.options]
  show o.run (read o.input) = o.list source
  rw [Options.run, h.contents]

namespace Directory

variable (d : Directory) (source : Text) (mode : ListingMode) (format : ListingFormat)

/-- a source that is piped in can be listed in every way -/
theorem reads_standardInput : Reads (d.readInput (String.ofList source).toUTF8)
    (Options.words ⟨.standardInput, mode, format⟩) ⟨.standardInput, mode, format⟩ source where
  options := readCommandLine_words trivial
  contents := decode_toUTF8 source

variable {d source} {name : Text}

/-- a source in a file can be listed in every way -/
theorem reads_file (hname : IsName name)
    (hfile : d.files.find? (·.1 = name) = some (name, (String.ofList source).toUTF8)) (hhyphen : name ≠ ['-'])
    (piped : ByteArray) : Reads (d.readInput piped)
      (Options.words ⟨.file name, mode, format⟩) ⟨.file name, mode, format⟩ source where
  options := readCommandLine_words ⟨hname.ne_nil, hhyphen⟩
  contents := by
    show (d.read name).bind decode = .ok source
    rw [read_of_isName hname hfile]
    exact decode_toUTF8 source

end Directory

end FlowchartLexer.Command
