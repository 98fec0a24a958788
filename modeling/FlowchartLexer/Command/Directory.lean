/-
A directory that holds files and nothing else, and what a path leads to from there.

A path is a row of names between slashes, of which empty ones and single dots lead nowhere. What lies outside of the
directory is not known, apart from the directories above it.
-/
import FlowchartLexer.Command.Run

namespace FlowchartLexer.Command

/-- files by name -/
structure Directory where
  files : List (Text × ByteArray)

namespace Directory

/-- the parts of a text between slashes -/
def splitPath : Text → List Text
  | [] => [[]]
  | '/' :: t => [] :: splitPath t
  | c :: t =>
    match splitPath t with
    | [] => [[c]]
    | p :: ps => (c :: p) :: ps

theorem splitPath_of_not_mem {t : Text} (h : '/' ∉ t) : splitPath t = [t] := by
  induction t with
  | nil => rfl
  | cons c t ih =>
    rw [List.mem_cons, not_or] at h
    rw [splitPath, ih h.2]
    exact fun hc => h.1 hc.symm

/-- a part that does not lead to another place -/
def isIdle (part : Text) : Bool :=
  part = [] || part = ['.']

/-- the bytes of the file that a path leads to -/
def read (d : Directory) (path : Text) : Except ReadError ByteArray :=
  let parts := splitPath path
  match parts.filter (! isIdle ·) with
  | [] => .error .isDirectory
  | name :: more =>
    if (name :: more).all (· = ['.', '.']) then .error .isDirectory
    else if path.head? = some '/' then .error .notFound
    else
      match d.files.find? (·.1 = name) with
      | none => .error .notFound
      | some f =>
        if more.isEmpty && !(parts.getLast?.any isIdle) then .ok f.2 else .error .notDirectory

/-- a name: one part of a path that leads to another place, but not to the directory above -/
def IsName (t : Text) : Prop :=
  '/' ∉ t ∧ isIdle t = false ∧ t ≠ ['.', '.']

instance : DecidablePred IsName := fun _ => inferInstanceAs (Decidable (_ ∧ _ ∧ _))

theorem IsName.ne_nil {t : Text} (h : IsName t) : t ≠ [] := by
  rintro rfl
  cases h.2.1

/-- a file is read by its name -/
theorem read_of_isName {d : Directory} {name : Text} {b : ByteArray} (h : IsName name)
    (hfile : d.files.find? (·.1 = name) = some (name, b)) : d.read name = .ok b := by
  obtain ⟨hslash, hidle, hparent⟩ := h
  have hother : [name].filter (! isIdle ·) = [name] := by simp [hidle]
  have hroot : name.head? ≠ some '/' := by
    intro hhead
    exact hslash (List.mem_of_head? hhead)
  unfold read
  simp [splitPath_of_not_mem hslash, hother, hparent, hroot, hfile, hidle]

/-- the bytes of an input, given those on standard input -/
def readInput (d : Directory) (standardInput : ByteArray) : Input → Except ReadError ByteArray
  | .standardInput => .ok standardInput
  | .file path => d.read path

end Directory

end FlowchartLexer.Command
