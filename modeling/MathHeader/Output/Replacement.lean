import MathHeader.Output.FileTree
import MathHeader.Output.Sink

/-!
# Replacing a file

A file is replaced in three steps, so that nobody ever sees half of it: a temporary file is made in
the folder of the file, the text is written to it, and then it takes the place of the file.

If the text cannot be written, the temporary file is removed at once.  If the file cannot be moved
to its place, the failure that is returned still holds it, so that the text is not lost, and it goes
when the failure is given up: `FileTree.replace` gives the tree at return, and `settled` the tree
after that.

The temporary file needs a name that nothing in its folder has; a name that is longer than every
other name is one (`freshName_not_mem`).  `writeArtifact` makes a header the content of a file.
-/

namespace MathHeader

/-! ## Temporary names -/

def longest (names : List String) : Nat :=
  names.foldr (fun name n => max name.length n) 0

theorem length_le_longest {names : List String} {name : String} (h : name ∈ names) :
    name.length ≤ longest names := by
  induction names with
  | nil => simp at h
  | cons n ns ih =>
    simp only [longest, List.foldr_cons]
    rcases List.mem_cons.1 h with rfl | h
    · exact Nat.le_max_left _ _
    · exact Nat.le_trans (ih h) (Nat.le_max_right _ _)

/-- A name that none of the given ones is. -/
def freshName (names : List String) : String :=
  String.ofList ('.' :: List.replicate (longest names) 't')

theorem freshName_not_mem (names : List String) : freshName names ∉ names := by
  intro h
  have := length_le_longest h
  simp only [freshName, String.length_ofList, List.length_cons, List.length_replicate] at this
  omega

/-! ## The three steps -/

namespace FileTree

/-- The location of a temporary file in a folder. -/
def temporaryIn (t : FileTree) (folder : Location) : Location :=
  folder ++ [freshName (t.entries.filterMap fun (l, _) => l.getLast?)]

/-- Whether a text fits into a file. -/
def fits (t : FileTree) (text : String) : Bool :=
  match t.fileLimit with
  | none => true
  | some limit => text.utf8ByteSize ≤ limit

/-- Whether a file can take the place of what stands at a location. -/
def canPlace (t : FileTree) (l : Location) : Bool :=
  t.at? l != some .folder

/-- Moves the file at `source` to the place that a path ends in.  Without such a place the failure
holds the file. -/
def place (t : FileTree) (source : Location) (text path : String) :
    Except OutputError Unit × FileTree :=
  match t.fileLocation? path with
  | some target =>
    if t.canPlace target then (.ok (), (t.remove source).put target (.file text))
    else (.error (.unplaced source), t)
  | none => (.error (.unplaced source), t)

/-- Replaces the file that a path leads to by one with a given text. -/
def replace (t : FileTree) (path text : String) : Except OutputError Unit × FileTree :=
  match t.parent? path with
  | none => (.error .unwritten, t)
  | some folder =>
    let temporary := t.temporaryIn folder
    let created := t.put temporary (.file "")
    if created.fits text then (created.put temporary (.file text)).place temporary text path
    else (.error .unwritten, created.remove temporary)

end FileTree

/-! ## Giving up -/

/-- The tree after a failure has been given up, and with it the temporary file that it holds. -/
def OutputError.release (e : OutputError) (t : FileTree) : FileTree :=
  match e with
  | unplaced temporary => t.remove temporary
  | generation _ => t
  | unwritten => t

/-- The result of a replacement with the tree after it has been given up. -/
def settled (r : Except OutputError Unit × FileTree) : Except OutputError Unit × FileTree :=
  match r with
  | (.ok (), t) => (.ok (), t)
  | (.error e, t) => (.error e, e.release t)

/-! ## Headers -/

/-- Makes a header the content of the file that a path leads to. -/
def writeArtifact (a : Artifact) (t : FileTree) (path : String) :
    Except OutputError Unit × FileTree :=
  t.replace path a.text

end MathHeader
