import MathHeader.Text.Lines

/-!
# File trees

A tree of folders and files with a working folder.  An entry is found by its *location*, the names
on the way from the root to it; the root is a folder, and so is what the tree says it is.

A *path* is a text that leads to a location.  Its names are separated by slashes; empty names and
`.` lead nowhere, and `..` leads one folder up.  Every name on the way has to be that of a folder.
A path and each of its names have a greatest size; beyond it they lead to nothing.

The tree is a list of entries, of which the first for a location counts.  It is used through
`at?`, and `at?_put` and `at?_remove` say what the two changes do to it.
-/

namespace MathHeader

/-! ## Trees -/

/-- What stands at a location. -/
inductive Entry where
  | file (content : String)
  | folder
deriving DecidableEq, Repr

/-- The names on the way from the root to an entry. -/
abbrev Location := List String

/-- A tree of folders and files. -/
structure FileTree where
  entries : List (Location × Entry)
  workingFolder : Location
  /-- The greatest size of a file in bytes, if that is limited. -/
  fileLimit : Option Nat
deriving DecidableEq, Repr

namespace FileTree

/-- What stands at a location, if anything does. -/
def at? (t : FileTree) (l : Location) : Option Entry :=
  if l.isEmpty then some .folder else t.entries.lookup l

def isFolder (t : FileTree) (l : Location) : Bool :=
  t.at? l == some .folder

/-- The entries that stand directly in a folder, by their names. -/
def listing (t : FileTree) (folder : Location) : List (String × Entry) :=
  t.entries.filterMap fun (l, e) => l.getLast?.bind fun name =>
    if l.dropLast = folder then some (name, e) else none

/-! ## Changes -/

/-- The tree with another entry at a location. -/
def put (t : FileTree) (l : Location) (e : Entry) : FileTree :=
  { t with entries := (l, e) :: t.entries.filter (·.1 != l) }

/-- The tree without an entry at a location. -/
def remove (t : FileTree) (l : Location) : FileTree :=
  { t with entries := t.entries.filter (·.1 != l) }

theorem lookup_filter_ne (es : List (Location × Entry)) (l m : Location) :
    (es.filter (·.1 != l)).lookup m = if m = l then none else es.lookup m := by
  induction es with
  | nil => simp
  | cons p es ih =>
    obtain ⟨k, e⟩ := p
    by_cases hk : k = l
    · subst hk
      rw [List.filter_cons_of_neg (by simp), ih]
      by_cases hm : m = k
      · simp [hm]
      · simp [hm, List.lookup_cons, beq_false_of_ne hm]
    · rw [List.filter_cons_of_pos (by simp [hk]), List.lookup_cons, List.lookup_cons, ih]
      by_cases hm : m = k
      · subst hm
        simp [hk]
      · simp [beq_false_of_ne hm]

theorem at?_put {t : FileTree} {l : Location} (hl : l ≠ []) (e : Entry) (m : Location) :
    (t.put l e).at? m = if m = l then some e else t.at? m := by
  by_cases hm : m = l
  · subst hm
    simp [at?, put, hl]
  · by_cases hn : m = []
    · simp [at?, hn, Ne.symm hl]
    · simp [at?, put, hm, hn, List.lookup_cons, beq_false_of_ne hm, lookup_filter_ne]

theorem at?_remove {t : FileTree} {l : Location} (hl : l ≠ []) (m : Location) :
    (t.remove l).at? m = if m = l then none else t.at? m := by
  by_cases hn : m = []
  · simp [at?, hn, Ne.symm hl]
  · simp [at?, remove, hn, lookup_filter_ne]

/-! ## Paths -/

/-- The greatest size of a path in bytes. -/
def pathLimit : Nat := 4095

/-- The greatest size of a name in bytes. -/
def nameLimit : Nat := 255

/-- Whether a part of a path leads somewhere: it is not empty and not a single point. -/
def isStep (part : String) : Bool :=
  part != "" && part != "."

/-- The parts of a path between its slashes. -/
def pathParts (path : String) : List String :=
  (Text.pieces '/' path.toList).map String.ofList

/-- The parts of a path that lead somewhere. -/
def pathNames (path : String) : List String :=
  (pathParts path).filter isStep

/-- The path without its last name and all that leads nowhere around it. -/
def parentPath (path : String) : String :=
  let folder := (pathParts path).reverse.dropWhile (!isStep ·) |>.drop 1
  String.intercalate "/" (folder.dropWhile (!isStep ·)).reverse

/-- Where a path starts: at the root if its first character is a slash, and otherwise in the
working folder. -/
def start (t : FileTree) (path : String) : Location :=
  match pathParts path with
  | "" :: _ :: _ => []
  | _ => t.workingFolder

/-- The folder that some names lead to from a folder. -/
def walk (t : FileTree) (l : Location) : List String → Option Location
  | [] => some l
  | name :: names =>
    let next := if name = ".." then l.dropLast else l ++ [name]
    if t.isFolder next then t.walk next names else none

/-- The folder that the entry of a path is in.  A path without a name has the working folder. -/
def parent? (t : FileTree) (path : String) : Option Location :=
  match pathNames path with
  | [] => some t.workingFolder
  | names =>
    if (parentPath path).utf8ByteSize ≤ pathLimit then t.walk (t.start path) names.dropLast
    else none

/-- Whether a part of a path can be the name of a file. -/
def isFileName (part : String) : Bool :=
  !(["", ".", ".."].contains part) && part.utf8ByteSize ≤ nameLimit && !part.toList.contains '\x00'

/-- The location of the file that a path ends in.  The last part of the path has to be a name, so a
path that ends in a slash has none, and neither has a path that is too long. -/
def fileLocation? (t : FileTree) (path : String) : Option Location := do
  let name ← (pathParts path).getLast?
  if isFileName name && path.utf8ByteSize ≤ pathLimit then
    let folder ← t.parent? path
    pure (folder ++ [name])
  else none

/-- The content of the file that a path leads to. -/
def read? (t : FileTree) (path : String) : Option String := do
  match t.at? (← t.fileLocation? path) with
  | some (.file content) => some content
  | _ => none

end FileTree

end MathHeader
