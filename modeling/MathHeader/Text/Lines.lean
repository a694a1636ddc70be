/-!
# Lines of a text

A generated text is built as a list of lines and joined once, at the end, by `unlines`; a text
that comes from outside is taken apart by `lines`.  The two are different conventions on purpose:
`unlines` ends every line with a newline, and `lines` accepts both newline conventions, so it drops
one carriage return in front of a newline and does not invent an empty last line.

The splitting itself is `pieces`, a right fold over the characters, so that it runs in constant
stack and is still one equation per character for a proof.
-/

namespace MathHeader.Text

/-! ## Joining -/

/-- The text made of the given lines, each followed by a newline. -/
def unlines (ls : List String) : String :=
  String.join (ls.map (· ++ "\n"))

@[simp] theorem unlines_nil : unlines [] = "" := rfl

theorem unlines_cons (l : String) (ls : List String) :
    unlines (l :: ls) = l ++ "\n" ++ unlines ls := by
  simp [unlines, String.append_assoc]

theorem unlines_append (ls ms : List String) :
    unlines (ls ++ ms) = unlines ls ++ unlines ms := by
  simp [unlines, String.join_append]

/-! ## Splitting -/

/-- One step of `pieces`: a separator starts a new piece, any other character joins the first. -/
def extendPieces (sep c : Char) : List (List Char) → List (List Char)
  | [] => [[c]]
  | p :: ps => if c = sep then [] :: p :: ps else (c :: p) :: ps

/-- The pieces of a text between its separators; there is always at least one. -/
def pieces (sep : Char) (cs : List Char) : List (List Char) :=
  cs.foldr (extendPieces sep) [[]]

@[simp] theorem pieces_nil (sep : Char) : pieces sep [] = [[]] := rfl

theorem pieces_cons (sep c : Char) (cs : List Char) :
    pieces sep (c :: cs) = extendPieces sep c (pieces sep cs) := rfl

/-- A line without the carriage return that belongs to its newline. -/
def withoutReturn (l : List Char) : List Char :=
  match l.getLast? with
  | some '\r' => l.dropLast
  | _ => l

/-- The pieces as lines.  All but the last were ended by a newline; the last is a line only if it
holds something, and then it is kept as it stands. -/
def closedLines : List (List Char) → List (List Char)
  | [] => []
  | [last] => if last.isEmpty then [] else [last]
  | l :: ls => withoutReturn l :: closedLines ls

/-- The lines of a text: it is split at each newline, a carriage return directly before that
newline is dropped, and a text that ends in a newline has no empty line after it. -/
def lines (text : String) : List String :=
  (closedLines (pieces '\n' text.toList)).map String.ofList

end MathHeader.Text
