import MathHeader.Proofs.Text.OneLine
import MathHeader.Proofs.Text.Words
import MathHeader.Symbol

/-!
# Definitions that are cut out of a text

A definition in the header ends at the first line that is a closing brace and nothing else.  A body
may have such lines too, but every line of a body that is not empty is indented, so none of them is
mistaken for the end.  Between the first line and that one stands the body, and without its
indentation it is read as it was given, line by line: `endedLines_definition`.

Only newlines divide lines here.  A body is given in lines of both conventions, so a carriage return
in front of a newline is not part of its lines; any other one is, and stands in the definition as it
stood in the body.
-/

namespace MathHeader

open Text (OneLine unlines pieces)

/-! ## Lines that end in a newline -/

/-- The lines of a text that end in a newline, divided at newlines only. -/
def Text.endedLines (cs : List Char) : List (List Char) :=
  (pieces '\n' cs).dropLast

/-- Joined lines are read one after the other, and then what follows them. -/
lemma Text.endedLines_unlines_append {ls : List String} (h : ∀ l ∈ ls, OneLine l)
    (rest : List Char) :
    endedLines ((unlines ls).toList ++ rest) = ls.map String.toList ++ endedLines rest := by
  induction ls with
  | nil => rfl
  | cons l ls ih =>
      obtain ⟨hl, hls⟩ := List.forall_mem_cons.1 h
      have hpieces : pieces '\n' ((unlines (l :: ls)).toList ++ rest) =
          l.toList :: pieces '\n' ((unlines ls).toList ++ rest) := by
        rw [toList_unlines_cons, List.append_assoc, List.cons_append, pieces_append_cons hl]
      rw [endedLines, hpieces, List.dropLast_cons_of_ne_nil (pieces_ne_nil _ _)]
      exact congrArg (l.toList :: ·) (ih hls)

/-! ## Lines of a body -/

/-- What stands in front of a line of a body. -/
def indentation : List Char :=
  [' ', ' ', ' ', ' ']

/-- The line of a body that a line in a definition was made from. -/
def withoutIndentation (line : List Char) : String :=
  String.ofList (line.drop indentation.length)

/-- An empty line is left as it is, and any other one is indented. -/
lemma indent_cases (line : String) :
    line = "" ∧ (indent line).toList = [] ∨ (indent line).toList = indentation ++ line.toList := by
  unfold indent
  split
  next h => exact .inl ⟨String.isEmpty_iff.1 h, rfl⟩
  next => exact .inr String.toList_append

lemma oneLine_indent {line : String} (h : OneLine line) : OneLine (indent line) := by
  unfold indent
  split
  · decide
  · exact Text.oneLine_append.2 ⟨by decide, h⟩

lemma withoutIndentation_indent (line : String) :
    withoutIndentation (indent line).toList = line := by
  rcases indent_cases line with ⟨rfl, h⟩ | h
  · rfl
  · rw [h, withoutIndentation, List.drop_left, String.ofList_toList]

/-- A line of a body is empty or indented, and therefore no closing brace. -/
lemma indent_shape (line : String) :
    ((indent line).toList = [] ∨ indentation <+: (indent line).toList) ∧
      (indent line).toList ≠ ['\x7d'] := by
  rcases indent_cases line with ⟨-, h⟩ | h
  · rw [h]
    exact ⟨.inl rfl, List.cons_ne_nil _ _ ∘ Eq.symm⟩
  · rw [h]
    refine ⟨.inr (List.prefix_append _ _), fun heq => ?_⟩
    cases heq

/-! ## Definitions in a text -/

/-- The lines of the body of a function as they stand in its definition. -/
def FunctionSymbol.inner (f : FunctionSymbol) : List (List Char) :=
  (Text.lines f.body).map fun line => (indent line).toList

section Definition

variable {f : FunctionSymbol} {specifier : String}
  (h : OneLine (f.signature.declaration specifier f.name))
include h

lemma oneLine_of_mem_definition : ∀ l ∈ f.lines specifier, OneLine l := by
  have hbody : ∀ l ∈ (Text.lines f.body).map indent, OneLine l := by
    rw [List.forall_mem_map]
    exact fun line hline => oneLine_indent (Text.oneLine_of_mem_lines hline)
  refine List.forall_mem_append.2 ⟨List.forall_mem_cons.2 ⟨?_, hbody⟩, by decide⟩
  exact Text.oneLine_append.2 ⟨h, by decide⟩

/-- A definition is read as its first line, its body and a closing brace, whatever follows it. -/
lemma endedLines_lines_append (rest : List Char) :
    Text.endedLines ((unlines (f.lines specifier)).toList ++ rest) =
      ((f.signature.declaration specifier f.name ++ " \x7b").toList :: f.inner) ++
        ['\x7d'] :: Text.endedLines rest := by
  rw [Text.endedLines_unlines_append (oneLine_of_mem_definition h), FunctionSymbol.lines,
    List.map_append, List.map_cons, List.map_map, List.append_assoc]
  rfl

/-- **A definition is cut out.**  Let the declaration of a function stand on one line.  The text of
its definition ends in a newline and consists of lines that end in one.  Behind the first line and
in front of the last one they are empty or indented, and without the indentation they are the lines
of the body.  The last line is a closing brace and no other line is.  So in a text that starts with
the definition, whatever follows, it goes up to the first line that is a closing brace. -/
theorem endedLines_definition :
    ∃ first body,
      Text.endedLines (unlines (f.lines specifier)).toList = (first :: body) ++ [['\x7d']] ∧
      (unlines (f.lines specifier)).toList.getLast? = some '\n' ∧
      (∀ line ∈ body, line = [] ∨ indentation <+: line) ∧
      ['\x7d'] ∉ first :: body ∧
      body.map withoutIndentation = Text.lines f.body ∧
      ∀ rest, (Text.endedLines ((unlines (f.lines specifier)).toList ++ rest)).takeWhile
        (· != ['\x7d']) = first :: body := by
  have hfirst : (f.signature.declaration specifier f.name ++ " \x7b").toList ≠ ['\x7d'] := by
    intro heq
    have hlast := congrArg List.getLast? heq
    rw [String.toList_append, List.getLast?_append] at hlast
    cases hlast
  have hbody : ∀ line ∈ f.inner, (line = [] ∨ indentation <+: line) ∧ line ≠ ['\x7d'] := by
    rw [FunctionSymbol.inner, List.forall_mem_map]
    exact fun line _ => indent_shape line
  have hclose : ∀ line ∈ (f.signature.declaration specifier f.name ++ " \x7b").toList :: f.inner,
      line ≠ ['\x7d'] :=
    List.forall_mem_cons.2 ⟨hfirst, fun line hline => (hbody line hline).2⟩
  refine ⟨_, f.inner, ?_, ?_, fun line hline => (hbody line hline).1,
    fun hmem => hclose _ hmem rfl, ?_, fun rest => ?_⟩
  · have hread := endedLines_lines_append h []
    rwa [List.append_nil] at hread
  · rw [FunctionSymbol.lines, Text.unlines_append, String.toList_append, List.getLast?_append]
    rfl
  · rw [FunctionSymbol.inner, List.map_map]
    exact (List.map_congr_left fun line _ => withoutIndentation_indent line).trans (List.map_id _)
  · rw [endedLines_lines_append h]
    refine takeWhile_append_cons (fun line hline => ?_) rfl _
    exact bne_iff_ne.2 (hclose line hline)

end Definition

/-- A function whose body has a block, an empty line, a line of blanks and carriage returns. -/
def bracedFunction : FunctionSymbol where
  key := ⟨"pick", ⟨.f32, .scalar⟩, .base⟩
  name := "rm_pick_f32"
  signature := ⟨"f32", [⟨"a", "f32"⟩]⟩
  body := "if (a) \x7b\r\n\x7d\n\n  \n\x7d\r\r\n"

/-- A line of a body that is a closing brace does not end the definition. -/
theorem endedLines_bracedFunction :
    OneLine (bracedFunction.signature.declaration "INLINE" bracedFunction.name) ∧
      ∃ first body,
        Text.endedLines (unlines (bracedFunction.lines "INLINE")).toList =
          (first :: body) ++ [['\x7d']] ∧
        ['\x7d'] ∉ first :: body ∧
        body.map withoutIndentation = ["if (a) \x7b", "\x7d", "", "  ", "\x7d\r"] := by
  have honeLine : OneLine (bracedFunction.signature.declaration "INLINE" bracedFunction.name) := by
    decide
  obtain ⟨first, body, hlines, -, -, hclose, hbody, -⟩ := endedLines_definition honeLine
  have hread : Text.lines bracedFunction.body =
      ["if (a) \x7b", "\x7d", "", "  ", "\x7d\r"] := by
    decide
  exact ⟨honeLine, first, body, hlines, hclose, hbody.trans hread⟩

end MathHeader
