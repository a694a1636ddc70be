import MathHeader.Proofs.Preprocessor.Directive
import Mathlib.Data.List.Forall2

/-!
# Conditions that are broken into lines

A condition that is too long for one line is broken between the terms of its outermost group.  The
breaks are put in from the left, a part of the condition at a time, and only the line under way is
looked at.  This module says what that comes to for the condition as a whole.

There is an arrangement of the terms in *rows*, one for each line (`Filled`): the rows together are
the terms, each but the last ends with the operator, and a line that is too long has a row of a
single term.  Filling keeps it as an invariant that the line under way has at most one term or is
not too long, and hands over to the next line with a single term on it.

Deleting the breaks gives back what was written without them: `unbroken_fillLines`.  For a directive
with a condition `directive_wraps` says both.
-/

namespace MathHeader.Preprocessor

open Text (notMem_append)

/-! ## The outermost group -/

/-- The texts of the terms of the outermost group; a condition that is no group is its only term. -/
def Condition.terms : Condition → List String
  | any terms => termTexts terms
  | all terms => termTexts terms
  | c => [c.text]

/-- What stands between the terms of the outermost group. -/
def Condition.operator : Condition → String
  | any _ => " || "
  | all _ => " && "
  | _ => ""

lemma Condition.breakable_eq (c : Condition) :
    c.breakable = breakable.withOperator c.operator c.terms := by
  cases c <;> rfl

lemma Condition.text_eq (c : Condition) : c.text = c.operator.intercalate c.terms := by
  cases c with
  | any cs => rw [text, operator, terms]
  | all cs => rw [text, operator, terms]
  | _ => exact String.intercalate_singleton.symm

/-! ## Deleting the line breaks -/

/-- The characters of a text without its line breaks, which consist of a backslash, a newline and
the blanks that a continued line starts with. -/
def unbroken : List Char → List Char
  | '\\' :: '\n' :: ' ' :: ' ' :: ' ' :: ' ' :: cs => unbroken cs
  | c :: cs => c :: unbroken cs
  | [] => []

lemma unbroken_append {front : List Char} (h : '\\' ∉ front) (rest : List Char) :
    unbroken (front ++ rest) = front ++ unbroken rest := by
  induction front with
  | nil => rfl
  | cons c front ih =>
      rw [List.mem_cons, not_or] at h
      rw [List.cons_append, unbroken, ih h.2, List.cons_append]
      exact fun _ heq _ => absurd heq.symm h.1

lemma unbroken_of_notMem {cs : List Char} (h : '\\' ∉ cs) : unbroken cs = cs := by
  have happend := unbroken_append h []
  rwa [List.append_nil, unbroken, List.append_nil] at happend

lemma fillLines_ne_nil (current : String) (holdsPart : Bool) (parts : List String) :
    fillLines current holdsPart parts ≠ [] := by
  induction parts generalizing current holdsPart with
  | nil => exact List.cons_ne_nil _ _
  | cons p ps ih =>
      rw [fillLines]
      split
      · exact List.cons_ne_nil _ _
      · exact ih _ _

/-- **Deleting the line breaks.**  Lines that are filled with parts and joined are, without the
breaks between them, what they started with and all the parts.  The `lead` of the first line stands
for the blanks that belong to the break before it. -/
lemma unbroken_fillLines (lead : String) {front : String} (hfront : '\\' ∉ front.toList)
    (holdsPart : Bool) {parts : List String} (hparts : ∀ p ∈ parts, '\\' ∉ p.toList) :
    ∃ rest, ("\n".intercalate (fillLines (lead ++ front) holdsPart parts)).toList =
        lead.toList ++ rest ∧
      unbroken rest = (front ++ String.join parts).toList := by
  induction parts generalizing lead front holdsPart with
  | nil =>
      refine ⟨front.toList, ?_, ?_⟩
      · rw [fillLines, String.intercalate_singleton, String.toList_append]
      · rw [String.join_nil, String.append_empty, unbroken_of_notMem hfront]
  | cons p ps ih =>
      obtain ⟨hp, hps⟩ := List.forall_mem_cons.1 hparts
      rw [fillLines, String.join_cons]
      split
      · obtain ⟨rest, htext, hrest⟩ := ih continuation hp true hps
        refine ⟨front.toList ++ ("\\\n" ++ continuation).toList ++ rest, ?_, ?_⟩
        · have hne : fillLines (continuation ++ p) true ps ≠ [] := fillLines_ne_nil _ _ _
          rw [String.intercalate_cons_of_ne_nil hne, String.toList_append, htext]
          simp
        · have hbreak : unbroken (("\\\n" ++ continuation).toList ++ rest) = unbroken rest := rfl
          rw [List.append_assoc, unbroken_append hfront, hbreak, hrest, ← String.toList_append]
      · have hfilled : lead ++ front ++ p = lead ++ (front ++ p) := String.append_assoc
        have hjoin : front ++ (p ++ String.join ps) = front ++ p ++ String.join ps :=
          String.append_assoc.symm
        rw [hfilled, hjoin]
        exact ih lead (notMem_append.2 ⟨hfront, hp⟩) true hps

/-! ## Rows of terms -/

/-- The lines for rows of terms.  The first starts with `front`, and every other one with the blanks
of a continued line.  A row that is not the last ends with the operator and its space, behind which
the line is broken. -/
def rowLines (operator front : String) : List (List String) → List String
  | [] => []
  | [row] => [front ++ operator.intercalate row]
  | row :: rows =>
    (front ++ operator.intercalate row ++ operator ++ "\\") :: rowLines operator continuation rows

/-- A line fits if it is not too long, not counting its backslash, or has but one term. -/
def RowFits (line : String) (row : List String) : Prop :=
  line.utf8ByteSize ≤ maxLine + 1 ∨ row.length = 1

/-- **Filled lines.**  The lines are those of rows of terms, each of which fits. -/
structure Filled (operator front : String) (ls : List String) (rows : List (List String)) :
    Prop where
  nonempty : [] ∉ rows
  lines_eq : ls = rowLines operator front rows
  fits : List.Forall₂ RowFits ls rows

section Rows

variable {operator front : String} {row : List String}

/-- The terms of a row that goes on, each followed by the operator. -/
def openRow (operator : String) (row : List String) : String :=
  String.join (row.map (· ++ operator))

lemma openRow_concat (operator : String) (row : List String) (t : String) :
    openRow operator (row ++ [t]) = openRow operator row ++ (t ++ operator) := by
  simp [openRow, String.join_append]

lemma intercalate_concat (operator : String) (row : List String) (t : String) :
    operator.intercalate (row ++ [t]) = openRow operator row ++ t := by
  induction row with
  | nil => simp [openRow]
  | cons u row ih =>
      rw [List.cons_append, String.intercalate_cons_of_ne_nil (by simp), ih]
      simp [openRow, String.append_assoc]

lemma openRow_eq (hrow : row ≠ []) :
    openRow operator row = operator.intercalate row ++ operator := by
  obtain ⟨init, t, rfl⟩ := List.eq_nil_or_concat row |>.resolve_left hrow
  rw [List.concat_eq_append, openRow_concat, intercalate_concat, String.append_assoc]

lemma filled_last (hrow : row ≠ [])
    (hfits : row.length = 1 ∨ (front ++ operator.intercalate row).utf8ByteSize ≤ maxLine) :
    Filled operator front [front ++ operator.intercalate row] [row] := by
  refine ⟨by simpa using hrow.symm, rfl, .cons ?_ .nil⟩
  exact hfits.symm.imp_left (Nat.le_succ_of_le ·)

lemma Filled.broken {ls : List String} {rows : List (List String)}
    (h : Filled operator continuation ls rows) (hrows : rows ≠ []) (hrow : row ≠ [])
    (hfits : row.length = 1 ∨ (front ++ openRow operator row).utf8ByteSize ≤ maxLine) :
    Filled operator front ((front ++ openRow operator row ++ "\\") :: ls) (row :: rows) := by
  obtain ⟨hnonempty, hlines, hall⟩ := h
  refine ⟨?_, ?_, .cons ?_ hall⟩
  · rw [List.mem_cons, not_or]
    exact ⟨hrow.symm, hnonempty⟩
  · rw [rowLines, hlines, openRow_eq hrow]
    · simp only [String.append_assoc]
    · exact hrows
  · refine hfits.symm.imp_left fun hle => ?_
    rw [String.utf8ByteSize_append]
    exact Nat.succ_le_succ hle

/-- A part starts a new line, behind a row with a term, or it is added to the line, which has no
term yet or does not become too long. -/
lemma fillLines_cons_cases (current : String) (row : List String) (p : String)
    (ps : List String) :
    (row ≠ [] ∧ fillLines current (!row.isEmpty) (p :: ps) =
        (current ++ "\\") :: fillLines (continuation ++ p) true ps) ∨
      ((row = [] ∨ (current ++ p).utf8ByteSize ≤ maxLine) ∧
        fillLines current (!row.isEmpty) (p :: ps) = fillLines (current ++ p) true ps) := by
  rw [fillLines]
  cases row with
  | nil => exact .inr ⟨.inl rfl, rfl⟩
  | cons t row =>
      split
      next => exact .inl ⟨List.cons_ne_nil t row, rfl⟩
      next hshort =>
        refine .inr ⟨.inr ?_, rfl⟩
        rw [String.utf8ByteSize_append]
        simpa using hshort

/-- A row with a term that has at most one has just one. -/
lemma length_eq_one_or {fits : Prop} (hrow : row.length ≤ 1 ∨ fits) (hne : row ≠ []) :
    row.length = 1 ∨ fits :=
  hrow.imp_left fun hle => le_antisymm hle (List.length_pos_of_ne_nil hne)

lemma length_concat_of_eq_nil (t : String) (hnil : row = []) : (row ++ [t]).length = 1 := by
  rw [hnil, List.nil_append, List.length_singleton]

/-- The last term is on the line under way or on one of its own. -/
lemma exists_filled_last (t : String)
    (hrow : row.length ≤ 1 ∨ (front ++ openRow operator row).utf8ByteSize ≤ maxLine) :
    ∃ rows, rows.flatten = row ++ [t] ∧
      Filled operator front
        (fillLines (front ++ openRow operator row) (!row.isEmpty) [t]) rows := by
  rcases fillLines_cons_cases (front ++ openRow operator row) row t [] with
    ⟨hne, hlines⟩ | ⟨hfits, hlines⟩
  · have hlast : Filled operator continuation [continuation ++ t] [[t]] :=
      filled_last (List.cons_ne_nil t []) (.inl rfl)
    rw [hlines, fillLines]
    exact ⟨[row, [t]], by simp,
      hlast.broken (List.cons_ne_nil _ _) hne (length_eq_one_or hrow hne)⟩
  · rw [hlines, fillLines]
    rw [String.append_assoc, ← intercalate_concat] at hfits ⊢
    exact ⟨[row ++ [t]], by simp,
      filled_last (by simp) (hfits.imp_left (length_concat_of_eq_nil t))⟩

/-- **Rows that are filled.**  The line under way has a row with at most one term, or it is not too
long.  Then it is filled further, and the other terms are on the lines after it. -/
lemma exists_filled_fillLines {ts : List String} (hts : ts ≠ [])
    (hrow : row.length ≤ 1 ∨ (front ++ openRow operator row).utf8ByteSize ≤ maxLine) :
    ∃ rows, rows.flatten = row ++ ts ∧
      Filled operator front
        (fillLines (front ++ openRow operator row) (!row.isEmpty)
          (Condition.breakable.withOperator operator ts)) rows := by
  induction ts generalizing front row with
  | nil => exact absurd rfl hts
  | cons t ts ih =>
      cases ts with
      | nil => exact exists_filled_last t hrow
      | cons t' ts =>
          have hrest : t' :: ts ≠ [] := List.cons_ne_nil t' ts
          rw [Condition.breakable.withOperator.eq_3 operator t (t' :: ts) hrest]
          -- The term either starts the next line or goes on in the row under way.
          rcases fillLines_cons_cases (front ++ openRow operator row) row (t ++ operator)
            (Condition.breakable.withOperator operator (t' :: ts)) with
            ⟨hne, hlines⟩ | ⟨hfits, hlines⟩
          · have hstart : continuation ++ (t ++ operator) =
                continuation ++ openRow operator [t] := by simp [openRow]
            obtain ⟨rows, hflatten, hfilled⟩ := @ih continuation [t] hrest (.inl le_rfl)
            have hrows : rows ≠ [] := by
              rintro rfl
              exact absurd hflatten.symm (by simp)
            refine ⟨row :: rows, by rw [List.flatten_cons, hflatten, List.singleton_append], ?_⟩
            rw [hlines, hstart]
            exact hfilled.broken hrows hne (length_eq_one_or hrow hne)
          · have hstart : front ++ openRow operator row ++ (t ++ operator) =
                front ++ openRow operator (row ++ [t]) := by
              rw [String.append_assoc, openRow_concat]
            have hone (hnil : row = []) := (length_concat_of_eq_nil t hnil).le
            obtain ⟨rows, hflatten, hfilled⟩ :=
              @ih front (row ++ [t]) hrest (hstart ▸ hfits.imp_left hone)
            refine ⟨rows, by rw [hflatten, List.append_assoc, List.singleton_append], ?_⟩
            have hholds : (!(row ++ [t]).isEmpty) = true := by simp
            rwa [hlines, hstart, ← hholds]

end Rows

/-! ## The whole -/

/-- The text of a directive with a condition, whose lines are joined. -/
def Condition.directiveText (word : String) (c : Condition) : String :=
  "\n".intercalate (c.directive word)

lemma Condition.directive_ne_nil (word : String) (c : Condition) : c.directive word ≠ [] := by
  simp only [directive]
  split
  · exact List.cons_ne_nil _ _
  · exact fillLines_ne_nil _ _ _

lemma unbroken_directiveText {word : String} (hword : IsPlain word) {c : Condition}
    (hc : ∀ name ∈ c.strings, IsPlain name) :
    unbroken (c.directiveText word).toList = (word ++ " " ++ c.text).toList := by
  have hfront : IsPlain (word ++ " ") := isPlain_append.2 ⟨hword, by decide⟩
  simp only [Condition.directiveText, Condition.directive]
  split
  · rw [String.intercalate_singleton]
    exact unbroken_of_notMem (isPlain_append.2 ⟨hfront, Condition.isPlain_text hc⟩).2
  · obtain ⟨rest, htext, hrest⟩ := unbroken_fillLines "" hfront.2 false
      fun p hp => (Condition.isPlain_of_mem_breakable hc p hp).2
    rw [String.empty_append] at htext
    rw [htext, ← c.join_breakable, ← hrest]
    rfl

lemma exists_rows_directive {word : String} (hword : word = "#if" ∨ word = "#elif")
    (c : Condition) :
    ∃ rows, rows.flatten = c.terms ∧ (c.terms ≠ [] → [] ∉ rows) ∧
      c.directive word = rowLines c.operator (word ++ " ") rows ∧
      List.Forall₂ RowFits (c.directive word) rows := by
  simp only [Condition.directive]
  split
  next hle =>
    refine ⟨[c.terms], List.flatten_singleton, fun hne => ?_, ?_, ?_⟩
    · rw [List.mem_singleton]
      exact hne.symm
    · rw [rowLines, c.text_eq]
    · exact .cons (.inl (Nat.le_succ_of_le hle)) .nil
  next hlong =>
    -- Without a term the line would not be too long.
    have hterms : c.terms ≠ [] := by
      intro hnil
      rw [c.text_eq, hnil, String.intercalate_nil, String.append_empty] at hlong
      rcases hword with rfl | rfl <;> exact hlong (by decide)
    have hstart : word ++ " " = word ++ " " ++ openRow c.operator [] := by simp [openRow]
    obtain ⟨rows, hflatten, hfilled⟩ :=
      @exists_filled_fillLines c.operator (word ++ " ") [] c.terms hterms (.inl (Nat.zero_le 1))
    rw [← hstart, ← c.breakable_eq] at hfilled
    exact ⟨rows, hflatten, fun _ => hfilled.nonempty, hfilled.lines_eq, hfilled.fits⟩

/-- **Wrapping a condition does not change it.**  A directive over names that neither end a line nor
join it with the next is, without its line breaks, its word, a space and its condition.  The lines
of its text are rows of terms of the outermost group: every line is broken between two terms, behind
the operator and its space, and each line fits. -/
theorem directive_wraps {word : String} (hword : word = "#if" ∨ word = "#elif") {c : Condition}
    (hc : ∀ name ∈ c.strings, IsPlain name) :
    String.ofList (unbroken (c.directiveText word).toList) = word ++ " " ++ c.text ∧
    (Text.pieces '\n' (c.directiveText word).toList).map String.ofList = c.directive word ∧
    ∃ rows, rows.flatten = c.terms ∧ (c.terms ≠ [] → [] ∉ rows) ∧
      c.directive word = rowLines c.operator (word ++ " ") rows ∧
      List.Forall₂ (fun line row => line.utf8ByteSize ≤ 79 ∨ row.length = 1)
        (c.directive word) rows := by
  have hplain : IsPlain word := by rcases hword with rfl | rfl <;> decide
  refine ⟨?_, ?_, exists_rows_directive hword c⟩
  · rw [unbroken_directiveText hplain hc, String.ofList_toList]
  · have hlines := (readsAs_directive hplain hc rfl).oneLine
    have hbreaks : "\n".toList = ['\n'] := rfl
    have hpieces : ∀ cs ∈ (c.directive word).map String.toList, '\n' ∉ cs :=
      List.forall_mem_map.2 hlines
    rw [Condition.directiveText, String.toList_intercalate, hbreaks,
      Text.pieces_intercalate (by simpa using c.directive_ne_nil word) hpieces, List.map_map]
    exact (List.map_congr_left fun l _ => String.ofList_toList).trans (List.map_id _)

/-- A condition that asks for seven macros, one of them with a long name. -/
def longCondition : Condition :=
  .anyDefined ["__x86_64__", "_M_X64", "__amd64__", "_M_AMD64", "__i386__", "_M_IX86",
    "__an_architecture_of_a_compiler_that_spells_out_every_single_word__"]

/-- It is broken twice, the second time in front of a term that is too long for any line. -/
theorem directive_wraps_longCondition :
    (∀ name ∈ longCondition.strings, IsPlain name) ∧
    longCondition.directive "#elif" =
      [ "#elif defined(__x86_64__) || defined(_M_X64) || defined(__amd64__) || \\",
        "    defined(_M_AMD64) || defined(__i386__) || defined(_M_IX86) || \\",
        "    defined(__an_architecture_of_a_compiler_that_spells_out_every_single_word__)" ] ∧
    String.ofList (unbroken (longCondition.directiveText "#elif").toList) =
      "#elif" ++ " " ++ longCondition.text ∧
    ∃ rows, rows.flatten = longCondition.terms ∧ (longCondition.terms ≠ [] → [] ∉ rows) ∧
      longCondition.directive "#elif" = rowLines " || " ("#elif" ++ " ") rows ∧
      List.Forall₂ (fun line row => line.utf8ByteSize ≤ 79 ∨ row.length = 1)
        (longCondition.directive "#elif") rows := by
  have hplain : ∀ name ∈ longCondition.strings, IsPlain name := by decide
  obtain ⟨hunbroken, -, hrows⟩ := directive_wraps (.inr rfl) hplain
  exact ⟨hplain, by decide +kernel, hunbroken, hrows⟩

end MathHeader.Preprocessor
