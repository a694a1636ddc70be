import MathHeader.Text.Lines
import Mathlib.Data.List.Basic

/-!
# Texts on one line

A header is a list of lines that is joined once.  Reading it again gives the same lines only if none
of them has a newline in it, which `OneLine` says.  A carriage return at the end of a line counts as
part of the line end and is lost; `stripped` is what is read (`lines_unlines`).
-/

namespace MathHeader.Text

/-! ## Texts on one line -/

/-- A text without a newline. -/
def OneLine (s : String) : Prop :=
  '\n' ∉ s.toList

instance (s : String) : Decidable (OneLine s) :=
  inferInstanceAs (Decidable ('\n' ∉ s.toList))

lemma notMem_append {x : Char} {s t : String} :
    x ∉ (s ++ t).toList ↔ x ∉ s.toList ∧ x ∉ t.toList := by
  rw [String.toList_append, List.mem_append, not_or]

/-- A character that is in none of the texts and not in the separator is not in what is joined. -/
lemma notMem_intercalate {x : Char} {separator : String} (hseparator : x ∉ separator.toList)
    {ss : List String} (h : ∀ s ∈ ss, x ∉ s.toList) :
    x ∉ (separator.intercalate ss).toList := by
  induction ss with
  | nil => exact List.not_mem_nil
  | cons s ss ih =>
      obtain ⟨hs, hss⟩ := List.forall_mem_cons.1 h
      cases ss with
      | nil => exact hs
      | cons t ts =>
          rw [String.intercalate_cons_cons]
          exact notMem_append.2 ⟨notMem_append.2 ⟨hs, hseparator⟩, ih hss⟩

lemma oneLine_append {s t : String} : OneLine (s ++ t) ↔ OneLine s ∧ OneLine t :=
  notMem_append

lemma OneLine.intercalate {separator : String} (hseparator : OneLine separator)
    {ss : List String} (h : ∀ s ∈ ss, OneLine s) : OneLine (separator.intercalate ss) :=
  notMem_intercalate hseparator h

lemma oneLine_ofList {cs : List Char} : OneLine (String.ofList cs) ↔ '\n' ∉ cs := by
  rw [OneLine, String.toList_ofList]

/-! ## Pieces -/

lemma pieces_ne_nil (sep : Char) (cs : List Char) : pieces sep cs ≠ [] := by
  cases cs with
  | nil => exact List.cons_ne_nil [] []
  | cons c cs =>
      rw [pieces_cons]
      unfold extendPieces
      split
      next => exact List.cons_ne_nil _ _
      next => split <;> exact List.cons_ne_nil _ _

/-- A text is taken apart at a separator. -/
lemma pieces_append_sep (sep : Char) (front rest : List Char) :
    pieces sep (front ++ sep :: rest) = pieces sep front ++ pieces sep rest := by
  induction front with
  | nil =>
      rw [List.nil_append, pieces_cons]
      obtain ⟨p, ps, hpieces⟩ := List.exists_cons_of_ne_nil (pieces_ne_nil sep rest)
      rw [hpieces]
      exact if_pos rfl
  | cons c front ih =>
      obtain ⟨p, ps, hpieces⟩ := List.exists_cons_of_ne_nil (pieces_ne_nil sep front)
      rw [List.cons_append, pieces_cons, ih, pieces_cons, hpieces, List.cons_append, extendPieces,
        extendPieces]
      split
      next => rfl
      next => rfl

/-- A text without the separator is one piece. -/
lemma pieces_of_notMem {sep : Char} {cs : List Char} (h : sep ∉ cs) : pieces sep cs = [cs] := by
  induction cs with
  | nil => rfl
  | cons c cs ih =>
      rw [List.mem_cons, not_or] at h
      rw [pieces_cons, ih h.2]
      exact if_neg (Ne.symm h.1)

/-- A text without the separator is the first piece of every text that goes on with it. -/
lemma pieces_append_cons {sep : Char} {front : List Char} (h : sep ∉ front) (rest : List Char) :
    pieces sep (front ++ sep :: rest) = front :: pieces sep rest := by
  rw [pieces_append_sep, pieces_of_notMem h, List.singleton_append]

/-- Texts with separators between them, and with none in them, are the pieces. -/
lemma pieces_intercalate {sep : Char} {texts : List (List Char)} (hne : texts ≠ [])
    (h : ∀ cs ∈ texts, sep ∉ cs) : pieces sep ([sep].intercalate texts) = texts := by
  induction texts with
  | nil => exact absurd rfl hne
  | cons cs texts ih =>
      obtain ⟨hcs, htexts⟩ := List.forall_mem_cons.1 h
      cases texts with
      | nil => rw [List.intercalate_singleton, pieces_of_notMem hcs]
      | cons ds texts =>
          rw [List.intercalate_cons_cons, List.append_assoc, List.singleton_append,
            pieces_append_cons hcs, ih (List.cons_ne_nil ds texts) htexts]

lemma notMem_of_mem_pieces {sep : Char} {cs : List Char} :
    ∀ piece ∈ pieces sep cs, sep ∉ piece := by
  induction cs with
  | nil =>
      intro piece hpiece
      rw [List.mem_singleton.1 hpiece]
      exact List.not_mem_nil
  | cons c cs ih =>
      obtain ⟨p, ps, hpieces⟩ := List.exists_cons_of_ne_nil (pieces_ne_nil sep cs)
      rw [hpieces, List.forall_mem_cons] at ih
      rw [pieces_cons, hpieces, extendPieces]
      by_cases hc : c = sep
      · rw [if_pos hc, List.forall_mem_cons, List.forall_mem_cons]
        exact ⟨List.not_mem_nil, ih⟩
      · rw [if_neg hc, List.forall_mem_cons, List.mem_cons, not_or]
        exact ⟨⟨Ne.symm hc, ih.1⟩, ih.2⟩

/-! ## Joined lines -/

/-- A line as it is read: without a carriage return at its end. -/
def stripped (line : String) : List Char :=
  withoutReturn line.toList

lemma toList_unlines_cons (l : String) (ls : List String) :
    (unlines (l :: ls)).toList = l.toList ++ '\n' :: (unlines ls).toList := by
  rw [unlines_cons, String.toList_append, String.toList_append, List.append_assoc]
  rfl

/-- The pieces of joined lines are the lines, and what is behind the last newline. -/
lemma pieces_unlines {ls : List String} (h : ∀ l ∈ ls, OneLine l) :
    pieces '\n' (unlines ls).toList = ls.map String.toList ++ [[]] := by
  induction ls with
  | nil => rfl
  | cons l ls ih =>
      obtain ⟨hl, hls⟩ := List.forall_mem_cons.1 h
      rw [toList_unlines_cons, pieces_append_cons hl, ih hls]
      rfl

/-- All pieces but the last are lines that were ended by a newline. -/
lemma closedLines_append (ps : List (List Char)) {qs : List (List Char)} (h : qs ≠ []) :
    closedLines (ps ++ qs) = ps.map withoutReturn ++ closedLines qs := by
  induction ps with
  | nil => rfl
  | cons p ps ih =>
      have hne : ps ++ qs ≠ [] := List.append_ne_nil_of_right_ne_nil ps h
      rw [List.cons_append, closedLines.eq_3 p (ps ++ qs) hne, ih]
      rfl

/-- **Lines of joined lines.**  Lines without newlines that are joined are read again, but for a
carriage return at the end of each. -/
theorem lines_unlines {ls : List String} (h : ∀ l ∈ ls, OneLine l) :
    lines (unlines ls) = ls.map fun l => String.ofList (stripped l) := by
  rw [lines, pieces_unlines h, closedLines_append _ (List.cons_ne_nil _ _), List.map_append,
    List.map_map, List.map_map]
  exact List.append_nil _

/-! ## Whole lines -/

/-- A text that consists of whole lines: it is empty or ends in a newline. -/
def IsWhole (s : String) : Prop :=
  s = "" ∨ ∃ front, s = front ++ "\n"

/-- Behind whole lines a text goes on with a line of its own. -/
lemma IsWhole.lines_append {s : String} (h : IsWhole s) (t : String) :
    lines (s ++ t) = lines s ++ lines t := by
  rcases h with rfl | ⟨front, rfl⟩
  · rw [String.empty_append]
    rfl
  · have hclosed (rest : List Char) : closedLines (pieces '\n' (front.toList ++ '\n' :: rest)) =
        (pieces '\n' front.toList).map withoutReturn ++ closedLines (pieces '\n' rest) := by
      rw [pieces_append_sep, closedLines_append _ (pieces_ne_nil _ _)]
    have hend : (front ++ "\n").toList = front.toList ++ '\n' :: [] := String.toList_append
    rw [lines, lines, lines, String.toList_append, hend, List.append_assoc, List.cons_append,
      List.nil_append, hclosed, hclosed, List.map_append, List.map_append]
    exact congrArg (· ++ _) (List.append_nil _).symm

/-! ## Lines that were read -/

lemma withoutReturn_prefix (l : List Char) : withoutReturn l <+: l := by
  unfold withoutReturn
  split
  next => exact List.dropLast_prefix l
  next => exact List.prefix_rfl

lemma exists_piece_of_mem_closedLines {ps : List (List Char)} {line : List Char}
    (h : line ∈ closedLines ps) : ∃ piece ∈ ps, line <+: piece := by
  induction ps using closedLines.induct with
  | case1 => cases h
  | case2 last hlast =>
      rw [closedLines, if_pos hlast] at h
      cases h
  | case3 last hlast =>
      rw [closedLines, if_neg hlast, List.mem_singleton] at h
      exact ⟨last, List.mem_singleton_self last, h ▸ List.prefix_rfl⟩
  | case4 l ls hne ih =>
      rw [closedLines.eq_3 l ls hne, List.mem_cons] at h
      rcases h with rfl | h
      · exact ⟨l, List.mem_cons_self, withoutReturn_prefix l⟩
      · obtain ⟨piece, hpiece, hfront⟩ := ih h
        exact ⟨piece, List.mem_cons_of_mem l hpiece, hfront⟩

lemma oneLine_of_mem_lines {text line : String} (h : line ∈ lines text) : OneLine line := by
  obtain ⟨cs, hcs, rfl⟩ := List.mem_map.1 h
  obtain ⟨piece, hpiece, hfront⟩ := exists_piece_of_mem_closedLines hcs
  rw [oneLine_ofList]
  exact fun hmem => notMem_of_mem_pieces piece hpiece (hfront.subset hmem)

end MathHeader.Text
