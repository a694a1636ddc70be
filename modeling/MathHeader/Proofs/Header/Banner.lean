import MathHeader.Header.Config
import MathHeader.Proofs.Text.OneLine
import Mathlib.Data.List.Chain
import Mathlib.Data.List.Induction

/-!
# The banner

A license that is wrapped in a comment must not end that comment.  An end can come from a `*/` in
the license, from an asterisk and a slash that meet when something is put in front of a line, or
from what a `*/` is replaced by.  None of these is left: no asterisk stands in front of a slash in
any line (`Unclosed`), a newline keeps the lines apart, and so the first `*/` behind the opening is
the one that is meant: `banner_of_license`.

The replacement runs from the end of a line to its start.  `replaced_iff` says that it is the usual
one, which goes from left to right and looks for the next `*/` behind the last.
-/

namespace MathHeader

open Text

/-! ## The replacement -/

/-- What ends a comment. -/
def terminator : List Char :=
  ['*', '/']

/-- What stands for it in a comment. -/
def brokenTerminator : List Char :=
  ['*', ' ', '/']

/-- Each place of a pattern is replaced, from left to right: where the pattern stands, the search
goes on behind it, and every other character stays.  Places do not overlap. -/
inductive Replaced (old new : List Char) : List Char → List Char → Prop
  | nil : Replaced old new [] []
  | place {cs ds : List Char} (rest : Replaced old new cs ds) :
      Replaced old new (old ++ cs) (new ++ ds)
  | other {c : Char} {cs ds : List Char} (noPlace : ¬old <+: c :: cs)
      (rest : Replaced old new cs ds) : Replaced old new (c :: cs) (c :: ds)

section Replacement

variable {c : Char} {cs ds : List Char}

lemma terminator_prefix_cons : terminator <+: c :: cs ↔ c = '*' ∧ cs.head? = some '/' := by
  rw [terminator, List.cons_prefix_cons, eq_comm, List.singleton_prefix_iff_head?_eq_some]

lemma breakTerminators_cons (c : Char) (cs : List Char) :
    breakTerminators (c :: cs) = guardSlash c (breakTerminators cs) := rfl

lemma head?_guardSlash (c : Char) (cs : List Char) : (guardSlash c cs).head? = some c := by
  unfold guardSlash
  split
  next h => rw [h.1, List.head?_cons]
  next => rfl

lemma head?_breakTerminators (cs : List Char) : (breakTerminators cs).head? = cs.head? := by
  cases cs with
  | nil => rfl
  | cons c cs => exact head?_guardSlash c (breakTerminators cs)

lemma breakTerminators_terminator (cs : List Char) :
    breakTerminators (terminator ++ cs) = brokenTerminator ++ breakTerminators cs := by
  have hslash : guardSlash '/' (breakTerminators cs) = '/' :: breakTerminators cs :=
    if_neg fun h => absurd h.1 (by decide)
  change guardSlash '*' (guardSlash '/' (breakTerminators cs)) = _
  rw [hslash]
  exact if_pos ⟨rfl, rfl⟩

lemma breakTerminators_other (h : ¬terminator <+: c :: cs) :
    breakTerminators (c :: cs) = c :: breakTerminators cs := by
  rw [terminator_prefix_cons, ← head?_breakTerminators] at h
  exact if_neg h

lemma replaced_breakTerminators (cs : List Char) :
    Replaced terminator brokenTerminator cs (breakTerminators cs) := by
  -- Behind a terminator the search goes on two characters further.
  induction cs using List.twoStepInduction with
  | nil => exact .nil
  | singleton c =>
      have hother : ¬terminator <+: [c] := fun h => Nat.not_succ_le_self 1 h.length_le
      rw [breakTerminators_other hother]
      exact .other hother .nil
  | cons_cons c d rest ih ihcons =>
      by_cases hplace : terminator <+: c :: d :: rest
      · obtain ⟨behind, hbehind⟩ := hplace
        cases hbehind
        exact breakTerminators_terminator behind ▸ .place ih
      · rw [breakTerminators_other hplace]
        exact .other hplace (ihcons d)

/-- **The replacement.**  Taking the terminators apart replaces each of them. -/
theorem replaced_iff : Replaced terminator brokenTerminator cs ds ↔ breakTerminators cs = ds := by
  constructor
  · intro h
    induction h with
    | nil => rfl
    | place _ ih => rw [breakTerminators_terminator, ih]
    | other hother _ ih => rw [breakTerminators_other hother, ih]
  · rintro rfl
    exact replaced_breakTerminators cs

lemma newline_notMem_breakTerminators (h : '\n' ∉ cs) : '\n' ∉ breakTerminators cs := by
  induction cs with
  | nil => exact h
  | cons c cs ih =>
      rw [List.mem_cons, not_or] at h
      have hrest : '\n' ∉ breakTerminators cs := ih h.2
      rw [breakTerminators_cons, guardSlash]
      split
      · simpa using hrest
      · simpa using ⟨h.1, hrest⟩

end Replacement

/-! ## Where a comment ends -/

/-- No asterisk stands directly in front of a slash. -/
def Unclosed (cs : List Char) : Prop :=
  cs.IsChain fun c d => ¬(c = '*' ∧ d = '/')

/-- The pattern stands behind `front` in the text, and nowhere before. -/
def FirstBehind (pattern front text : List Char) : Prop :=
  front ++ pattern <+: text ∧
    ∀ front', front' ++ pattern <+: text → front.length ≤ front'.length

section Unclosed

variable {c : Char} {cs ds : List Char}

lemma unclosed_cons :
    Unclosed (c :: cs) ↔ ¬(c = '*' ∧ cs.head? = some '/') ∧ Unclosed cs := by
  rw [Unclosed, List.isChain_cons]
  refine and_congr_left fun _ => ⟨fun h hc => h '/' hc.2 ⟨hc.1, rfl⟩, ?_⟩
  rintro h d hd ⟨rfl, rfl⟩
  exact h ⟨rfl, hd⟩

lemma unclosed_append :
    Unclosed (cs ++ ds) ↔
      Unclosed cs ∧ Unclosed ds ∧ ¬(cs.getLast? = some '*' ∧ ds.head? = some '/') := by
  rw [Unclosed, List.isChain_append]
  refine and_congr_right fun _ => and_congr_right fun _ =>
    ⟨fun h hc => h '*' hc.1 '/' hc.2 ⟨rfl, rfl⟩, ?_⟩
  rintro h c hc d hd ⟨rfl, rfl⟩
  exact h ⟨hc, hd⟩

/-- A newline keeps lines apart. -/
lemma Unclosed.append_newline (hcs : Unclosed cs) (hds : Unclosed ds) :
    Unclosed (cs ++ '\n' :: ds) := by
  refine unclosed_append.2 ⟨hcs, unclosed_cons.2 ⟨?_, hds⟩, ?_⟩
  · rintro ⟨⟨⟩, -⟩
  · rintro ⟨-, ⟨⟩⟩

lemma Unclosed.unlines {ls : List String} (h : ∀ l ∈ ls, Unclosed l.toList) :
    Unclosed (unlines ls).toList := by
  induction ls with
  | nil => exact List.isChain_nil
  | cons l ls ih =>
      obtain ⟨hl, hls⟩ := List.forall_mem_cons.1 h
      rw [toList_unlines_cons]
      exact hl.append_newline (ih hls)

/-- A space is put behind every asterisk that would be in front of a slash. -/
lemma Unclosed.guardSlash (h : Unclosed cs) (c : Char) : Unclosed (guardSlash c cs) := by
  unfold MathHeader.guardSlash
  split
  next =>
    refine unclosed_cons.2 ⟨?_, unclosed_cons.2 ⟨?_, h⟩⟩
    · rintro ⟨-, ⟨⟩⟩
    · rintro ⟨⟨⟩, -⟩
  next hmeet => exact unclosed_cons.2 ⟨hmeet, h⟩

lemma unclosed_breakTerminators (cs : List Char) : Unclosed (breakTerminators cs) := by
  induction cs with
  | nil => exact List.isChain_nil
  | cons c cs ih => exact ih.guardSlash c

lemma Unclosed.not_occurs (h : Unclosed cs) : ¬terminator <:+: cs := by
  intro hoccurs
  have hchain : Unclosed terminator := List.IsChain.infix h hoccurs
  exact (List.isChain_cons_cons.1 hchain).1 ⟨rfl, rfl⟩

/-- A terminator is the first one if its asterisk does not end another one. -/
lemma firstBehind_terminator (h : Unclosed (cs ++ ['*'])) (ds : List Char) :
    FirstBehind terminator cs (cs ++ terminator ++ ds) := by
  refine ⟨List.prefix_append _ ds, fun front hfront => ?_⟩
  by_contra hlt
  have hopen : cs ++ ['*'] <+: cs ++ terminator ++ ds :=
    ⟨'/' :: ds, by simp [terminator]⟩
  have hlength : (front ++ terminator).length ≤ (cs ++ ['*']).length := by
    simp only [terminator, List.length_append, List.length_cons, List.length_nil]
    omega
  have hinside : front ++ terminator <+: cs ++ ['*'] :=
    List.prefix_of_prefix_length_le hfront hopen hlength
  exact h.not_occurs ((List.suffix_append front terminator).isInfix.trans
    hinside.isInfix)

lemma firstBehind_lines {body : String} (h : Unclosed body.toList) (rest : String) :
    FirstBehind terminator ("\n" ++ body ++ " ").toList
      ("\n" ++ body ++ " " ++ "*/" ++ rest).toList := by
  have hclose : Unclosed [' ', '*'] := by simp [Unclosed]
  have hbody : Unclosed (body.toList ++ [' ', '*']) := by
    refine unclosed_append.2 ⟨h, hclose, ?_⟩
    rintro ⟨-, ⟨⟩⟩
  have hinside : Unclosed (("\n" ++ body ++ " ").toList ++ ['*']) := by
    rw [String.toList_append, String.toList_append, List.append_assoc, List.append_assoc]
    exact Unclosed.append_newline List.isChain_nil hbody
  have htext : ("\n" ++ body ++ " " ++ "*/" ++ rest).toList =
      ("\n" ++ body ++ " ").toList ++ terminator ++ rest.toList := by
    rw [String.toList_append, String.toList_append]
    rfl
  exact htext ▸ firstBehind_terminator hinside rest.toList

end Unclosed

/-! ## Lines of a comment -/

/-- What stands in front of a line in a comment. -/
def margin (line : String) : String :=
  if line = "" then " *" else " * "

/-- A line of a comment carries a line of a license: behind the margin stands the line with each
terminator replaced. -/
def Carries (line content : String) : Prop :=
  ∃ text, content = margin line ++ text ∧
    Replaced terminator brokenTerminator line.toList text.toList

section CommentLine

variable {line : String}

lemma carries_commentLine (line : String) : Carries line (commentLine line) := by
  unfold commentLine
  split
  next h =>
    obtain rfl := String.isEmpty_iff.1 h
    exact ⟨"", rfl, .nil⟩
  next h =>
    rw [String.isEmpty_iff] at h
    refine ⟨_, by rw [margin, if_neg h], replaced_iff.2 ?_⟩
    rw [String.toList_ofList]

lemma oneLine_commentLine (h : OneLine line) : OneLine (commentLine line) := by
  unfold commentLine
  split
  next => decide
  next =>
    exact oneLine_append.2 ⟨by decide, oneLine_ofList.2 (newline_notMem_breakTerminators h)⟩

lemma unclosed_commentLine (line : String) : Unclosed (commentLine line).toList := by
  have hempty : Unclosed " *".toList := by simp [Unclosed]
  have hmargin : Unclosed " * ".toList := by simp [Unclosed]
  unfold commentLine
  split
  next => exact hempty
  next =>
    have htext : Unclosed (String.ofList (breakTerminators line.toList)).toList := by
      rw [String.toList_ofList]
      exact unclosed_breakTerminators line.toList
    rw [String.toList_append]
    refine unclosed_append.2 ⟨hmargin, htext, ?_⟩
    rintro ⟨⟨⟩, -⟩

end CommentLine

/-! ## The banner of a license that is wrapped -/

section Banner

variable {c : Config} {license : String}

lemma startsComment_eq_false {text : String} (hblock : ¬"/*".toList <+: text.toList)
    (hline : ¬"//".toList <+: text.toList) : startsComment text = false := by
  unfold startsComment
  split
  next rest htext => exact absurd ⟨rest, htext.symm⟩ hblock
  next rest htext => exact absurd ⟨rest, htext.symm⟩ hline
  next => rfl

lemma bannerLines_of_license (hlicense : c.license = some license)
    (hstart : startsComment (trimEnd license) = false) :
    c.bannerLines = "/*" :: (lines (trimEnd license)).map commentLine ++
      [" */", "", generatedRemark] := by
  simp [Config.bannerLines, hlicense, licenseLines, hstart, wrapComment]

/-- **A license stays inside its comment.**  If a license is not a comment already, the banner has
a line that opens a comment, a line for each line of the license, in their order, a line that
closes the comment, an empty line, and the remark.  The lines of the license are there with each
terminator replaced, and the first terminator behind the opening is the one in the line that is to
close the comment. -/
theorem banner_of_license (hlicense : c.license = some license)
    (hblock : ¬"/*".toList <+: (trimEnd license).toList)
    (hline : ¬"//".toList <+: (trimEnd license).toList) :
    ∃ contents : List String,
      c.banner = unlines ("/*" :: contents ++ [" */", "", generatedRemark]) ∧
      (∀ content ∈ contents, OneLine content) ∧
      List.Forall₂ Carries (lines (trimEnd license)) contents ∧
      ∃ behind, c.banner.toList = "/*".toList ++ behind ∧
        FirstBehind terminator ("\n" ++ unlines contents ++ " ").toList behind := by
  have hlines := bannerLines_of_license hlicense (startsComment_eq_false hblock hline)
  set contents := (lines (trimEnd license)).map commentLine
  refine ⟨contents, congrArg unlines hlines, ?_, ?_, ?_⟩
  · exact List.forall_mem_map.2 fun l hl => oneLine_commentLine (oneLine_of_mem_lines hl)
  · exact List.forall₂_map_right_iff.2 (List.forall₂_same.2 fun l _ => carries_commentLine l)
  · have hbody : Unclosed (unlines contents).toList :=
      Unclosed.unlines (List.forall_mem_map.2 fun l _ => unclosed_commentLine l)
    have hclose : unlines [" */", "", generatedRemark] =
        " " ++ ("*/" ++ ("\n\n" ++ generatedRemark ++ "\n")) := by decide
    have hbanner : c.banner = "/*" ++ ("\n" ++ unlines contents ++ " " ++ "*/" ++
        ("\n\n" ++ generatedRemark ++ "\n")) := by
      rw [Config.banner, hlines, List.cons_append, unlines_cons, unlines_append, hclose]
      simp only [String.append_assoc]
    exact ⟨_, by rw [hbanner, String.toList_append], firstBehind_lines hbody _⟩

/-- Settings with a license that tries to close its comment in every way. -/
def starsAndSlashes : Config :=
  { Config.standard with license := some "*/ **//\n/*/\n\n*/* /*\r\n/ x *\t\n" }

/-- No line of the license closes the comment, neither by itself nor with its margin. -/
theorem banner_starsAndSlashes :
    starsAndSlashes.banner =
      unlines ["/*", " * * / ** //", " * /* /", " *", " * * /* /*", " * / x *", " */", "",
        generatedRemark] ∧
    ∃ contents : List String,
      starsAndSlashes.banner = unlines ("/*" :: contents ++ [" */", "", generatedRemark]) ∧
      (∀ content ∈ contents, OneLine content) ∧
      List.Forall₂ Carries ["*/ **//", "/*/", "", "*/* /*", "/ x *"] contents ∧
      ∃ behind, starsAndSlashes.banner.toList = "/*".toList ++ behind ∧
        FirstBehind terminator ("\n" ++ unlines contents ++ " ").toList behind := by
  have hlines : lines (trimEnd "*/ **//\n/*/\n\n*/* /*\r\n/ x *\t\n") =
      ["*/ **//", "/*/", "", "*/* /*", "/ x *"] := by decide
  have hbanner := banner_of_license (c := starsAndSlashes) rfl (by decide) (by decide)
  rw [hlines] at hbanner
  exact ⟨by decide, hbanner⟩

end Banner

end MathHeader
