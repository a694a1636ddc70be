import MathHeader.Proofs.Check.Placement
import MathHeader.Proofs.Text.OneLine
import Mathlib.Data.Fin.Basic
import Mathlib.Data.Set.List

/-!
# Directives that ask for an order

Directives that look ahead ask for lines in an order: one line for each pattern, every line after
the one before.  The walk takes the first line for a pattern and never goes back to it.  It misses
nothing by that, since an earlier line leaves more lines for the patterns that follow:
`patternsMet_cons_iff`.

So the walk succeeds exactly if there are such lines at all, wherever they are, which is
`validate_eq_ok_iff_ascending`.  Then more lines in the text, or fewer directives, do no harm.
-/

namespace MathHeader.Check

/-! ## Directives that look ahead -/

/-- Whether a directive asks for nothing but an order: it looks ahead, or is a remark. -/
def Directive.isOrdering : Directive → Bool
  | anchor _ _ | comment _ => true
  | next _ | absent _ | empty => false

/-- The pattern that a directive looks ahead for. -/
def Directive.sought? : Directive → Option String
  | anchor _ pattern => some pattern
  | _ => none

/-- The patterns that directives look ahead for, in order. -/
def patterns (ds : List Directive) : List String :=
  ds.filterMap Directive.sought?

/-! ## Lines with numbers that go up -/

def Contains (pattern line : String) : Prop :=
  pattern.toList <:+: line.toList

/-- **Ascending lines.**  There is a number for each pattern, the numbers go up, and the line with
the number of a pattern, counted from zero, contains it. -/
structure Ascending (ls ps : List String) (numbers : List Nat) : Prop where
  increasing : numbers.Pairwise (· < ·)
  found : List.Forall₂ (fun pattern n => ∃ line, ls[n]? = some line ∧ Contains pattern line)
    ps numbers

/-! ## Lines without numbers -/

/-- Some of the lines, in their order, contain the patterns one by one. -/
def PatternsMet (ps ls : List String) : Prop :=
  List.SublistForall₂ Contains ps ls

section PatternsMet

variable {ps ps' ls ls' : List String} {pattern line : String}

lemma exists_ascending_iff : (∃ numbers, Ascending ls ps numbers) ↔ PatternsMet ps ls := by
  have hline (i : Fin ls.length) (pattern : String) :
      (∃ line, ls[i.val]? = some line ∧ Contains pattern line) ↔ Contains pattern ls[i] := by
    simp
  rw [PatternsMet, List.sublistForall₂_iff]
  constructor
  · rintro ⟨numbers, hincreasing, hfound⟩
    have hlt : ∀ n ∈ numbers, n < ls.length := by
      intro n hn
      obtain ⟨_, -, line, hline, -⟩ := exists_of_forall₂_of_mem hfound hn
      exact (List.getElem?_eq_some_iff.1 hline).1
    lift numbers to List (Fin ls.length) using hlt
    rw [List.pairwise_map] at hincreasing
    rw [List.forall₂_map_right_iff] at hfound
    refine ⟨numbers.map (ls[·]), ?_, List.map_getElem_sublist hincreasing⟩
    rw [List.forall₂_map_right_iff]
    exact hfound.imp fun pattern i => (hline i pattern).1
  · rintro ⟨picked, hpicked, hsublist⟩
    obtain ⟨numbers, rfl, hincreasing⟩ := List.sublist_eq_map_getElem hsublist
    rw [List.forall₂_map_right_iff] at hpicked
    refine ⟨numbers.map Fin.val, List.pairwise_map.2 hincreasing, ?_⟩
    rw [List.forall₂_map_right_iff]
    exact hpicked.imp fun pattern i => (hline i pattern).2

/-- More lines do no harm. -/
lemma PatternsMet.of_lines (h : PatternsMet ps ls) (hls : ls.Sublist ls') : PatternsMet ps ls' := by
  obtain ⟨picked, hpicked, hsublist⟩ := List.sublistForall₂_iff.1 h
  exact List.sublistForall₂_iff.2 ⟨picked, hpicked, hsublist.trans hls⟩

/-- Fewer patterns do no harm. -/
lemma PatternsMet.of_patterns (h : PatternsMet ps ls) (hps : ps'.Sublist ps) :
    PatternsMet ps' ls := by
  induction h generalizing ps' with
  | nil =>
      rw [List.sublist_nil.1 hps]
      exact .nil
  | cons hpattern _ ih =>
      cases hps with
      | cons _ hps => exact .cons_right (ih hps)
      | cons_cons _ hps => exact .cons hpattern (ih hps)
  | cons_right _ ih => exact .cons_right (ih hps)

/-- **The first line is as good as any.**  Patterns are met exactly if those after the first one are
met behind the first line that contains it. -/
lemma patternsMet_cons_iff {skipped rest : List String} (hline : Contains pattern line)
    (hskipped : ∀ l ∈ skipped, ¬Contains pattern l) :
    PatternsMet (pattern :: ps) (skipped ++ line :: rest) ↔ PatternsMet ps rest := by
  constructor
  · intro h
    induction skipped with
    | nil =>
        cases h with
        | cons _ h => exact h
        | cons_right h => exact PatternsMet.of_patterns h (List.sublist_cons_self pattern ps)
    | cons l skipped ih =>
        obtain ⟨hl, hskipped⟩ := List.forall_mem_cons.1 hskipped
        cases h with
        | cons hpattern _ => exact absurd hpattern hl
        | cons_right h => exact ih hskipped h
  · intro h
    have hcons : PatternsMet (pattern :: ps) (line :: rest) := .cons hline h
    exact hcons.of_lines (List.sublist_append_right _ _)

lemma not_patternsMet_cons (h : ∀ l ∈ ls, ¬Contains pattern l) :
    ¬PatternsMet (pattern :: ps) ls := by
  intro hmet
  obtain ⟨picked, hpicked, hsublist⟩ := List.sublistForall₂_iff.1 hmet
  obtain ⟨l, rest, hl, -, rfl⟩ := List.forall₂_cons_left_iff.1 hpicked
  exact h l (hsublist.subset List.mem_cons_self) hl

end PatternsMet

/-! ## The walk -/

/-- **The walk misses nothing.**  It succeeds exactly if the patterns are met. -/
lemma matchLines_eq_ok_iff_patternsMet {ls : List String} {ds : List Directive}
    (hds : ∀ d ∈ ds, d.isOrdering = true) :
    matchLines ls [] ds = .ok () ↔ PatternsMet (patterns ds) ls := by
  induction ds generalizing ls with
  | nil => exact iff_of_true rfl .nil
  | cons d ds ih =>
      obtain ⟨hd, htail⟩ := List.forall_mem_cons.1 hds
      cases d with
      | comment text => exact ih htail
      | anchor kind pattern =>
          have hsplit := splitAtMatch_spec pattern ls
          have hpatterns : patterns (.anchor kind pattern :: ds) = pattern :: patterns ds := rfl
          rw [matchLines, hpatterns]
          cases hfound : splitAtMatch pattern ls with
          | none =>
              rw [hfound] at hsplit
              refine iff_of_false (fun hok => ?_) (not_patternsMet_cons hsplit)
              cases hok
          | some parts =>
              obtain ⟨skipped, rest⟩ := parts
              rw [hfound] at hsplit
              obtain ⟨line, rfl, hline, hskipped⟩ := hsplit
              rw [patternsMet_cons_iff hline hskipped]
              exact ih htail
      | next pattern => cases hd
      | absent pattern => cases hd
      | empty => cases hd

/-! ## The whole -/

/-- **An order is all that is asked for.**  Directives that look ahead match a text exactly if there
are ascending lines for their patterns.  They still do after lines have been inserted into the text,
and without some of the directives. -/
theorem validate_eq_ok_iff_ascending {text : String} {ds : List Directive}
    (hds : ∀ d ∈ ds, d.isOrdering = true) :
    (validate text ds = .ok () ↔
      ∃ numbers, Ascending (Text.lines text) (patterns ds) numbers) ∧
    (validate text ds = .ok () →
      (∀ text', (Text.lines text).Sublist (Text.lines text') → validate text' ds = .ok ()) ∧
      (∀ front inserted back, text = front ++ back → Text.IsWhole front → Text.IsWhole inserted →
        validate (front ++ inserted ++ back) ds = .ok ()) ∧
      ∀ ds' : List Directive, ds'.Sublist ds → validate text ds' = .ok ()) := by
  have hwalk {text : String} {ds : List Directive} (hds : ∀ d ∈ ds, d.isOrdering = true) :
      validate text ds = .ok () ↔ PatternsMet (patterns ds) (Text.lines text) :=
    matchLines_eq_ok_iff_patternsMet hds
  refine ⟨by rw [hwalk hds, exists_ascending_iff], fun hvalid => ?_⟩
  have hmet := (hwalk hds).1 hvalid
  have hlines (text' : String) (hsublist : (Text.lines text).Sublist (Text.lines text')) :
      validate text' ds = .ok () :=
    (hwalk hds).2 (hmet.of_lines hsublist)
  refine ⟨hlines, fun front inserted back htext hfront hinserted => hlines _ ?_, fun ds' hds' => ?_⟩
  · rw [htext, String.append_assoc, hfront.lines_append, hfront.lines_append,
      hinserted.lines_append]
    exact (List.sublist_append_right _ _).append_left _
  · have hsome : ∀ d ∈ ds', d.isOrdering = true := fun d hd => hds d (hds'.subset hd)
    exact (hwalk hsome).2 (hmet.of_patterns (hds'.filterMap Directive.sought?))

/-- Two directives with a remark between them. -/
def firstThenSecond : List Directive :=
  [.anchor .label "a", .comment "and then", .anchor .check "b"]

/-- Lines for two patterns, the first of which the walk finds earlier, in the line with both; a line
between them; and a text with the lines in the other order. -/
theorem validate_firstThenSecond :
    (∀ d ∈ firstThenSecond, d.isOrdering = true) ∧
    Ascending (Text.lines "b a\na\nb") (patterns firstThenSecond) [1, 2] ∧
    validate "b a\na\nb" firstThenSecond = .ok () ∧
    validate ("b a\na\n" ++ "c\n" ++ "b") firstThenSecond = .ok () ∧
    ¬∃ numbers, Ascending (Text.lines "b\na\n") (patterns firstThenSecond) numbers := by
  have hds : ∀ d ∈ firstThenSecond, d.isOrdering = true := by decide
  have hascending : Ascending (Text.lines "b a\na\nb") (patterns firstThenSecond) [1, 2] := by
    refine ⟨by decide, .cons ⟨"a", by decide, ?_⟩ (.cons ⟨"b", by decide, ?_⟩ .nil)⟩
    · exact List.infix_rfl
    · exact List.infix_rfl
  have hvalid : validate "b a\na\nb" firstThenSecond = .ok () :=
    (validate_eq_ok_iff_ascending hds).1.2 ⟨[1, 2], hascending⟩
  have hother : validate "b\na\n" firstThenSecond ≠ .ok () := by decide
  refine ⟨hds, hascending, hvalid, ?_, mt (validate_eq_ok_iff_ascending hds).1.2 hother⟩
  obtain ⟨-, hinsert, -⟩ := (validate_eq_ok_iff_ascending hds).2 hvalid
  exact hinsert _ _ _ rfl (.inr ⟨"b a\na", rfl⟩) (.inr ⟨"c", rfl⟩)

end MathHeader.Check
