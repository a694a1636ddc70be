import MathHeader.Check.Directive
import MathHeader.Proofs.Text.OneLine
import MathHeader.Proofs.Text.Trimming
import MathHeader.Proofs.Traversal

/-!
# Reading a check file

What a line of a check file says is told by its form: it is a comment, once trimmed, and a keyword
stands in front of the text of the comment.  A comment that starts like a directive without being
one is a flaw.  Every other line says nothing.

No line has an influence on how another one is read.  So a check file is read exactly as its lines
say, in their order, or else the first flaw is reported with its place, and a list of directives
that is written line by line is read again whatever stands between the lines.  `parse_outcome` puts
this together.
-/

namespace MathHeader.Check

open Text

/-! ## Lines that are comments -/

/-- The line is a comment, once it is trimmed: `//`, white space, and the given text. -/
def HoldsComment (line : String) (text : List Char) : Prop :=
  ∃ blanks, AllBlank blanks ∧ (trim line).toList = commentMark ++ blanks ++ text

/-- The line is a comment that is meant as a directive: its text starts with `CHECK` or `COM:`. -/
def IsDirectiveLine (line : String) : Prop :=
  ∃ text, HoldsComment line text ∧
    (checkWord <+: text ∨ Keyword.comment.spelling <+: text)

section Comment

variable {line : String} {text after : List Char} {k : Keyword}

lemma holdsComment_of_commentText? (h : commentText? line = some text) :
    HoldsComment line text := by
  obtain ⟨rest, hrest, rfl⟩ := Option.map_eq_some_iff.1 h
  obtain ⟨blanks, hblanks, hsplit, -⟩ := dropBlanks_eq_iff.1 (rfl : dropBlanks rest = _)
  refine ⟨blanks, hblanks, ?_⟩
  rw [List.append_assoc, ← hsplit, List.isPrefixOf?_eq_some_iff_append_eq.1 hrest]

/-- The white space ends where a text starts that does not start with a blank. -/
lemma HoldsComment.commentText?_eq (h : HoldsComment line text) (hvisible : LeadsVisible text) :
    commentText? line = some text := by
  obtain ⟨blanks, hblanks, hline⟩ := h
  rw [List.append_assoc] at hline
  have hrest : commentMark.isPrefixOf? (trim line).toList = some (blanks ++ text) :=
    List.isPrefixOf?_eq_some_iff_append_eq.2 hline.symm
  rw [commentText?, hrest, Option.map_some,
    dropBlanks_eq_iff.2 ⟨blanks, hblanks, rfl, hvisible⟩]

lemma leadsVisible_spelling (k : Keyword) (after : List Char) :
    LeadsVisible (k.spelling ++ after) := by
  cases k <;> (rintro c ⟨rfl⟩; decide)

lemma leadsVisible_of_word (h : checkWord <+: text ∨ Keyword.comment.spelling <+: text) :
    LeadsVisible text := by
  obtain ⟨after, rfl⟩ | ⟨after, rfl⟩ := h
  · rintro c ⟨rfl⟩
    decide
  · exact leadsVisible_spelling .comment after

lemma isDirectiveLine_iff :
    IsDirectiveLine line ↔
      (commentText? line).any (fun text =>
        checkWord.isPrefixOf text || Keyword.comment.spelling.isPrefixOf text) = true := by
  simp only [Option.any_eq_true, Bool.or_eq_true, List.isPrefixOf_iff_prefix]
  constructor
  · rintro ⟨text, hcomment, hword⟩
    exact ⟨text, hcomment.commentText?_eq (leadsVisible_of_word hword), hword⟩
  · rintro ⟨text, htext, hword⟩
    exact ⟨text, holdsComment_of_commentText? htext, hword⟩

instance : DecidablePred IsDirectiveLine :=
  fun _ => decidable_of_iff _ isDirectiveLine_iff.symm

/-- Of two spellings neither starts with the other. -/
lemma atFront?_eq_some_iff :
    Keyword.atFront? text = some (k, after) ↔ text = k.spelling ++ after := by
  constructor
  · intro h
    obtain ⟨l, -, hl⟩ := List.exists_of_findSome?_eq_some h
    obtain ⟨rest, hrest, hpair⟩ := Option.map_eq_some_iff.1 hl
    cases hpair
    exact (List.isPrefixOf?_eq_some_iff_append_eq.1 hrest).symm
  · rintro rfl
    cases k <;> rfl

/-- Every keyword starts with one of the two words. -/
lemma word_prefix_spelling (k : Keyword) (after : List Char) :
    checkWord <+: k.spelling ++ after ∨ Keyword.comment.spelling <+: k.spelling ++ after := by
  have hword : checkWord <+: k.spelling ∨ Keyword.comment.spelling <+: k.spelling := by
    cases k <;> decide
  exact hword.imp (·.trans (List.prefix_append _ _)) (·.trans (List.prefix_append _ _))

end Comment

/-! ## What lines say -/

/-- **What a line says.**  Behind a keyword stands the text of the directive, with any blanks around
it; only a pattern must have a character. -/
inductive Says (line : String) : Directive → Prop
  | intro (k : Keyword) (after : List Char) (comment : HoldsComment line (k.spelling ++ after))
      (pattern : k.needsPattern = true → ¬AllBlank after) :
      Says line (k.directive (trim (String.ofList after)))

/-- **What is wrong with a line**, as a mistake that lacks the number of the line. -/
inductive Flaw (line : String) : (Nat → ParseFault) → Prop
  /-- The comment starts with `CHECK`, and with no keyword. -/
  | unknown (text : List Char) (comment : HoldsComment line text) (word : checkWord <+: text)
      (other : ∀ k : Keyword, ¬k.spelling <+: text) :
      Flaw line fun number => .unknownDirective number (String.ofList text)
  /-- Nothing but blanks stand behind a keyword that needs a pattern. -/
  | noPattern (k : Keyword) (after : List Char)
      (comment : HoldsComment line (k.spelling ++ after)) (needs : k.needsPattern = true)
      (blank : AllBlank after) : Flaw line .emptyPattern

/-- Something is wrong with a line. -/
def IsFlawed (line : String) : Prop :=
  ∃ fault, Flaw line fault

section Line

variable {line : String} {d : Directive} {fault : Nat → ParseFault}

lemma isEmpty_trim_iff {after : List Char} :
    (trim (String.ofList after)).isEmpty = true ↔ AllBlank after := by
  rw [String.isEmpty_iff, trim_eq_iff, String.toList_ofList]
  constructor
  · rintro ⟨front, back, hfront, hback, rfl, -⟩
    exact List.forall_mem_append.2 ⟨List.forall_mem_append.2 ⟨hfront, allBlank_nil⟩, hback⟩
  · intro hblank
    exact ⟨[], after, allBlank_nil, hblank, rfl, leadsVisible_nil, leadsVisible_nil⟩

lemma readLine_keyword {k : Keyword} {after : List Char}
    (h : commentText? line = some (k.spelling ++ after)) (number : Nat) :
    readLine number line =
      if k.needsPattern && (trim (String.ofList after)).isEmpty then
        .error (.emptyPattern number)
      else .ok (some (k.directive (trim (String.ofList after)))) := by
  have hfront : Keyword.atFront? (k.spelling ++ after) = some (k, after) :=
    atFront?_eq_some_iff.2 rfl
  simp only [readLine, h, readComment, hfront]

lemma Says.readLine_eq (h : Says line d) (number : Nat) : readLine number line = .ok (some d) := by
  obtain ⟨k, after, hcomment, hpattern⟩ := h
  rw [readLine_keyword (hcomment.commentText?_eq (leadsVisible_spelling k after)), if_neg]
  rw [Bool.and_eq_true, isEmpty_trim_iff]
  exact fun ⟨hneeds, hblank⟩ => hpattern hneeds hblank

lemma Flaw.readLine_eq (h : Flaw line fault) (number : Nat) :
    readLine number line = .error (fault number) := by
  cases h with
  | unknown text hcomment hword hother =>
      have hnone : Keyword.atFront? text = none := by
        refine Option.eq_none_iff_forall_ne_some.2 fun entry hentry => ?_
        exact hother entry.1 ⟨entry.2, (atFront?_eq_some_iff.1 hentry).symm⟩
      have htext := hcomment.commentText?_eq (leadsVisible_of_word (.inl hword))
      simp only [readLine, htext, readComment, hnone, List.isPrefixOf_iff_prefix.2 hword,
        if_true]
  | noPattern k after hcomment hneeds hblank =>
      rw [readLine_keyword (hcomment.commentText?_eq (leadsVisible_spelling k after)), if_pos]
      rw [Bool.and_eq_true, isEmpty_trim_iff]
      exact ⟨hneeds, hblank⟩

lemma Says.isDirectiveLine (h : Says line d) : IsDirectiveLine line := by
  obtain ⟨k, after, hcomment, -⟩ := h
  exact ⟨_, hcomment, word_prefix_spelling k after⟩

lemma Flaw.isDirectiveLine (h : Flaw line fault) : IsDirectiveLine line := by
  cases h with
  | unknown text hcomment hword _ => exact ⟨text, hcomment, .inl hword⟩
  | noPattern k after hcomment _ _ => exact ⟨_, hcomment, word_prefix_spelling k after⟩

/-- **One line.**  A line says a directive, or is flawed, or is not meant as a directive. -/
lemma readLine_cases (number : Nat) (line : String) :
    (∃ d, Says line d ∧ readLine number line = .ok (some d)) ∨
    (∃ fault, Flaw line fault ∧ readLine number line = .error (fault number)) ∨
    (¬IsDirectiveLine line ∧ readLine number line = .ok none) := by
  cases htext : commentText? line with
  | none =>
      refine .inr (.inr ⟨?_, by simp only [readLine, htext]⟩)
      rw [isDirectiveLine_iff, htext]
      exact Bool.false_ne_true
  | some text =>
      have hcomment := holdsComment_of_commentText? htext
      cases hfront : Keyword.atFront? text with
      | some entry =>
          obtain ⟨k, after⟩ := entry
          obtain rfl := atFront?_eq_some_iff.1 hfront
          by_cases hpattern : k.needsPattern = true → ¬AllBlank after
          · have hsaid : Says line _ := .intro k after hcomment hpattern
            exact .inl ⟨_, hsaid, hsaid.readLine_eq number⟩
          · push Not at hpattern
            have hflaw : Flaw line _ := .noPattern k after hcomment hpattern.1 hpattern.2
            exact .inr (.inl ⟨_, hflaw, hflaw.readLine_eq number⟩)
      | none =>
          have hother (k : Keyword) : ¬k.spelling <+: text := by
            rintro ⟨after, rfl⟩
            cases (atFront?_eq_some_iff.2 rfl).symm.trans hfront
          by_cases hword : checkWord <+: text
          · have hflaw : Flaw line _ := .unknown text hcomment hword hother
            exact .inr (.inl ⟨_, hflaw, hflaw.readLine_eq number⟩)
          · refine .inr (.inr ⟨?_, ?_⟩)
            · simp [isDirectiveLine_iff, htext, hword, hother .comment]
            · simp [readLine, htext, readComment, hfront, hword]

/-- A line does not say two things. -/
lemma Says.unique {d' : Directive} (h : Says line d) (h' : Says line d') : d = d' :=
  Option.some.inj (Except.ok.inj ((h.readLine_eq 0).symm.trans (h'.readLine_eq 0)))

lemma Flaw.unique {fault' : Nat → ParseFault} (h : Flaw line fault) (h' : Flaw line fault')
    (number : Nat) : fault number = fault' number :=
  Except.error.inj ((h.readLine_eq number).symm.trans (h'.readLine_eq number))

lemma Says.not_isFlawed (h : Says line d) : ¬IsFlawed line := by
  rintro ⟨fault, hfault⟩
  cases (h.readLine_eq 0).symm.trans (hfault.readLine_eq 0)

end Line

/-! ## Some lines -/

/-- Lines and directives correspond one to one, in their order: the lines that are meant as
directives say these. -/
def Tells (ls : List String) (ds : List Directive) : Prop :=
  List.Forall₂ Says (ls.filter (IsDirectiveLine ·)) ds

section Lines

variable {line : String} {ls : List String} {d : Directive} {ds : List Directive} {number : Nat}

lemma tells_nil_iff : Tells [] ds ↔ ds = [] :=
  List.forall₂_nil_left_iff

lemma tells_cons_of_not (h : ¬IsDirectiveLine line) : Tells (line :: ls) ds ↔ Tells ls ds := by
  rw [Tells, Tells, List.filter_cons_of_neg (by simpa using h)]

lemma tells_cons_of_isDirectiveLine (h : IsDirectiveLine line) :
    Tells (line :: ls) ds ↔ ∃ d ds', Says line d ∧ Tells ls ds' ∧ ds = d :: ds' := by
  rw [Tells, List.filter_cons_of_pos (by simpa using h), List.forall₂_cons_left_iff]
  rfl

/-- Directives are read exactly as the lines say. -/
lemma readLines_eq_ok_iff : readLines number ls = .ok ds ↔ Tells ls ds := by
  induction ls generalizing number ds with
  | nil =>
      rw [tells_nil_iff, readLines, Except.ok.injEq]
      exact eq_comm
  | cons line ls ih =>
      rcases readLine_cases number line with
        ⟨d, hsaid, hread⟩ | ⟨fault, hflaw, hread⟩ | ⟨hno, hread⟩
      · simp only [readLines, hread, bind_eq_ok_iff, ih,
          tells_cons_of_isDirectiveLine hsaid.isDirectiveLine]
        constructor
        · rintro ⟨_, ⟨⟩, ds', htells, ⟨⟩⟩
          exact ⟨d, ds', hsaid, htells, rfl⟩
        · rintro ⟨d', ds', hsaid', htells, rfl⟩
          obtain rfl := hsaid.unique hsaid'
          exact ⟨some d, rfl, ds', htells, rfl⟩
      · simp only [readLines, hread, bind_eq_ok_iff,
          tells_cons_of_isDirectiveLine hflaw.isDirectiveLine]
        constructor
        · rintro ⟨_, ⟨⟩, -⟩
        · rintro ⟨d, -, hsaid, -⟩
          exact absurd ⟨fault, hflaw⟩ hsaid.not_isFlawed
      · simp only [readLines, hread, bind_eq_ok_iff, ih, tells_cons_of_not hno]
        constructor
        · rintro ⟨_, ⟨⟩, ds', htells, ⟨⟩⟩
          exact htells
        · exact fun htells => ⟨none, rfl, ds, htells, rfl⟩

end Lines

/-! ## The first flaw -/

/-- `e` is the mistake in the first of the lines that has a flaw, if they are numbered from the
given number on. -/
def FirstFlaw (number : Nat) (ls : List String) (e : ParseFault) : Prop :=
  ∃ front line rest fault, ls = front ++ line :: rest ∧ (∀ l ∈ front, ¬IsFlawed l) ∧
    Flaw line fault ∧ e = fault (number + front.length)

section FirstFlaw

variable {line : String} {ls : List String} {number : Nat} {fault : Nat → ParseFault}
  {e : ParseFault}

lemma not_firstFlaw_nil : ¬FirstFlaw number [] e := by
  rintro ⟨front, line, rest, -, hls, -⟩
  exact List.append_ne_nil_of_right_ne_nil front (List.cons_ne_nil line rest) hls.symm

lemma firstFlaw_cons_of_flaw (h : Flaw line fault) :
    FirstFlaw number (line :: ls) e ↔ e = fault number := by
  constructor
  · rintro ⟨_ | ⟨first, front⟩, l, rest, fault', hls, hfront, hflaw, rfl⟩
    · cases hls
      exact (h.unique hflaw number).symm
    · cases hls
      exact absurd ⟨fault, h⟩ (hfront _ List.mem_cons_self)
  · rintro rfl
    exact ⟨[], line, ls, fault, rfl, fun _ hl => absurd hl List.not_mem_nil, h, rfl⟩

lemma firstFlaw_cons_of_not (h : ¬IsFlawed line) :
    FirstFlaw number (line :: ls) e ↔ FirstFlaw (number + 1) ls e := by
  have hnumber (front : List String) :
      number + (line :: front).length = number + 1 + front.length := by
    rw [List.length_cons, Nat.add_assoc, Nat.add_comm 1]
  constructor
  · rintro ⟨_ | ⟨first, front⟩, l, rest, fault, hls, hfront, hflaw, rfl⟩
    · cases hls
      exact absurd ⟨fault, hflaw⟩ h
    · cases hls
      exact ⟨front, l, rest, fault, rfl, (List.forall_mem_cons.1 hfront).2, hflaw,
        congrArg fault (hnumber front)⟩
  · rintro ⟨front, l, rest, fault, rfl, hfront, hflaw, rfl⟩
    exact ⟨line :: front, l, rest, fault, rfl, List.forall_mem_cons.2 ⟨h, hfront⟩, hflaw,
      congrArg fault (hnumber front).symm⟩

/-- There is a first flaw exactly if there is any. -/
lemma exists_firstFlaw_iff : (∃ e, FirstFlaw number ls e) ↔ ∃ line ∈ ls, IsFlawed line := by
  induction ls generalizing number with
  | nil => simp [not_firstFlaw_nil]
  | cons line ls ih =>
      rw [List.exists_mem_cons_iff]
      by_cases hline : IsFlawed line
      · obtain ⟨fault, hflaw⟩ := hline
        simp only [firstFlaw_cons_of_flaw hflaw, exists_eq, true_iff]
        exact .inl ⟨fault, hflaw⟩
      · simp only [firstFlaw_cons_of_not hline, ih, hline, false_or]

lemma readLines_eq_error_iff : readLines number ls = .error e ↔ FirstFlaw number ls e := by
  induction ls generalizing number with
  | nil => exact iff_of_false (fun h => nomatch h) not_firstFlaw_nil
  | cons line ls ih =>
      rcases readLine_cases number line with
        ⟨d, hsaid, hread⟩ | ⟨fault, hflaw, hread⟩ | ⟨hno, hread⟩
      · rw [firstFlaw_cons_of_not hsaid.not_isFlawed, ← ih, readLines, hread]
        exact bind_pure_eq_error_iff
      · rw [firstFlaw_cons_of_flaw hflaw, readLines, hread]
        exact ⟨fun h => (Except.error.inj h).symm, fun h => congrArg _ h.symm⟩
      · have hline : ¬IsFlawed line := fun ⟨_, hflaw⟩ => hno hflaw.isDirectiveLine
        rw [firstFlaw_cons_of_not hline, ← ih, readLines, hread]
        exact bind_pure_eq_error_iff

end FirstFlaw

/-! ## Written directives -/

def Directive.text : Directive → String
  | anchor _ pattern => pattern
  | next pattern => pattern
  | absent pattern => pattern
  | empty => ""
  | comment text => text

def Directive.keyword : Directive → Keyword
  | anchor .check _ => .check
  | anchor .label _ => .label
  | next _ => .next
  | absent _ => .absent
  | empty => .empty
  | comment _ => .comment

def Directive.line : Directive → String
  | anchor .check pattern => "// CHECK: " ++ pattern
  | anchor .label pattern => "// CHECK-LABEL: " ++ pattern
  | next pattern => "// CHECK-NEXT: " ++ pattern
  | absent pattern => "// CHECK-NOT: " ++ pattern
  | empty => "// CHECK-EMPTY"
  | comment text => "// COM: " ++ text

/-- A directive that can be written as a line: its text is trimmed and on one line, and a pattern
has a character. -/
structure Directive.Writable (d : Directive) : Prop where
  oneLine : OneLine d.text
  trimmed : IsTrimmed d.text.toList
  pattern : d.keyword.needsPattern = true → d.text ≠ ""

/-- The directives are written among the lines, one on a line and in their order; no other line
starts a comment, once it is trimmed. -/
inductive WrittenIn : List Directive → List String → Prop
  | nil : WrittenIn [] []
  | directive {d : Directive} {ds : List Directive} {ls : List String} (writable : d.Writable)
      (rest : WrittenIn ds ls) : WrittenIn (d :: ds) (d.line :: ls)
  | other {line : String} {ds : List Directive} {ls : List String} (oneLine : OneLine line)
      (noComment : ¬commentMark <+: (trim line).toList) (rest : WrittenIn ds ls) :
      WrittenIn ds (line :: ls)

/-- What stands behind the keyword of a written directive. -/
def Directive.behind (d : Directive) : List Char :=
  if d = .empty then [] else ' ' :: d.text.toList

section Written

variable {d : Directive} {ds : List Directive} {ls : List String} {line line' : String}

lemma toList_line (d : Directive) :
    d.line.toList = commentMark ++ [' '] ++ d.keyword.spelling ++ d.behind := by
  cases d with
  | empty => rfl
  | anchor kind pattern => cases kind <;> exact String.toList_append
  | next pattern => exact String.toList_append
  | absent pattern => exact String.toList_append
  | comment text => exact String.toList_append

lemma Directive.keyword_directive (d : Directive) : d.keyword.directive d.text = d := by
  rcases d with ⟨_ | _, _⟩ | _ | _ | _ | _ <;> rfl

/-- A line that starts visibly loses blanks only behind the keyword. -/
lemma holdsComment_line (d : Directive) :
    HoldsComment d.line (d.keyword.spelling ++ dropEndBlanks d.behind) := by
  have hfront : LeadsVisible d.line.toList := by
    rw [toList_line]
    rintro c ⟨rfl⟩
    decide
  have hback : LeadsVisible (commentMark ++ [' '] ++ d.keyword.spelling).reverse := by
    cases d.keyword <;> (rintro c ⟨rfl⟩; decide)
  refine ⟨[' '], List.forall_mem_singleton.2 (by decide), ?_⟩
  rw [toList_trim, hfront.dropBlanks_eq, toList_line, dropEndBlanks_append hback,
    List.append_assoc _ d.keyword.spelling]

lemma trim_behind (h : IsTrimmed d.text.toList) : trim (String.ofList d.behind) = d.text := by
  rw [trim_eq_iff, String.toList_ofList, Directive.behind]
  split
  next hd =>
    subst hd
    exact ⟨[], [], allBlank_nil, allBlank_nil, rfl, h⟩
  next =>
    have hspace : AllBlank [' '] := List.forall_mem_singleton.2 (by decide)
    exact ⟨[' '], [], hspace, allBlank_nil, (List.append_nil _).symm, h⟩

lemma Directive.Writable.said (h : d.Writable) : Says d.line d := by
  have htext : trim (String.ofList (dropEndBlanks d.behind)) = d.text :=
    (trim_dropEndBlanks d.behind).trans (trim_behind h.trimmed)
  have hpattern : d.keyword.needsPattern = true → ¬AllBlank (dropEndBlanks d.behind) := by
    intro hneeds hblank
    rw [← isEmpty_trim_iff, htext, String.isEmpty_iff] at hblank
    exact h.pattern hneeds hblank
  have hsaid := Says.intro d.keyword _ (holdsComment_line d) hpattern
  rwa [htext, d.keyword_directive] at hsaid

lemma Directive.Writable.oneLine_line (h : d.Writable) : OneLine d.line := by
  have hfront : '\n' ∉ commentMark ++ [' '] ++ d.keyword.spelling := by
    cases d.keyword <;> decide
  rw [OneLine, toList_line, List.mem_append, not_or, Directive.behind]
  refine ⟨hfront, ?_⟩
  split
  next => exact List.not_mem_nil
  next =>
    rw [List.mem_cons, not_or]
    exact ⟨by decide, h.oneLine⟩

lemma not_isDirectiveLine_of_noComment (h : ¬commentMark <+: (trim line).toList) :
    ¬IsDirectiveLine line := by
  rintro ⟨text, ⟨blanks, -, hline⟩, -⟩
  rw [List.append_assoc] at hline
  exact h ⟨_, hline.symm⟩

lemma WrittenIn.tells (h : WrittenIn ds ls) : Tells ls ds := by
  induction h with
  | nil => exact tells_nil_iff.2 rfl
  | directive hd _ ih =>
      exact (tells_cons_of_isDirectiveLine hd.said.isDirectiveLine).2 ⟨_, _, hd.said, ih, rfl⟩
  | other _ hline _ ih => exact (tells_cons_of_not (not_isDirectiveLine_of_noComment hline)).2 ih

lemma WrittenIn.concat (h : WrittenIn ds ls) (hline : OneLine line)
    (hcomment : ¬commentMark <+: (trim line).toList) : WrittenIn ds (ls ++ [line]) := by
  induction h with
  | nil => exact .other hline hcomment .nil
  | directive hd _ ih => exact .directive hd ih
  | other hl hc _ ih => exact .other hl hc ih

lemma WrittenIn.oneLine (h : WrittenIn ds ls) : ∀ l ∈ ls, OneLine l := by
  induction h with
  | nil => exact fun _ hl => absurd hl List.not_mem_nil
  | directive hd _ ih => exact List.forall_mem_cons.2 ⟨hd.oneLine_line, ih⟩
  | other hline _ _ ih => exact List.forall_mem_cons.2 ⟨hline, ih⟩

end Written

/-! ## Line ends -/

section LineEnds

variable {line line' : String} {ds : List Directive}

/-- Only the trimmed line matters. -/
lemma HoldsComment.congr (h : trim line = trim line') : HoldsComment line = HoldsComment line' := by
  funext text
  rw [HoldsComment, HoldsComment, h]

lemma isDirectiveLine_congr (h : trim line = trim line') :
    IsDirectiveLine line ↔ IsDirectiveLine line' := by
  rw [IsDirectiveLine, IsDirectiveLine, HoldsComment.congr h]

lemma Says.congr {d : Directive} (h : trim line = trim line') (hsaid : Says line d) :
    Says line' d := by
  obtain ⟨k, after, hcomment, hpattern⟩ := hsaid
  rw [HoldsComment.congr h] at hcomment
  exact .intro k after hcomment hpattern

lemma tells_cons_congr {ls ls' : List String} (h : trim line = trim line')
    (hrest : ∀ ds, Tells ls ds → Tells ls' ds) (htells : Tells (line :: ls) ds) :
    Tells (line' :: ls') ds := by
  by_cases hline : IsDirectiveLine line
  · obtain ⟨d, ds', hsaid, hds, rfl⟩ := (tells_cons_of_isDirectiveLine hline).1 htells
    exact (tells_cons_of_isDirectiveLine ((isDirectiveLine_congr h).1 hline)).2
      ⟨d, ds', hsaid.congr h, hrest _ hds, rfl⟩
  · exact (tells_cons_of_not (mt (isDirectiveLine_congr h).2 hline)).2
      (hrest _ ((tells_cons_of_not hline).1 htells))

/-- The pieces between newlines say the same as the lines do. -/
lemma tells_closedLines {ps : List (List Char)} (h : Tells (ps.map String.ofList) ds) :
    Tells ((closedLines ps).map String.ofList) ds := by
  induction ps using closedLines.induct generalizing ds with
  | case1 => exact h
  | case2 last hlast =>
      -- A text that ends in a newline has no line behind it.
      obtain rfl := List.isEmpty_iff.1 hlast
      rw [closedLines, if_pos hlast]
      exact (tells_cons_of_not (not_isDirectiveLine_of_noComment (by decide))).1 h
  | case3 last hlast =>
      rw [closedLines, if_neg hlast]
      exact h
  | case4 l ls hne ih =>
      rw [closedLines.eq_3 l ls hne]
      exact tells_cons_congr (trim_withoutReturn l).symm (fun _ => ih) h

end LineEnds

/-! ## The whole -/

/-- **A check file is read as its lines say.**

* Directives that are written among other lines are read again, whether the last line is ended or
  not.
* Reading fails exactly if a line has a flaw, and then the mistake is that of the first such line,
  with its number.
* Otherwise the directives are, one to one and in order, what is said by the lines that are meant as
  directives. -/
theorem parse_outcome :
    (∀ ds ls, WrittenIn ds ls →
      parse (unlines ls) = .ok ds ∧ parse ("\n".intercalate ls) = .ok ds) ∧
    ∀ text,
      ((∃ e, parse text = .error e) ↔ ∃ line ∈ Text.lines text, IsFlawed line) ∧
      (∀ e, parse text = .error e ↔ FirstFlaw 1 (Text.lines text) e) ∧
      ∀ ds, parse text = .ok ds ↔ Tells (Text.lines text) ds := by
  refine ⟨fun ds ls hwritten => ⟨?_, ?_⟩, fun text => ⟨?_, fun e => ?_, fun ds => ?_⟩⟩
  · -- Behind the last newline there is an empty piece.
    have hall : WrittenIn ds (ls ++ [""]) := hwritten.concat (by decide) (by decide)
    refine readLines_eq_ok_iff.2 (tells_closedLines ?_)
    rw [pieces_unlines hwritten.oneLine]
    simpa using hall.tells
  · cases ls with
    | nil =>
        cases hwritten
        rfl
    | cons l ls =>
        have honeLine : ∀ cs ∈ (l :: ls).map String.toList, '\n' ∉ cs :=
          List.forall_mem_map.2 hwritten.oneLine
        have hpieces : pieces '\n' ("\n".intercalate (l :: ls)).toList =
            (l :: ls).map String.toList := by
          rw [String.toList_intercalate]
          exact pieces_intercalate (List.cons_ne_nil _ _) honeLine
        refine readLines_eq_ok_iff.2 (tells_closedLines ?_)
        rw [hpieces]
        simpa using hwritten.tells
  · simp only [parse, readLines_eq_error_iff, exists_firstFlaw_iff]
  · exact readLines_eq_error_iff
  · exact readLines_eq_ok_iff

/-- A landmark, a blank line, and a remark without a text. -/
def landmarkThenBlank : List Directive :=
  [.anchor .label "/* scalar */", .empty, .comment ""]

/-- The directives among lines that are nearly comments, one of which ends in a carriage return. -/
def landmarkThenBlankLines : List String :=
  ["/ CHECK: a", "// CHECK-LABEL: /* scalar */", "x // CHECK\r", "// CHECK-EMPTY", "// COM: "]

/-- The directives are read again; and of the two flaws in a text, behind an end of line with a
carriage return, the first one is reported. -/
theorem parse_landmarkThenBlank :
    WrittenIn landmarkThenBlank landmarkThenBlankLines ∧
    parse ("\n".intercalate landmarkThenBlankLines) = .ok landmarkThenBlank ∧
    FirstFlaw 1 (Text.lines "// CHECK-EMPTY!\r\n //\tCHECK-NOT:\n//CHECKED")
      (.emptyPattern 2) := by
  have hwritten : WrittenIn landmarkThenBlank landmarkThenBlankLines :=
    .other (by decide) (by decide) <|
    .directive ⟨by decide, by decide, by decide⟩ <|
    .other (by decide) (by decide) <|
    .directive ⟨by decide, by decide, by decide⟩ <|
    .directive ⟨by decide, by decide, by decide⟩ .nil
  exact ⟨hwritten, (parse_outcome.1 _ _ hwritten).2, ((parse_outcome.2 _).2.1 _).1 (by decide)⟩

end MathHeader.Check
