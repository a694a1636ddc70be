import MathHeader.Template.Lexeme
import Mathlib.Data.List.Infix

/-!
# The brace that closes a group

A text in braces is a *group* if it opens and closes equally many braces and closes none too early:
each part in front of its end opens more than it closes (`IsGroup`).  `closingIndex` counts the
braces that are open besides the first one and stops at the first brace that closes that one too.
It finds the end of the group that starts at the brace, and it finds nothing exactly if no group
starts there: `closingPosition?_outcome`.

The proof follows the count.  What the scan has passed over is always a text that may still be going
on, and what lies between the braces of a group is such a text that has come back to where it
started, which `ClosesAll` says for any number of open braces.

The count itself can be carried out with a counter that starts at zero in front of the opening brace
and counts each closing brace down.  Such a counter could be asked to go below zero; after an
opening brace it never is, since the scan ends where it gets to zero.
-/

namespace MathHeader

/-! ## Groups -/

/-- How many more braces a text opens than it closes. -/
def excess (cs : List Char) : Int :=
  cs.count '{' - cs.count '}'

/-- **A group.**  All in all as many braces are opened as are closed, but in each part in front of
the end more are opened. -/
structure IsGroup (cs : List Char) : Prop where
  excess_eq : excess cs = 0
  excess_pos : ∀ front, front <+: cs → front ≠ [] → front ≠ cs → 0 < excess front

@[simp] lemma excess_nil : excess [] = 0 := rfl

lemma excess_append (cs ds : List Char) : excess (cs ++ ds) = excess cs + excess ds := by
  simp only [excess, List.count_append]
  omega

lemma excess_cons (c : Char) (cs : List Char) : excess (c :: cs) = excess [c] + excess cs :=
  excess_append [c] cs

lemma excess_open : excess ['{'] = 1 := rfl

lemma excess_close : excess ['}'] = -1 := rfl

lemma excess_other {c : Char} (hopen : c ≠ '{') (hclose : c ≠ '}') : excess [c] = 0 := by
  simp [excess, hopen, hclose]

/-! ## What the scan has passed -/

/-- **A text behind open braces.**  When `inner` braces are open before it, the text closes them all
and no other on its way. -/
structure ClosesAll (inner : Int) (cs : List Char) : Prop where
  excess_eq : inner + excess cs = 0
  excess_nonneg : ∀ front, front <+: cs → 0 ≤ inner + excess front

lemma closesAll_nil {inner : Int} : ClosesAll inner [] ↔ inner = 0 := by
  constructor
  · intro h
    simpa using h.excess_eq
  · rintro rfl
    refine ⟨rfl, fun front hfront => ?_⟩
    rw [List.prefix_nil.1 hfront]
    decide

lemma closesAll_cons {inner : Int} {c : Char} {cs : List Char} :
    ClosesAll inner (c :: cs) ↔ 0 ≤ inner ∧ ClosesAll (inner + excess [c]) cs := by
  have hfirst (front : List Char) :
      inner + excess (c :: front) = inner + excess [c] + excess front := by
    rw [excess_cons, Int.add_assoc]
  constructor
  · intro h
    refine ⟨by simpa using h.excess_nonneg [] List.nil_prefix, ?_, fun front hfront => ?_⟩
    · rw [← hfirst]
      exact h.excess_eq
    · rw [← hfirst]
      exact h.excess_nonneg (c :: front) ((List.prefix_cons_inj c).2 hfront)
  · rintro ⟨hinner, h⟩
    refine ⟨by rw [hfirst, h.excess_eq], fun front hfront => ?_⟩
    rcases List.prefix_cons_iff.1 hfront with rfl | ⟨rest, rfl, hrest⟩
    · simpa using hinner
    · rw [hfirst]
      exact h.excess_nonneg rest hrest

/-- A text goes on with a brace at position `k`, and what is in front of that brace closes all that
is open. -/
def ClosesAt (inner : Int) (cs : List Char) (k : Nat) : Prop :=
  ∃ group back, cs = group ++ '}' :: back ∧ group.length = k ∧ ClosesAll inner group

/-! ## The scan -/

/-- A brace that closes the first one is the end, and at any other character the scan goes on with
as many open braces as there are behind it. -/
lemma ends_or_goes_on (inner : Nat) (c : Char) :
    (c = '}' ∧ inner = 0) ∨ ∃ next : Nat, (next : Int) = inner + excess [c] := by
  by_cases hopen : c = '{'
  · exact .inr ⟨inner + 1, hopen ▸ rfl⟩
  by_cases hclose : c = '}'
  · subst hclose
    cases inner with
    | zero => exact .inl ⟨rfl, rfl⟩
    | succ inner =>
        refine .inr ⟨inner, ?_⟩
        rw [excess_close]
        omega
  · exact .inr ⟨inner, by rw [excess_other hopen hclose, Int.add_zero]⟩

section Step

variable {inner next : Nat} {c : Char} (hnext : (next : Int) = inner + excess [c])
include hnext

/-- A step of the scan opens a brace, closes one, or passes over another character. -/
lemma step_cases :
    c = '{' ∧ next = inner + 1 ∨ c = '}' ∧ inner = next + 1 ∨
      c ≠ '{' ∧ c ≠ '}' ∧ next = inner := by
  by_cases hopen : c = '{'
  · subst hopen
    rw [excess_open] at hnext
    exact .inl ⟨rfl, by omega⟩
  by_cases hclose : c = '}'
  · subst hclose
    rw [excess_close] at hnext
    exact .inr (.inl ⟨rfl, by omega⟩)
  · rw [excess_other hopen hclose] at hnext
    exact .inr (.inr ⟨hopen, hclose, by omega⟩)

lemma closingIndex_cons (cs : List Char) :
    closingIndex inner (c :: cs) = (closingIndex next cs).map (· + 1) := by
  rcases step_cases hnext with ⟨rfl, rfl⟩ | ⟨rfl, rfl⟩ | ⟨hopen, hclose, rfl⟩
  · rfl
  · rfl
  · rw [closingIndex.eq_def]
    dsimp only
    rw [if_neg hopen, if_neg hclose]

lemma closesAt_cons_iff {cs : List Char} {k : Nat} :
    ClosesAt inner (c :: cs) k ↔ ∃ j, ClosesAt next cs j ∧ j + 1 = k := by
  constructor
  · rintro ⟨group, back, heq, rfl, hcloses⟩
    cases group with
    | nil =>
        cases heq
        rw [closesAll_nil.1 hcloses, excess_close] at hnext
        omega
    | cons d group =>
        cases heq
        exact ⟨group.length, ⟨group, back, rfl, rfl, hnext ▸ (closesAll_cons.1 hcloses).2⟩, rfl⟩
  · rintro ⟨j, ⟨group, back, rfl, rfl, hcloses⟩, rfl⟩
    exact ⟨c :: group, back, rfl, rfl, closesAll_cons.2 ⟨Int.natCast_nonneg inner, hnext ▸ hcloses⟩⟩

end Step

lemma not_closesAt_nil {inner : Int} {k : Nat} : ¬ClosesAt inner [] k := by
  rintro ⟨group, back, heq, -⟩
  exact List.append_ne_nil_of_right_ne_nil group (List.cons_ne_nil '}' back) heq.symm

lemma closesAt_close_iff {cs : List Char} {k : Nat} : ClosesAt 0 ('}' :: cs) k ↔ 0 = k := by
  constructor
  · rintro ⟨group, back, heq, rfl, hcloses⟩
    cases group with
    | nil => rfl
    | cons c group =>
        cases heq
        have hfirst := (closesAll_cons.1 hcloses).2.excess_nonneg [] List.nil_prefix
        simp [excess_close] at hfirst
  · rintro rfl
    exact ⟨[], cs, rfl, rfl, closesAll_nil.2 rfl⟩

/-- **The closing brace.**  The scan stops at the brace behind a text that closes all that is
open. -/
theorem closingIndex_eq_some_iff {inner : Nat} {cs : List Char} {k : Nat} :
    closingIndex inner cs = some k ↔ ClosesAt inner cs k := by
  induction cs generalizing inner k with
  | nil =>
      have hnone : closingIndex inner [] = none := by rw [closingIndex.eq_def]
      rw [hnone]
      exact iff_of_false (Option.some_ne_none k).symm not_closesAt_nil
  | cons c cs ih =>
      rcases ends_or_goes_on inner c with ⟨rfl, rfl⟩ | ⟨next, hnext⟩
      · exact Option.some_inj.trans closesAt_close_iff.symm
      · rw [closingIndex_cons hnext, Option.map_eq_some_iff, closesAt_cons_iff hnext]
        simp only [ih]

/-- The closing brace of a group stands where it is found. -/
lemma exists_of_closingIndex {inner : Nat} {cs : List Char} {k : Nat}
    (h : closingIndex inner cs = some k) :
    ∃ group rest, cs = group ++ '}' :: rest ∧ group.length = k := by
  obtain ⟨group, rest, heq, hlength, -⟩ := closingIndex_eq_some_iff.1 h
  exact ⟨group, rest, heq, hlength⟩

/-- A group that is closed is closed at the same place in a longer text. -/
lemma closingIndex_append {inner : Nat} {cs : List Char} {k : Nat}
    (h : closingIndex inner cs = some k) (more : List Char) :
    closingIndex inner (cs ++ more) = some k := by
  obtain ⟨group, rest, rfl, hlength, hcloses⟩ := closingIndex_eq_some_iff.1 h
  rw [List.append_assoc]
  exact closingIndex_eq_some_iff.2 ⟨group, rest ++ more, rfl, hlength, hcloses⟩

/-- A scan that finds nothing has met no brace too many. -/
theorem excess_nonneg_of_closingIndex {inner : Nat} {cs : List Char}
    (h : closingIndex inner cs = none) :
    ∀ front, front <+: cs → 0 ≤ inner + excess front := by
  induction cs generalizing inner with
  | nil =>
      intro front hfront
      rw [List.prefix_nil.1 hfront]
      exact Int.natCast_nonneg inner
  | cons c cs ih =>
      rcases ends_or_goes_on inner c with ⟨rfl, rfl⟩ | ⟨next, hnext⟩
      · cases h
      · rw [closingIndex_cons hnext, Option.map_eq_none_iff] at h
        intro front hfront
        rcases List.prefix_cons_iff.1 hfront with rfl | ⟨rest, rfl, hrest⟩
        · exact Int.natCast_nonneg inner
        · rw [excess_cons, ← Int.add_assoc, ← hnext]
          exact ih h rest hrest

/-! ## Groups and what is between their braces -/

lemma excess_braced (cs : List Char) : excess ('{' :: (cs ++ ['}'])) = excess cs := by
  rw [excess_cons, excess_append, excess_open, excess_close]
  omega

/-- A group is a pair of braces with a text between them that closes what it opens. -/
lemma isGroup_braced_iff {cs : List Char} : IsGroup ('{' :: (cs ++ ['}'])) ↔ ClosesAll 0 cs := by
  have hopened (front : List Char) : excess ('{' :: front) = 1 + excess front :=
    excess_cons '{' front
  constructor
  · intro h
    refine ⟨by rw [Int.zero_add, ← excess_braced, h.excess_eq], fun front hfront => ?_⟩
    have hlength : ('{' :: front).length < ('{' :: (cs ++ ['}'])).length := by
      have := hfront.length_le
      simp only [List.length_cons, List.length_append, List.length_nil]
      omega
    have hpos := h.excess_pos ('{' :: front)
      ((List.prefix_cons_inj '{').2 (hfront.trans (List.prefix_append cs ['}'])))
      (List.cons_ne_nil '{' front) fun heq => Nat.ne_of_lt hlength (congrArg List.length heq)
    rw [hopened] at hpos
    omega
  · intro h
    refine ⟨by rw [excess_braced, ← h.excess_eq, Int.zero_add], fun front hfront hne hproper => ?_⟩
    rcases List.prefix_cons_iff.1 hfront with rfl | ⟨rest, rfl, hrest⟩
    · exact absurd rfl hne
    · rcases List.prefix_concat_iff.1 hrest with rfl | hrest
      · exact absurd rfl hproper
      · have hnonneg := h.excess_nonneg rest hrest
        rw [hopened]
        omega

lemma IsGroup.exists_eq_braced {cs : List Char} (h : IsGroup ('{' :: cs)) :
    ∃ inner, cs = inner ++ ['}'] := by
  rcases List.eq_nil_or_concat cs with rfl | ⟨inner, c, rfl⟩
  · cases h.excess_eq
  · rw [List.concat_eq_append] at h ⊢
    -- Only a closing brace brings the excess down to zero.
    have hpos := h.excess_pos ('{' :: inner) (List.prefix_append ('{' :: inner) [c])
      (List.cons_ne_nil '{' inner) (by simp)
    have hzero := h.excess_eq
    rw [← List.cons_append, excess_append] at hzero
    have hclose : c = '}' := by
      by_contra hclose
      by_cases hopen : c = '{'
      · subst hopen
        rw [excess_open] at hzero
        omega
      · rw [excess_other hopen hclose] at hzero
        omega
    exact ⟨inner, by rw [hclose]⟩

/-! ## The counter -/

/-- The size of a text in bytes. -/
def byteSize (cs : List Char) : Nat :=
  (String.ofList cs).utf8ByteSize

lemma byteSize_append (cs ds : List Char) : byteSize (cs ++ ds) = byteSize cs + byteSize ds := by
  rw [byteSize, String.ofList_append, String.utf8ByteSize_append]
  rfl

lemma byteSize_cons (c : Char) (cs : List Char) :
    byteSize (c :: cs) = c.utf8Size + byteSize cs := by
  rw [byteSize, String.ofList_cons, String.utf8ByteSize_append, String.utf8ByteSize_singleton]
  rfl

/-- What a count of open braces comes to. -/
inductive BraceCount where
  /-- The count gets to zero at the brace at a position. -/
  | closedAt (position : Nat)
  /-- The count is above zero at the end of the text. -/
  | neverClosed
  /-- The count is at zero already where a brace is closed. -/
  | underflow
deriving DecidableEq, Repr

/-- The count of open braces in a text, which starts at a position in bytes. -/
def countBraces (depth position : Nat) : List Char → BraceCount
  | [] => .neverClosed
  | c :: cs =>
    if c = '{' then countBraces (depth + 1) (position + c.utf8Size) cs
    else if c = '}' then
      match depth with
      | 0 => .underflow
      | 1 => .closedAt position
      | depth + 2 => countBraces (depth + 1) (position + c.utf8Size) cs
    else countBraces depth (position + c.utf8Size) cs

/-- What a count comes to if it ends at a position or not at all. -/
def BraceCount.ofPosition? : Option Nat → BraceCount
  | some position => closedAt position
  | none => neverClosed

lemma countBraces_cons {inner next : Nat} {c : Char} (hnext : (next : Int) = inner + excess [c])
    (position : Nat) (cs : List Char) :
    countBraces (inner + 1) position (c :: cs) =
      countBraces (next + 1) (position + c.utf8Size) cs := by
  rcases step_cases hnext with ⟨rfl, rfl⟩ | ⟨rfl, rfl⟩ | ⟨hopen, hclose, rfl⟩
  · rfl
  · rfl
  · rw [countBraces.eq_def]
    dsimp only
    rw [if_neg hopen, if_neg hclose]

/-- **The counter.**  Behind an opening brace the counter ends where the scan does, and it is above
zero until then. -/
theorem countBraces_eq (inner position : Nat) (cs : List Char) :
    countBraces (inner + 1) position cs =
      .ofPosition? ((closingIndex inner cs).map fun k => position + byteSize (cs.take k)) := by
  induction cs generalizing inner position with
  | nil =>
      rw [countBraces.eq_def, closingIndex.eq_def]
      rfl
  | cons c cs ih =>
      rcases ends_or_goes_on inner c with ⟨rfl, rfl⟩ | ⟨next, hnext⟩
      · rfl
      · have hposition (k : Nat) : position + c.utf8Size + byteSize (cs.take k) =
            position + byteSize ((c :: cs).take (k + 1)) := by
          rw [List.take_succ_cons, byteSize_cons, Nat.add_assoc]
        rw [countBraces_cons hnext, ih, closingIndex_cons hnext, Option.map_map]
        simp only [hposition]
        rfl

/-! ## Groups in a source -/

/-- The position in bytes of the brace that closes the one behind `front`. -/
def closingPosition? (front rest : List Char) : Option Nat :=
  (closingIndex 0 rest).map fun k => byteSize (front ++ '{' :: rest.take k)

/-- A group is found where it ends. -/
lemma closingPosition?_eq_some_iff {front rest : List Char} {position : Nat} :
    closingPosition? front rest = some position ↔
      ∃ group back, '{' :: rest = group ++ back ∧ group ≠ [] ∧ IsGroup group ∧
        position + 1 = byteSize (front ++ group) := by
  have hsize (group : List Char) :
      byteSize (front ++ '{' :: (group ++ ['}'])) = byteSize (front ++ '{' :: group) + 1 := by
    rw [← List.cons_append, ← List.append_assoc, byteSize_append]
    rfl
  rw [closingPosition?, Option.map_eq_some_iff]
  constructor
  · rintro ⟨k, hk, rfl⟩
    obtain ⟨group, back, rfl, rfl, hcloses⟩ := closingIndex_eq_some_iff.1 hk
    refine ⟨'{' :: (group ++ ['}']), back, by simp, List.cons_ne_nil _ _,
      isGroup_braced_iff.2 hcloses, ?_⟩
    rw [List.take_left, hsize]
  · rintro ⟨group, back, heq, hne, hgroup, hposition⟩
    obtain ⟨c, cs, rfl⟩ := List.exists_cons_of_ne_nil hne
    rw [List.cons_append] at heq
    obtain ⟨rfl, rfl⟩ := List.cons.inj heq
    obtain ⟨group, rfl⟩ := hgroup.exists_eq_braced
    refine ⟨group.length, closingIndex_eq_some_iff.2 ?_, ?_⟩
    · exact ⟨group, back, by simp, rfl, isGroup_braced_iff.1 hgroup⟩
    · rw [hsize] at hposition
      rw [List.append_assoc, List.take_left]
      exact (Nat.succ.inj hposition).symm

/-- Where no group is found, all parts of the text from the brace on have a brace open. -/
lemma excess_pos_of_closingPosition? {front rest : List Char}
    (h : closingPosition? front rest = none) :
    ∀ group, group <+: '{' :: rest → group ≠ [] → 0 < excess group := by
  intro group hgroup hne
  rcases List.prefix_cons_iff.1 hgroup with rfl | ⟨cs, rfl, hcs⟩
  · exact absurd rfl hne
  · have hnonneg := excess_nonneg_of_closingIndex (Option.map_eq_none_iff.1 h) cs hcs
    rw [excess_cons, excess_open]
    omega

/-- **Groups in a source.**  Let a brace be opened behind `front`.  The position that is found for
it is the last one of the text from the brace on that is a group; none is found exactly if no part
of the source that starts at the brace opens and closes equally many braces.  A counter that starts
at zero in front of the brace comes to the same end and is never taken below zero. -/
theorem closingPosition?_outcome (front rest : List Char) :
    (∀ position, closingPosition? front rest = some position ↔
      ∃ group back, '{' :: rest = group ++ back ∧ group ≠ [] ∧ IsGroup group ∧
        position + 1 = byteSize (front ++ group)) ∧
    (closingPosition? front rest = none ↔
      ∀ group, group <+: '{' :: rest → group ≠ [] → excess group ≠ 0) ∧
    countBraces 0 (byteSize front) ('{' :: rest) =
      .ofPosition? (closingPosition? front rest) := by
  refine ⟨fun position => closingPosition?_eq_some_iff, ⟨fun h group hgroup hne => ?_, fun h => ?_⟩,
    ?_⟩
  · exact Int.ne_of_gt (excess_pos_of_closingPosition? h group hgroup hne)
  · by_contra hfound
    obtain ⟨position, hposition⟩ := Option.ne_none_iff_exists'.1 hfound
    obtain ⟨group, back, heq, hne, hgroup, -⟩ := closingPosition?_eq_some_iff.1 hposition
    exact h group (heq ▸ List.prefix_append group back) hne hgroup.excess_eq
  · have hposition (k : Nat) : byteSize front + '{'.utf8Size + byteSize (rest.take k) =
        byteSize (front ++ '{' :: rest.take k) := by
      rw [byteSize_append, byteSize_cons, Nat.add_assoc]
    have hopen : countBraces 0 (byteSize front) ('{' :: rest) =
        countBraces 1 (byteSize front + '{'.utf8Size) rest := rfl
    rw [hopen, countBraces_eq, closingPosition?]
    simp only [hposition]

/-- Only at a brace that closes nothing the counter cannot go on. -/
example : countBraces 0 0 ['}'] = .underflow := rfl

example : closingPosition? ['é', ' '] "@and:\x7bT\x7d\x7d\x7d".toList = some 12 := by decide

end MathHeader
