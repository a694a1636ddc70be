import MathHeader.Text.Blank
import MathHeader.Text.Lines
import Mathlib.Data.List.Basic

/-!
# Trimmed texts

Trimming is defined by what it removes.  Here it is told by what is left: the one text without a
blank at either end that differs from the given text by blanks at the ends only, which is
`trim_eq_iff`.
-/

namespace MathHeader.Text

variable {cs t front back : List Char}

/-! ## Blanks at the ends -/

def AllBlank (cs : List Char) : Prop :=
  ∀ c ∈ cs, isBlank c = true

/-- The first character, if there is one, is not blank. -/
def LeadsVisible (cs : List Char) : Prop :=
  ∀ c ∈ cs.head?, isBlank c = false

/-- There is no blank at either end. -/
structure IsTrimmed (cs : List Char) : Prop where
  front : LeadsVisible cs
  back : LeadsVisible cs.reverse

lemma allBlank_nil : AllBlank [] :=
  fun _ hc => absurd hc List.not_mem_nil

lemma leadsVisible_nil : LeadsVisible [] :=
  fun _ hc => nomatch hc

lemma leadsVisible_cons {c : Char} : LeadsVisible (c :: cs) ↔ isBlank c = false :=
  ⟨fun h => h c rfl, fun h _ hd => Option.some.inj hd ▸ h⟩

instance : DecidablePred LeadsVisible
  | [] => .isTrue leadsVisible_nil
  | c :: _ => decidable_of_iff (isBlank c = false) leadsVisible_cons.symm

instance : DecidablePred IsTrimmed := fun cs =>
  decidable_of_iff (LeadsVisible cs ∧ LeadsVisible cs.reverse)
    ⟨fun h => ⟨h.1, h.2⟩, fun h => ⟨h.front, h.back⟩⟩

lemma LeadsVisible.append (h : LeadsVisible cs) (hne : cs ≠ []) (t : List Char) :
    LeadsVisible (cs ++ t) := by
  intro c hc
  rw [List.head?_append_of_ne_nil cs hne] at hc
  exact h c hc

lemma LeadsVisible.of_append (h : LeadsVisible (cs ++ t)) : LeadsVisible cs := by
  cases cs with
  | nil => exact leadsVisible_nil
  | cons c cs => exact h

lemma AllBlank.reverse (h : AllBlank cs) : AllBlank cs.reverse :=
  fun c hc => h c (List.mem_reverse.1 hc)

/-! ## One end -/

lemma dropBlanks_append (h : AllBlank front) : dropBlanks (front ++ t) = dropBlanks t :=
  List.dropWhile_append_of_pos h

lemma LeadsVisible.dropBlanks_eq (h : LeadsVisible t) : dropBlanks t = t := by
  cases t with
  | nil => rfl
  | cons c t =>
      exact List.dropWhile_cons_of_neg (ne_true_of_eq_false (leadsVisible_cons.1 h))

lemma leadsVisible_dropBlanks (cs : List Char) : LeadsVisible (dropBlanks cs) := by
  intro c hc
  have hhead := List.head?_dropWhile_not isBlank cs
  rw [show (cs.dropWhile isBlank).head? = some c from hc] at hhead
  exact hhead

/-- What is left behind blanks in front. -/
theorem dropBlanks_eq_iff :
    dropBlanks cs = t ↔ ∃ front, AllBlank front ∧ cs = front ++ t ∧ LeadsVisible t := by
  constructor
  · rintro rfl
    exact ⟨cs.takeWhile isBlank, List.all_eq_true.1 List.all_takeWhile,
      List.takeWhile_append_dropWhile.symm, leadsVisible_dropBlanks cs⟩
  · rintro ⟨front, hfront, rfl, ht⟩
    rw [dropBlanks_append hfront, ht.dropBlanks_eq]

/-- What is left before blanks at the end. -/
theorem dropEndBlanks_eq_iff :
    dropEndBlanks cs = t ↔ ∃ back, AllBlank back ∧ cs = t ++ back ∧ LeadsVisible t.reverse := by
  rw [dropEndBlanks, List.reverse_eq_iff, dropBlanks_eq_iff]
  constructor
  · rintro ⟨front, hfront, hcs, ht⟩
    exact ⟨front.reverse, hfront.reverse, by simpa using congrArg List.reverse hcs, ht⟩
  · rintro ⟨back, hback, rfl, ht⟩
    exact ⟨back.reverse, hback.reverse, List.reverse_append, ht⟩

/-- A text that ends in no blank stays as it is, whatever is behind it. -/
lemma dropEndBlanks_append (h : LeadsVisible cs.reverse) (t : List Char) :
    dropEndBlanks (cs ++ t) = cs ++ dropEndBlanks t := by
  obtain ⟨back, hback, ht, hlast⟩ := dropEndBlanks_eq_iff.1 (rfl : dropEndBlanks t = _)
  refine dropEndBlanks_eq_iff.2 ⟨back, hback, by rw [List.append_assoc, ← ht], ?_⟩
  rw [List.reverse_append]
  cases hrest : (dropEndBlanks t).reverse with
  | nil => exact h
  | cons c rest => exact LeadsVisible.append (hrest ▸ hlast) (List.cons_ne_nil c rest) _

/-! ## Both ends -/

lemma toList_trim (s : String) : (trim s).toList = dropEndBlanks (dropBlanks s.toList) := by
  rw [trim, trimEnd, trimStart, String.toList_ofList, String.toList_ofList]

/-- **Trimming.**  The trimmed text has no blank at either end, and blanks around it give the text
back; there is only one such text. -/
theorem trim_eq_iff {s u : String} :
    trim s = u ↔ ∃ front back, AllBlank front ∧ AllBlank back ∧
      s.toList = front ++ u.toList ++ back ∧ IsTrimmed u.toList := by
  rw [← String.toList_inj, toList_trim, dropEndBlanks_eq_iff]
  constructor
  · rintro ⟨back, hback, hdropped, hlast⟩
    obtain ⟨front, hfront, hs, hfirst⟩ := dropBlanks_eq_iff.1 hdropped
    exact ⟨front, back, hfront, hback, by rw [hs, List.append_assoc], hfirst.of_append, hlast⟩
  · rintro ⟨front, back, hfront, hback, hs, hu⟩
    rw [hs, List.append_assoc, dropBlanks_append hfront]
    -- With nothing between the blanks, those at the end go with those in front.
    cases hcs : u.toList with
    | nil =>
        have hall : dropBlanks back = [] :=
          dropBlanks_eq_iff.2 ⟨back, hback, (List.append_nil back).symm, leadsVisible_nil⟩
        exact ⟨[], allBlank_nil, hall, leadsVisible_nil⟩
    | cons c cs =>
        rw [hcs] at hu
        have hvisible := hu.front.append (List.cons_ne_nil c cs) back
        exact ⟨back, hback, hvisible.dropBlanks_eq, hu.back⟩

/-- Blanks at the end do not count. -/
lemma trim_append_blank (cs : List Char) (hback : AllBlank back) :
    trim (String.ofList (cs ++ back)) = trim (String.ofList cs) := by
  obtain ⟨front, rest, hfront, hrest, hs, htrimmed⟩ :=
    trim_eq_iff.1 (rfl : trim (String.ofList cs) = _)
  rw [String.toList_ofList] at hs
  refine trim_eq_iff.2 ⟨front, rest ++ back, hfront, List.forall_mem_append.2 ⟨hrest, hback⟩, ?_,
    htrimmed⟩
  rw [String.toList_ofList, ← List.append_assoc, ← hs]

lemma trim_dropEndBlanks (cs : List Char) :
    trim (String.ofList (dropEndBlanks cs)) = trim (String.ofList cs) := by
  obtain ⟨back, hback, hcs, -⟩ := dropEndBlanks_eq_iff.1 (rfl : dropEndBlanks cs = _)
  rw [← trim_append_blank _ hback, ← hcs]

/-- The end of a line does not count. -/
lemma trim_withoutReturn (line : List Char) :
    trim (String.ofList (withoutReturn line)) = trim (String.ofList line) := by
  unfold withoutReturn
  split
  next hlast =>
    have hreturn : AllBlank ['\r'] := List.forall_mem_singleton.2 (by decide)
    rw [← trim_append_blank _ hreturn, List.dropLast_append_getLast? '\r' hlast]
  next => rfl

end MathHeader.Text
