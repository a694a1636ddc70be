import MathHeader.Identifier
import Mathlib.Data.List.TakeWhile

/-!
# Words

A compiler reads the identifiers in a text as the longest runs of word characters.  `WordIn` says
that of a run by what stands before and after it, without any scan.  A character that is no part of
a word separates the words of a text: `wordIn_append_cons`.

Keywords are words of lowercase letters, so that a word with another character is no keyword:
`isIdentifier_of_isWord`.
-/

namespace MathHeader

/-! ## Shape of a word -/

lemma isWordChar_of_isAlphanum {c : Char} (h : c.isAlphanum = true) : isWordChar c = true := by
  simp [isWordChar, h]

lemma isWord_append {front rest : List Char} (hfront : isWord front = true)
    (hrest : rest.all isWordChar = true) : isWord (front ++ rest) = true := by
  cases front with
  | nil => cases hfront
  | cons c cs =>
      rw [isWord, Bool.and_eq_true] at hfront
      rw [List.cons_append, isWord, Bool.and_eq_true, List.all_append, Bool.and_eq_true]
      exact ⟨hfront.1, hfront.2, hrest⟩

lemma all_isWordChar_of_isWord {cs : List Char} (h : isWord cs = true) :
    cs.all isWordChar = true := by
  cases cs with
  | nil => rfl
  | cons c cs =>
      rw [isWord, Bool.and_eq_true] at h
      rw [List.all_cons, Bool.and_eq_true]
      exact ⟨isWordChar_of_isWordStart h.1, h.2⟩

lemma ne_nil_of_isWord {word : List Char} (h : isWord word = true) : word ≠ [] := by
  rintro rfl
  cases h

lemma notMem_of_isWord {word : List Char} (h : isWord word = true) {c : Char}
    (hc : isWordChar c = false) : c ∉ word := by
  intro hmem
  have hword := List.all_eq_true.1 (all_isWordChar_of_isWord h) c hmem
  rw [hc] at hword
  cases hword

/-- What is taken from the front ends at the first character that does not belong to it. -/
lemma takeWhile_append_cons {α : Type} {p : α → Bool} {front : List α} {c : α}
    (hfront : ∀ d ∈ front, p d = true) (hc : p c = false) (rest : List α) :
    (front ++ c :: rest).takeWhile p = front := by
  rw [List.takeWhile_append_of_pos hfront, List.takeWhile_cons_of_neg (by simp [hc]),
    List.append_nil]

/-- A word ends where the next character is no part of it. -/
lemma takeWhile_word_append {word rest : List Char} (hword : ∀ c ∈ word, isWordChar c = true)
    (hrest : ∀ c, rest.head? = some c → isWordChar c = false) :
    (word ++ rest).takeWhile isWordChar = word := by
  cases rest with
  | nil => rw [List.append_nil, List.takeWhile_eq_self_iff.2 hword]
  | cons c rest => exact takeWhile_append_cons hword (hrest c rfl) rest

/-! ## Identifiers -/

lemma isIdentifier_iff {name : String} :
    isIdentifier name = true ↔ isWord name.toList = true ∧ name ∉ keywords := by
  simp [isIdentifier]

/-- A keyword is written in lowercase letters. -/
lemma isLower_of_mem_keywords : ∀ word ∈ keywords, word.toList.all Char.isLower = true := by
  decide

lemma isIdentifier_of_isWord {name : String} (hword : isWord name.toList = true) {c : Char}
    (hc : c ∈ name.toList) (hlower : c.isLower = false) : isIdentifier name = true := by
  rw [isIdentifier_iff]
  refine ⟨hword, fun hkeyword => ?_⟩
  have hall := List.all_eq_true.1 (isLower_of_mem_keywords name hkeyword) c hc
  rw [hlower] at hall
  exact Bool.false_ne_true hall

lemma isWord_of_isIdentifier {name : String} (h : isIdentifier name = true) :
    isWord name.toList = true :=
  (isIdentifier_iff.1 h).1

namespace Text

/-! ## Words in a text -/

/-- **Words.**  A run of word characters that no word character goes on, on either side. -/
structure WordIn (w cs : List Char) : Prop where
  ne_nil : w ≠ []
  all : ∀ c ∈ w, isWordChar c = true
  maximal : ∃ before after, cs = before ++ w ++ after ∧
    (∀ c ∈ before.getLast?, isWordChar c = false) ∧ ∀ c ∈ after.head?, isWordChar c = false

variable {w cs front rest : List Char} {c : Char}

lemma WordIn.subset (h : WordIn w cs) : w ⊆ cs := by
  obtain ⟨before, after, rfl, -, -⟩ := h.maximal
  exact fun c hc => List.mem_append_left _ (List.mem_append_right _ hc)

/-! ## Where words stand -/

/-- A text that is a run of word characters has no other word. -/
lemma WordIn.eq_of_all (h : WordIn w cs) (hcs : ∀ c ∈ cs, isWordChar c = true) : w = cs := by
  obtain ⟨before, after, rfl, hbefore, hafter⟩ := h.maximal
  have hfront : before = [] := by
    rcases List.eq_nil_or_concat before with hnil | ⟨front, c, rfl⟩
    · exact hnil
    · have hc := hbefore c (by simp)
      rw [hcs c (by simp)] at hc
      cases hc
  have hback : after = [] := by
    cases after with
    | nil => rfl
    | cons c after =>
        have hc := hafter c rfl
        rw [hcs c (by simp)] at hc
        cases hc
  rw [hfront, hback, List.nil_append, List.append_nil]

/-- **Separators.**  The words of a text are those on the two sides of a character that belongs to
none. -/
lemma wordIn_append_cons (hc : isWordChar c = false) (h : WordIn w (front ++ c :: rest)) :
    WordIn w front ∨ WordIn w rest := by
  obtain ⟨before, after, heq, hbefore, hafter⟩ := h.maximal
  have hnotMem : c ∉ w := fun hmem => by
    rw [h.all c hmem] at hc
    cases hc
  rw [List.append_assoc, List.append_eq_append_iff] at heq
  rcases heq with ⟨gap, rfl, heq⟩ | ⟨gap, rfl, heq⟩
  · -- The word starts behind `front`, and so behind the separator.
    rcases List.cons_eq_append_iff.1 heq with ⟨-, heq⟩ | ⟨gap, rfl, rfl⟩
    · obtain ⟨d, w, rfl⟩ := List.exists_cons_of_ne_nil h.ne_nil
      exact absurd ((List.cons.inj heq).1 ▸ List.mem_cons_self) hnotMem
    · refine .inr ⟨h.ne_nil, h.all, gap, after, (List.append_assoc _ _ _).symm, fun d hd => ?_,
        hafter⟩
      exact hbefore d (by simp [List.getLast?_cons, Option.mem_def.1 hd])
  · -- It starts in `front`, and ends there.
    rw [eq_comm, List.append_eq_append_iff] at heq
    rcases heq with ⟨tail, rfl, heq⟩ | ⟨tail, rfl, rfl⟩
    · cases tail with
      | nil =>
          rw [List.append_nil] at h ⊢
          exact .inl ⟨h.ne_nil, h.all, before, [], (List.append_nil _).symm, hbefore, by simp⟩
      | cons d tail =>
          rw [(List.cons.inj heq).1] at hnotMem
          exact absurd (List.mem_append_right _ List.mem_cons_self) hnotMem
    · refine .inl ⟨h.ne_nil, h.all, before, tail, (List.append_assoc _ _ _).symm, hbefore,
        fun d hd => hafter d ?_⟩
      rw [List.head?_append, Option.mem_def.1 hd]
      rfl

end Text

end MathHeader
