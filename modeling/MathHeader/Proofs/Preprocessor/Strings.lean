import MathHeader.Preprocessor.Node
import MathHeader.Proofs.Text.Numeral
import MathHeader.Proofs.Text.OneLine

/-!
# The strings of a block

A preprocessor block is built from strings that are written into its lines as they are: names of
macros, labels, headers, messages and comments.  `blockStrings` collects all of them.  Everything
else in a condition or a value is a number or a fixed text, so that a character outside of
`syntaxChars` can only come from a name.  The newline is one that matters, since it would end the
line, and the backslash another, since it would join it with the next.
-/

namespace MathHeader.Preprocessor

open Text (OneLine notMem_append notMem_intercalate notMem_toDigits oneLine_ofList)

/-! ## Strings -/

/-- The strings of a side of an equation. -/
def Operand.strings : Operand → List String
  | named name => [name]
  | int _ => []

mutual

def Condition.strings : Condition → List String
  | .defined name => [name]
  | .equal left right => left.strings ++ right.strings
  | .not c => c.strings
  | .any terms => termStrings terms
  | .all terms => termStrings terms

def termStrings : List Condition → List String
  | [] => []
  | c :: cs => c.strings ++ termStrings cs

end

mutual

def Value.strings : Value → List String
  | .named name => [name]
  | .union parts => partStrings parts
  | _ => []

def partStrings : List Value → List String
  | [] => []
  | v :: vs => v.strings ++ partStrings vs

end

mutual

def Node.strings : Node → List String
  | .chain label arms => label :: arms.strings
  | .define name value => name :: value.strings
  | .default name value => name :: value.strings
  | .include header => [header]
  | .error message => [message]
  | .comment text => [text]
  | .blank => []

/-- The strings of alternatives. -/
def Arms.strings : Arms → List String
  | .arm condition body rest => condition.strings ++ blockStrings body ++ rest.strings
  | .done => []
  | .otherwise body => blockStrings body
  | .fail message => [message]

def blockStrings : List Node → List String
  | [] => []
  | n :: ns => n.strings ++ blockStrings ns

end

/-! ## Numbers -/

/-- The digits of a number are no newlines, whatever the base is. -/
lemma newline_notMem_toDigits {b : Nat} (hb : 1 < b) (n : Nat) : '\n' ∉ Nat.toDigits b n :=
  notMem_toDigits hb (fun d _ => (Nat.digitChar_ne '\n' (by decide) : d.digitChar ≠ '\n').symm) n

lemma oneLine_toString_nat (n : Nat) : OneLine (toString n) := by
  rw [Nat.toString_eq_ofList_toDigits, oneLine_ofList]
  exact newline_notMem_toDigits (by decide) n

/-! ## Characters of conditions and values -/

/-- What conditions and values are written with, apart from their names. -/
def syntaxChars : List Char :=
  "!&|=<-() xdefined0123456789abc".toList

lemma notMem_of_mem_withOperator {x : Char} {operator : String} (hoperator : x ∉ operator.toList)
    {ts : List String} (h : ∀ t ∈ ts, x ∉ t.toList) :
    ∀ part ∈ Condition.breakable.withOperator operator ts, x ∉ part.toList := by
  induction ts using Condition.breakable.withOperator.induct with
  | case1 => exact h
  | case2 last => exact h
  | case3 t ts hne ih =>
      obtain ⟨ht, hts⟩ := List.forall_mem_cons.1 h
      rw [Condition.breakable.withOperator, List.forall_mem_cons]
      · exact ⟨notMem_append.2 ⟨ht, hoperator⟩, ih hts⟩
      · exact hne

section Characters

variable {x : Char} (hx : x ∉ syntaxChars)
include hx

lemma notMem_of_subset {s : String} (hs : s.toList ⊆ syntaxChars) : x ∉ s.toList :=
  fun hmem => hx (hs hmem)

lemma notMem_digits {b : Nat} (hlow : 1 < b) (hhigh : b ≤ 16) (n : Nat) :
    x ∉ Nat.toDigits b n := by
  have hdigits : ∀ d < 16, d.digitChar ∈ syntaxChars := by decide
  refine notMem_toDigits hlow (fun d hd heq => hx ?_) n
  rw [heq]
  exact hdigits d (by omega)

lemma notMem_toString_nat (n : Nat) : x ∉ (toString n).toList := by
  rw [Nat.toString_eq_ofList_toDigits, String.toList_ofList]
  exact notMem_digits hx (by decide) (by decide) n

lemma notMem_toString_int (i : Int) : x ∉ (toString i).toList := by
  rw [Int.toString_eq_repr, Int.repr_eq_if]
  split
  · exact notMem_toString_nat hx i.toNat
  · exact notMem_append.2 ⟨notMem_of_subset hx (by decide), notMem_toString_nat hx (-i).toNat⟩

lemma notMem_parenthesized {s : String} (h : x ∉ s.toList) : x ∉ (parenthesized s).toList :=
  notMem_append.2 ⟨notMem_append.2 ⟨notMem_of_subset hx (by decide), h⟩,
    notMem_of_subset hx (by decide)⟩

lemma Operand.notMem_text {operand : Operand} (h : ∀ s ∈ operand.strings, x ∉ s.toList) :
    x ∉ operand.text.toList := by
  cases operand with
  | named name => exact h name (List.mem_singleton_self name)
  | int value => exact notMem_toString_int hx value.toInt

mutual

/-- A character that is no part of the syntax is in the text of a condition only through a name. -/
lemma Condition.notMem_text :
    (c : Condition) → (∀ s ∈ c.strings, x ∉ s.toList) → x ∉ c.text.toList
  | .defined name, h => by
      rw [Condition.text]
      exact notMem_append.2 ⟨notMem_of_subset hx (by decide),
        notMem_parenthesized hx (h name (List.mem_singleton_self name))⟩
  | .equal left right, h => by
      rw [Condition.strings, List.forall_mem_append] at h
      rw [Condition.text]
      exact notMem_append.2 ⟨notMem_append.2 ⟨Operand.notMem_text hx h.1,
        notMem_of_subset hx (by decide)⟩, Operand.notMem_text hx h.2⟩
  | .not c, h => by
      rw [Condition.strings] at h
      have hc := notMem_parenthesized hx (Condition.notMem_text c h)
      cases c with
      | defined name =>
          rw [Condition.text]
          exact notMem_append.2 ⟨notMem_of_subset hx (by decide),
            notMem_parenthesized hx (h name (List.mem_singleton_self name))⟩
      | _ =>
          rw [Condition.text]
          · exact notMem_append.2 ⟨notMem_of_subset hx (by decide), hc⟩
          · exact fun _ heq => nomatch heq
  | .any terms, h => by
      rw [Condition.text]
      exact notMem_intercalate (notMem_of_subset hx (by decide)) (notMem_of_mem_termTexts terms h)
  | .all terms, h => by
      rw [Condition.text]
      exact notMem_intercalate (notMem_of_subset hx (by decide)) (notMem_of_mem_termTexts terms h)

lemma notMem_of_mem_termTexts :
    (terms : List Condition) → (∀ s ∈ termStrings terms, x ∉ s.toList) →
      ∀ t ∈ Condition.termTexts terms, x ∉ t.toList
  | [], _ => fun _ ht => absurd ht List.not_mem_nil
  | c :: cs, h => by
      rw [termStrings, List.forall_mem_append] at h
      have hc := Condition.notMem_text c h.1
      rw [Condition.termTexts, List.forall_mem_cons]
      refine ⟨?_, notMem_of_mem_termTexts cs h.2⟩
      split
      · exact notMem_parenthesized hx hc
      · exact hc

end

/-- The parts that a condition is broken into have such a character only through a name. -/
lemma Condition.notMem_of_mem_breakable {c : Condition} (h : ∀ s ∈ c.strings, x ∉ s.toList) :
    ∀ part ∈ c.breakable, x ∉ part.toList := by
  cases c with
  | any terms =>
      exact notMem_of_mem_withOperator (notMem_of_subset hx (by decide))
        (notMem_of_mem_termTexts hx terms h)
  | all terms =>
      exact notMem_of_mem_withOperator (notMem_of_subset hx (by decide))
        (notMem_of_mem_termTexts hx terms h)
  | _ =>
      rw [Condition.breakable, List.forall_mem_singleton]
      · exact Condition.notMem_text hx _ h
      · exact fun _ heq => nomatch heq
      · exact fun _ heq => nomatch heq

end Characters

mutual

/-- A character that is no part of the syntax is in the text of a value only through a name. -/
lemma Value.notMem_text {x : Char} (hx : x ∉ syntaxChars) :
    (v : Value) → (∀ s ∈ v.strings, x ∉ s.toList) → x ∉ v.text.toList
  | .flag, _ => by
      rw [Value.text]
      exact notMem_of_subset hx (by decide)
  | .int value, _ => by
      rw [Value.text]
      exact notMem_toString_int hx value.toInt
  | .hex value, _ => by
      have hdigits : x ∉ (Text.hexDigits value.toUInt64.toNat).toList := by
        rw [Text.hexDigits, String.toList_ofList]
        exact notMem_digits hx (by decide) (by decide) _
      rw [Value.text]
      exact notMem_append.2 ⟨notMem_of_subset hx (by decide), hdigits⟩
  | .bit position, _ => by
      rw [Value.text]
      exact notMem_parenthesized hx
        (notMem_append.2 ⟨notMem_of_subset hx (by decide), notMem_toString_nat hx position⟩)
  | .named name, h => by
      rw [Value.text]
      exact h name (by simp [Value.strings])
  | .union parts, h => by
      rw [Value.text]
      exact notMem_parenthesized hx
        (notMem_intercalate (notMem_of_subset hx (by decide)) (notMem_of_mem_partTexts hx parts h))

lemma notMem_of_mem_partTexts {x : Char} (hx : x ∉ syntaxChars) :
    (parts : List Value) → (∀ s ∈ partStrings parts, x ∉ s.toList) →
      ∀ t ∈ Value.partTexts parts, x ∉ t.toList
  | [], _ => fun _ ht => absurd ht List.not_mem_nil
  | v :: vs, h => by
      rw [partStrings, List.forall_mem_append] at h
      rw [Value.partTexts, List.forall_mem_cons]
      exact ⟨Value.notMem_text hx v h.1, notMem_of_mem_partTexts hx vs h.2⟩

end

/-! ## Texts on one line -/

lemma newline_notMem_syntaxChars : '\n' ∉ syntaxChars := by
  decide

/-- A condition over names without newlines is written on one line. -/
lemma Condition.oneLine_text (c : Condition) (h : ∀ s ∈ c.strings, OneLine s) : OneLine c.text :=
  c.notMem_text newline_notMem_syntaxChars h

/-- A value over names without newlines is written on one line. -/
lemma Value.oneLine_text (v : Value) (h : ∀ s ∈ v.strings, OneLine s) : OneLine v.text :=
  v.notMem_text newline_notMem_syntaxChars h

/-- The parts that a condition is broken into have no newlines. -/
lemma Condition.oneLine_of_mem_breakable {c : Condition} (h : ∀ s ∈ c.strings, OneLine s) :
    ∀ part ∈ c.breakable, OneLine part :=
  Condition.notMem_of_mem_breakable newline_notMem_syntaxChars h

end MathHeader.Preprocessor
