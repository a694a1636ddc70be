import Mathlib.Data.Nat.Basic

/-!
# Numbers in digits

A compiler reads a number from its digits, the highest first.  `numeral?` is that reading for any
base up to sixteen, and `numeral?_toDigits` says that it gives a number back from the digits that
it is written with.
-/

namespace MathHeader.Text

/-! ## Digits of a number -/

/-- A number is written with digits of its base. -/
lemma exists_digit_of_mem_toDigits {b : Nat} (hb : 1 < b) {n : Nat} {c : Char}
    (h : c ∈ Nat.toDigits b n) : ∃ d, d < b ∧ c = d.digitChar := by
  induction n using Nat.strongRecOn with
  | ind n ih =>
      rw [Nat.toDigits_eq_if hb] at h
      split at h
      next hlt => exact ⟨n, hlt, List.mem_singleton.1 h⟩
      next hle =>
        rw [List.mem_append, List.mem_singleton] at h
        rcases h with h | rfl
        · exact ih (n / b) (Nat.div_lt_self (by omega) hb) h
        · exact ⟨n % b, Nat.mod_lt n (by omega), rfl⟩

lemma notMem_toDigits {b : Nat} (hb : 1 < b) {c : Char} (hc : ∀ d < b, c ≠ d.digitChar) (n : Nat) :
    c ∉ Nat.toDigits b n := by
  intro hmem
  obtain ⟨d, hd, heq⟩ := exists_digit_of_mem_toDigits hb hmem
  exact hc d hd heq

lemma toDigits_ne_nil (b n : Nat) : Nat.toDigits b n ≠ [] :=
  List.ne_nil_of_length_pos Nat.length_toDigits_pos

/-- A number of several digits does not start with a zero. -/
lemma head?_toDigits_ne {b : Nat} (hb : 1 < b) {n : Nat} (hn : 0 < n) :
    (Nat.toDigits b n).head? ≠ some '0' := by
  induction n using Nat.strongRecOn with
  | ind n ih =>
      rw [Nat.toDigits_eq_if hb]
      split
      next =>
        have hne : n ≠ 0 := by omega
        simp [hne]
      next hle =>
        have hpos : 0 < n / b := Nat.div_pos (by omega) (by omega)
        obtain ⟨c, cs, hdigits⟩ := List.exists_cons_of_ne_nil (toDigits_ne_nil b (n / b))
        have hhead := ih (n / b) (Nat.div_lt_self (by omega) hb) hpos
        rw [hdigits] at hhead ⊢
        exact hhead

/-! ## Reading digits -/

/-- The value of a digit.  The letters from `a` to `f`, in either case, follow the nine. -/
def digitValue? (c : Char) : Option Nat :=
  if c.isDigit then some (c.toNat - '0'.toNat)
  else if 'a' ≤ c.toLower ∧ c.toLower ≤ 'f' then some (c.toLower.toNat - 'a'.toNat + 10)
  else none

/-- The number that digits stand for, after digits that stand for `high`. -/
def numeralFrom? (base high : Nat) : List Char → Option Nat
  | [] => some high
  | c :: cs => do
    let d ← digitValue? c
    if d < base then numeralFrom? base (base * high + d) cs else none

/-- The number that some digits stand for. -/
def numeral? (base : Nat) (digits : List Char) : Option Nat :=
  if digits.isEmpty then none else numeralFrom? base 0 digits

/-! ## What is read from the digits of a number -/

lemma digitValue?_digitChar {d : Nat} (hd : d < 16) : digitValue? d.digitChar = some d := by
  have hall : ∀ d < 16, digitValue? d.digitChar = some d := by decide
  exact hall d hd

lemma numeralFrom?_append (base high : Nat) (front rest : List Char) :
    numeralFrom? base high (front ++ rest) =
      numeralFrom? base high front >>= fun n => numeralFrom? base n rest := by
  induction front generalizing high with
  | nil => rfl
  | cons c front ih =>
      simp only [List.cons_append, numeralFrom?, Option.bind_eq_bind, Option.bind_assoc]
      refine Option.bind_congr fun d _ => ?_
      split
      · exact ih _
      · rfl

lemma numeralFrom?_digit {base d : Nat} (hbase : base ≤ 16) (hd : d < base) (high : Nat) :
    numeralFrom? base high [d.digitChar] = some (base * high + d) := by
  simp [numeralFrom?, digitValue?_digitChar (by omega : d < 16), hd]

/-- **What is read from the digits of a number** is the number. -/
theorem numeral?_toDigits {base : Nat} (hlow : 1 < base) (hhigh : base ≤ 16) (n : Nat) :
    numeral? base (Nat.toDigits base n) = some n := by
  have hfrom : numeralFrom? base 0 (Nat.toDigits base n) = some n := by
    induction n using Nat.strongRecOn with
    | ind n ih =>
        rw [Nat.toDigits_eq_if hlow]
        split
        next hlt =>
          rw [numeralFrom?_digit hhigh hlt, Nat.mul_zero, Nat.zero_add]
        next hle =>
          have hmod : n % base < base := Nat.mod_lt n (by omega)
          rw [numeralFrom?_append, ih (n / base) (Nat.div_lt_self (by omega) hlow),
            Option.bind_eq_bind, Option.bind_some, numeralFrom?_digit hhigh hmod, Nat.div_add_mod]
  rw [numeral?, if_neg (by simp), hfrom]

end MathHeader.Text
