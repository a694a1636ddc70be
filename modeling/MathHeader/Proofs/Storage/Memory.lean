import MathHeader.Detection.ByteOrder
import Mathlib.Tactic.Ring

/-!
# Numbers in memory

A number of several bytes lies in memory with its most or its least significant byte first.  Bytes
side by side are bytes of a larger number, and the byte order says which of them are in front
(`ByteOrder.arrange`): the bytes of a number are its high part and its low part, so arranged
(`encode_add`), and what is so arranged has the value of both (`decode_arrange`).

A member of a structure is a stretch of its bytes.  Members of a union may overlap, and what is
written to one of them is seen in the others.
-/

namespace MathHeader

/-! ## The least significant byte first -/

/-- The lowest bytes of a number, the least significant first. -/
def leastFirst : ℕ → ℕ → List UInt8
  | 0, _ => []
  | size + 1, n => UInt8.ofNat n :: leastFirst size (n / 256)

/-- The number with the given bytes, the least significant first. -/
def fromLeast : List UInt8 → ℕ
  | [] => 0
  | b :: bs => b.toNat + 256 * fromLeast bs

@[simp] lemma length_leastFirst (size n : ℕ) : (leastFirst size n).length = size := by
  induction size generalizing n with
  | zero => rfl
  | succ size ih => rw [leastFirst, List.length_cons, ih]

lemma leastFirst_add (j k n : ℕ) :
    leastFirst (j + k) n = leastFirst j n ++ leastFirst k (n / 256 ^ j) := by
  induction j generalizing n with
  | zero => simp [leastFirst]
  | succ j ih =>
      rw [Nat.add_right_comm, leastFirst, leastFirst, ih, Nat.div_div_eq_div_mul, ← pow_succ',
        List.cons_append]

lemma fromLeast_append (bs cs : List UInt8) :
    fromLeast (bs ++ cs) = fromLeast bs + 256 ^ bs.length * fromLeast cs := by
  induction bs with
  | nil => simp [fromLeast]
  | cons b bs ih =>
      rw [List.cons_append, fromLeast, fromLeast, ih, List.length_cons, pow_succ']
      ring

lemma fromLeast_leastFirst (size n : ℕ) : fromLeast (leastFirst size n) = n % 256 ^ size := by
  induction size generalizing n with
  | zero => simp [leastFirst, fromLeast, Nat.mod_one]
  | succ size ih =>
      have hbyte : (UInt8.ofNat n).toNat = n % 256 := UInt8.toNat_ofNat'
      rw [leastFirst, fromLeast, ih, hbyte, pow_succ', Nat.mod_mul]

namespace ByteOrder

/-! ## Numbers in either order -/

/-- The lowest bytes of a number, as they lie in memory. -/
def encode : ByteOrder → ℕ → ℕ → List UInt8
  | big, size, n => (leastFirst size n).reverse
  | little, size, n => leastFirst size n

/-- The number whose bytes lie in memory. -/
def decode : ByteOrder → List UInt8 → ℕ
  | big, bs => fromLeast bs.reverse
  | little, bs => fromLeast bs

variable (o : ByteOrder)

@[simp] lemma length_encode (size n : ℕ) : (o.encode size n).length = size := by
  cases o <;> simp [encode]

lemma decode_encode (size n : ℕ) : o.decode (o.encode size n) = n % 256 ^ size := by
  cases o <;> simp [encode, decode, fromLeast_leastFirst]

/-! ## High and low parts -/

/-- Two parts side by side, the more significant one where the order has it. -/
def arrange {α : Type} : ByteOrder → List α → List α → List α
  | big, high, low => high ++ low
  | little, high, low => low ++ high

@[simp] lemma length_arrange {α : Type} (high low : List α) :
    (o.arrange high low).length = high.length + low.length := by
  cases o <;> simp [arrange, add_comm]

/-- **Parts of a number.**  The bytes of a number are those of its high and of its low part. -/
lemma encode_add (j k n : ℕ) :
    o.encode (j + k) n = o.arrange (o.encode k (n / 256 ^ j)) (o.encode j n) := by
  cases o <;> simp [encode, arrange, leastFirst_add]

/-- **Parts of a value.**  Both parts count, the high one by as many bytes as the low one has. -/
lemma decode_arrange (high low : List UInt8) :
    o.decode (o.arrange high low) = o.decode high * 256 ^ low.length + o.decode low := by
  cases o <;> simp [decode, arrange, fromLeast_append, add_comm, mul_comm]

/-- Bytes are parts of any sizes that they have together. -/
lemma exists_arrange {j k : ℕ} {memory : List UInt8} (h : memory.length = j + k) :
    ∃ high low : List UInt8, high.length = j ∧ low.length = k ∧ memory = o.arrange high low := by
  cases o with
  | big =>
      exact ⟨memory.take j, memory.drop j, by simp [h], by simp [h],
        (List.take_append_drop j memory).symm⟩
  | little =>
      exact ⟨memory.drop k, memory.take k, by simp [h], by simp [h],
        (List.take_append_drop k memory).symm⟩

end ByteOrder

/-! ## Members -/

/-- A member: so many bytes from an offset on. -/
structure ByteField where
  name : String
  offset : ℕ
  size : ℕ
deriving DecidableEq, Repr

namespace ByteField

/-- The number that a member holds. -/
def read (o : ByteOrder) (s : ByteField) (memory : List UInt8) : ℕ :=
  o.decode ((memory.drop s.offset).take s.size)

/-- The memory after a member is set. -/
def write (o : ByteOrder) (s : ByteField) (n : ℕ) (memory : List UInt8) : List UInt8 :=
  memory.take s.offset ++ o.encode s.size n ++ memory.drop (s.offset + s.size)

end ByteField

end MathHeader
