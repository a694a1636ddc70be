import MathHeader.Proofs.Names.Token

/-!
# Functions with one name

The mark of a variant is a plain `s`, so the name of a function does not always show where its
operation ends.  `SymbolKey.name_eq_iff` says how far that goes: two functions have one name exactly
if they have one type and the names of their operations, with their marks, are equal.  Within one
operation and one type this needs an `s` that can be moved from the back of a word to its front,
and such a word consists of that letter only: `concat_eq_cons_iff`.

A name is an identifier whenever the name of its operation is made of word characters, since the
rest of it is: `SymbolKey.isIdentifier_name_iff`.  `SymbolKey.name_collisions` puts this together.
-/

namespace MathHeader

/-! ## Words and letters that commute -/

/-- A letter can stand in front of a word as well as behind it exactly if the word has no other
letter. -/
lemma concat_eq_cons_iff {α : Type} {c : α} {w : List α} :
    w ++ [c] = c :: w ↔ ∀ d ∈ w, d = c := by
  induction w with
  | nil => simp
  | cons d w ih =>
      rw [List.cons_append, List.cons.injEq, List.forall_mem_cons]
      constructor
      · rintro ⟨rfl, h⟩
        exact ⟨rfl, ih.1 h⟩
      · rintro ⟨rfl, h⟩
        exact ⟨rfl, ih.2 h⟩

/-! ## Marks that coincide -/

namespace Variant

lemma length_toList_decorate (v : Variant) (op : String) :
    (v.decorate op).toList.length = op.toList.length + if v = .base then 0 else 1 := by
  cases v <;> simp [decorate, String.toList_append, Nat.add_comm]

/-- The marks of the two mixed variants coincide for operations that are spelled with `s` only. -/
lemma decorate_vectorScalar_eq_iff (op : String) :
    vectorScalar.decorate op = scalarVector.decorate op ↔ ∀ c ∈ op.toList, c = 's' := by
  rw [← concat_eq_cons_iff, ← String.toList_inj]
  simp [decorate, String.toList_append]

/-- **Marks that coincide.**  Two variants of an operation are written alike only if they are the
two mixed ones and the operation is spelled with `s` only. -/
lemma decorate_eq_iff {v w : Variant} (hne : v ≠ w) (op : String) :
    v.decorate op = w.decorate op ↔
      (v = vectorScalar ∧ w = scalarVector ∨ v = scalarVector ∧ w = vectorScalar) ∧
        ∀ c ∈ op.toList, c = 's' := by
  -- A mark makes a name longer, so the operation without a mark is written like no other.
  have hbase {w : Variant} (hw : w ≠ base) : base.decorate op ≠ w.decorate op := by
    intro h
    have hlength := congrArg (fun s => s.toList.length) h
    simp only [length_toList_decorate, if_neg hw, reduceIte] at hlength
    omega
  by_cases hv : v = base
  · subst hv
    simp [hbase hne.symm]
  by_cases hw : w = base
  · subst hw
    simp [(hbase hv).symm]
  cases v with
  | base => exact absurd rfl hv
  | vectorScalar =>
      cases w with
      | base => exact absurd rfl hw
      | vectorScalar => exact absurd rfl hne
      | scalarVector => simp [decorate_vectorScalar_eq_iff]
  | scalarVector =>
      cases w with
      | base => exact absurd rfl hw
      | vectorScalar =>
          rw [eq_comm, decorate_vectorScalar_eq_iff]
          simp
      | scalarVector => exact absurd rfl hne

/-- A mark adds a word character to the name of an operation. -/
lemma all_isWordChar_decorate (v : Variant) (op : String) :
    (v.decorate op).toList.all isWordChar = op.toList.all isWordChar := by
  have hmark : isWordChar 's' = true := by decide
  cases v <;> simp [decorate, String.toList_append, hmark]

end Variant

/-! ## Names that can be declared -/

namespace SymbolKey

/-- **Names that tell functions apart.**  A name is the same for all functions of one type whose
operations are written alike with their marks. -/
lemma name_eq_iff {k l : SymbolKey} :
    k.name = l.name ↔ k.type = l.type ∧ k.variant.decorate k.op = l.variant.decorate l.op := by
  constructor
  · intro h
    exact (name_inj h).symm
  · rintro ⟨htype, hop⟩
    rw [name, name, htype, hop]

/-- **Names that can be declared.**  The name of a function is an identifier exactly if that of its
operation is made of word characters. -/
lemma isIdentifier_name_iff (k : SymbolKey) :
    isIdentifier k.name = true ↔ k.op.toList.all isWordChar = true := by
  have htoken : k.type.token.toList.all isWordChar = true :=
    all_isWordChar_of_isWord k.type.isWord_token
  have hmark : isWordChar '_' = true := by decide
  have hrest : ((k.variant.decorate k.op).toList ++ '_' :: k.type.token.toList).all isWordChar =
      k.op.toList.all isWordChar := by
    simp [List.all_append, List.all_cons, Variant.all_isWordChar_decorate, htoken, hmark]
  rw [← hrest]
  constructor
  · intro h
    have hword := all_isWordChar_of_isWord (isIdentifier_iff.1 h).1
    rw [toList_name, List.all_append, Bool.and_eq_true] at hword
    exact hword.2
  · intro h
    have hword : isWord k.name.toList = true := by
      rw [toList_name]
      exact isWord_append (by decide) h
    -- The underscore of the prefix keeps the name apart from all keywords.
    refine isIdentifier_of_isWord hword (c := '_') ?_ (by decide)
    rw [toList_name]
    exact List.mem_append_left _ (by decide)

/-! ## All of it together -/

/-- **Collisions of function names.**  Two functions have one name exactly if they have one type and
their operations are written alike with the marks of their variants.  Two variants of one operation
and one type have one name exactly if they are the two mixed ones and the operation is spelled with
`s` only.  A name is an identifier exactly if that of its operation is made of letters, digits and
underscores. -/
theorem name_collisions :
    (∀ k l : SymbolKey, k.name = l.name ↔
      (k.type.element = l.type.element ∧ k.type.shape = l.type.shape) ∧
        k.variant.decorate k.op = l.variant.decorate l.op) ∧
    (∀ (op : String) (type : ShapedType) (v w : Variant),
      v ≠ w ∧ (⟨op, type, v⟩ : SymbolKey).name = (⟨op, type, w⟩ : SymbolKey).name ↔
        (v = .vectorScalar ∧ w = .scalarVector ∨ v = .scalarVector ∧ w = .vectorScalar) ∧
          ∀ c ∈ op.toList, c = 's') ∧
    ∀ k : SymbolKey, isIdentifier k.name = true ↔
      ∀ c ∈ k.op.toList, c.isAlphanum = true ∨ c = '_' := by
  refine ⟨fun k l => ?_, fun op type v w => ?_, fun k => ?_⟩
  · have htype : k.type = l.type ↔
        k.type.element = l.type.element ∧ k.type.shape = l.type.shape := by
      rcases k.type with ⟨s, shape⟩
      rcases l.type with ⟨s', shape'⟩
      simp
    rw [name_eq_iff, htype]
  · rw [name_eq_iff]
    constructor
    · rintro ⟨hne, -, hop⟩
      exact (Variant.decorate_eq_iff hne op).1 hop
    · intro h
      have hne : v ≠ w := by
        rcases h.1 with ⟨rfl, rfl⟩ | ⟨rfl, rfl⟩ <;> decide
      exact ⟨hne, rfl, (Variant.decorate_eq_iff hne op).2 h⟩
  · rw [isIdentifier_name_iff, List.all_eq_true]
    simp [isWordChar, or_comm]

end SymbolKey

end MathHeader
