import MathHeader.Proofs.Text.Words
import MathHeader.Symbol

/-!
# Names of types and functions

A name of the header is put together from words, and the header is sound only if the words can be
told apart again.  The token of a type is the token of its elements and a suffix that starts with an
`x`, which no token of elements has; so the type can be read off: `token_inj`.  The name of a
function ends in an underscore and a token, which has none; so the name decides the type and the
operation with the mark of its variant: `SymbolKey.name_inj`.
-/

namespace MathHeader

/-! ## Tokens of types -/

namespace Scalar

lemma isWord_token (s : Scalar) : isWord s.token.toList = true := by
  cases s <;> decide

/-- The characters of a token are letters and digits, and none of them is an `x`. -/
lemma token_chars (s : Scalar) : ∀ c ∈ s.token.toList, c.isAlphanum = true ∧ c ≠ 'x' := by
  have hall : (s.token.toList.all fun c => c.isAlphanum && c != 'x') = true := by
    cases s <;> decide
  simpa using hall

lemma token_inj {s t : Scalar} (h : s.token = t.token) : s = t := by
  have hall : ∀ s ∈ all, ∀ t ∈ all, s.token = t.token → s = t := by decide
  exact hall s s.mem_all t t.mem_all h

end Scalar

namespace Shape

lemma suffix_chars (s : Shape) : ∀ c ∈ s.suffix.toList, c.isAlphanum = true := by
  have hall : ∀ s ∈ all, s.suffix.toList.all Char.isAlphanum = true := by decide
  exact List.all_eq_true.1 (hall s s.mem_all)

/-- A suffix is empty, or starts with an `x` and has a digit in it. -/
lemma suffix_head (s : Shape) : s = .scalar ∨
    s.suffix.toList.head? = some 'x' ∧ ∃ c ∈ s.suffix.toList, c.isLower = false := by
  have hall : ∀ s ∈ all, s = .scalar ∨ s.suffix.toList.head? = some 'x' ∧
      (s.suffix.toList.any fun c => !c.isLower) = true := by
    decide
  simpa using hall s s.mem_all

lemma suffix_inj {s t : Shape} (h : s.suffix = t.suffix) : s = t := by
  have hall : ∀ s ∈ all, ∀ t ∈ all, s.suffix = t.suffix → s = t := by decide
  exact hall s s.mem_all t t.mem_all h

end Shape

namespace ShapedType

lemma toList_token (t : ShapedType) :
    t.token.toList = t.element.token.toList ++ t.shape.suffix.toList :=
  String.toList_append

/-- **Elements of a token.**  In front of the first `x` a token, with whatever follows it from an
`x` on, is the token of the elements. -/
lemma takeWhile_token_append (s : Scalar) {rest : List Char}
    (hrest : rest.head? = none ∨ rest.head? = some 'x') :
    (s.token.toList ++ rest).takeWhile (· != 'x') = s.token.toList := by
  rw [List.takeWhile_append_of_pos fun c hc => by simpa using (s.token_chars c hc).2]
  cases rest with
  | nil => exact List.append_nil _
  | cons c rest =>
      have hc : c = 'x' := by simpa using hrest
      rw [hc, List.takeWhile_cons_of_neg (by simp), List.append_nil]

lemma takeWhile_token (t : ShapedType) :
    t.token.toList.takeWhile (· != 'x') = t.element.token.toList := by
  rw [toList_token]
  refine takeWhile_token_append t.element ?_
  rcases t.shape.suffix_head with h | ⟨h, -⟩
  · exact .inl (by rw [h]; rfl)
  · exact .inr h

/-- **Tokens tell types apart.** -/
theorem token_inj {t u : ShapedType} (h : t.token = u.token) : t = u := by
  have helement : t.element = u.element := by
    refine Scalar.token_inj (String.toList_inj.1 ?_)
    rw [← takeWhile_token, ← takeWhile_token, h]
  have hshape : t.shape = u.shape := by
    refine Shape.suffix_inj (String.toList_inj.1 ?_)
    have hlist := congrArg String.toList h
    rw [toList_token, toList_token, helement] at hlist
    exact List.append_cancel_left hlist
  obtain ⟨s, shape⟩ := t
  exact congrArg₂ ShapedType.mk helement hshape

lemma token_chars (t : ShapedType) : ∀ c ∈ t.token.toList, c.isAlphanum = true := by
  intro c hc
  rw [toList_token, List.mem_append] at hc
  rcases hc with hc | hc
  · exact (t.element.token_chars c hc).1
  · exact t.shape.suffix_chars c hc

lemma underscore_notMem_token (t : ShapedType) : '_' ∉ t.token.toList :=
  fun h => absurd (t.token_chars '_' h) (by decide)

@[simp] lemma token_scalar (s : Scalar) : token ⟨s, .scalar⟩ = s.token :=
  String.append_empty

lemma isWord_token (t : ShapedType) : isWord t.token.toList = true := by
  rw [toList_token]
  refine isWord_append t.element.isWord_token (List.all_eq_true.2 fun c hc => ?_)
  exact isWordChar_of_isAlphanum (t.shape.suffix_chars c hc)

end ShapedType

/-! ## Names of functions -/

/-- An element that does not come again is not preceded by anything. -/
lemma eq_nil_of_cons_eq_append {α : Type} {a : α} {front rest rest' : List α} (h : a ∉ rest)
    (heq : a :: rest = front ++ a :: rest') : front = [] := by
  cases front with
  | nil => rfl
  | cons b front =>
      have hrest : rest = front ++ a :: rest' := (List.cons.inj heq).2
      exact absurd (hrest ▸ List.mem_append_right front List.mem_cons_self) h

/-- The last occurrence of an element decides what stands before it and after it. -/
lemma append_cons_inj {α : Type} {a : α} {front front' rest rest' : List α} (h : a ∉ rest)
    (h' : a ∉ rest') (heq : front ++ a :: rest = front' ++ a :: rest') :
    front = front' ∧ rest = rest' := by
  have hfront : front = front' := by
    rcases List.append_eq_append_iff.1 heq with
      ⟨between, hbetween, hrest⟩ | ⟨between, hbetween, hrest⟩
    · rw [hbetween, eq_nil_of_cons_eq_append h hrest, List.append_nil]
    · rw [hbetween, eq_nil_of_cons_eq_append h' hrest, List.append_nil]
  rw [hfront] at heq
  exact ⟨hfront, (List.cons.inj (List.append_cancel_left heq)).2⟩

namespace SymbolKey

lemma toList_name (k : SymbolKey) :
    k.name.toList = ['r', 'm', '_'] ++
      ((k.variant.decorate k.op).toList ++ '_' :: k.type.token.toList) := by
  simp [name, String.toList_append]

/-- **Names tell functions apart.**  The name of a function decides its type and the name of its
operation with the mark of its variant. -/
theorem name_inj {k l : SymbolKey} (h : k.name = l.name) :
    k.variant.decorate k.op = l.variant.decorate l.op ∧ k.type = l.type := by
  have hlist := congrArg String.toList h
  rw [toList_name, toList_name] at hlist
  obtain ⟨hop, htoken⟩ := append_cons_inj k.type.underscore_notMem_token
    l.type.underscore_notMem_token (List.append_cancel_left hlist)
  exact ⟨String.toList_inj.1 hop, ShapedType.token_inj (String.toList_inj.1 htoken)⟩

end SymbolKey

end MathHeader
