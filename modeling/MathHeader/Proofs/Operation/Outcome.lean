import MathHeader.Proofs.Operation.Instantiate

/-!
# When an operation gives functions

An operation gives its functions for a type exactly if the type *suits* it: some body is meant for
the elements, the first such body can be filled in, and every parameter and the result have a type.
All of this is a matter of kinds.  The class of a body contains all numbers of a kind or none, a
mark asks for a float, a vector or a matrix, and so do the types of values; so an operation that
gives functions for one type does so for all types with elements of the same kind in shapes of the
same kind, and it is enough to try one of each.

The rule for derived functions has no say in it: whether there are functions, and what is reported
if there are none, is the same for every rule.  `Operation.instantiate_outcome` has both outcomes.
-/

namespace MathHeader

/-! ## Types of one kind -/

/-- **Types of one kind.**  Their elements are of one kind, and both are scalars, vectors or
matrices. -/
structure ShapedType.SameKind (t u : ShapedType) : Prop where
  element : t.element.kind = u.element.kind
  vector : t.shape.isVector = u.shape.isVector
  matrix : t.shape.isMatrix = u.shape.isMatrix

/-- Whether a description gives a type for operands of type `t`. -/
def ValueType.fits (t : ShapedType) : ValueType → Bool
  | operand | element | bool => true
  | boolVector => t.shape.isVector
  | row | column | transposed => t.shape.isMatrix

lemma ValueType.isSome_type? (v : ValueType) (t : ShapedType) :
    (v.type? t).isSome = v.fits t := by
  obtain ⟨element, shape⟩ := t
  cases v with
  | operand | element | bool => rfl
  | boolVector | row | column | transposed => cases shape <;> rfl

section

variable {t u : ShapedType}

lemma ShapedType.SameKind.float (h : t.SameKind u) : t.element.isFloat = u.element.isFloat :=
  congrArg (· == ScalarKind.float) h.element

lemma ValueType.isSome_type?_congr (h : t.SameKind u) (v : ValueType) :
    (v.type? t).isSome = (v.type? u).isSome := by
  rw [isSome_type?, isSome_type?]
  cases v <;> simp only [fits, h.vector, h.matrix]

lemma Placeholder.fits_congr (h : t.SameKind u) (p : Placeholder) : p.fits t = p.fits u := by
  cases p <;> simp only [fits, h.float, h.vector, h.matrix]

lemma Mark.fits_congr (h : t.SameKind u) (m : Mark) : m.fits t = m.fits u := by
  have hfits : Placeholder.fits t = Placeholder.fits u := funext (Placeholder.fits_congr h)
  have houtside : Placeholder.fitsOutside t = Placeholder.fitsOutside u := by
    funext p
    rw [Placeholder.fitsOutside, Placeholder.fitsOutside, hfits]
  cases m with
  | hole p => rw [fits, fits, houtside]
  | expand j func expr => rw [fits, fits, hfits, houtside, h.vector]

lemma Template.fits_congr (h : t.SameKind u) (template : Template) :
    template.fits t = template.fits u := by
  rw [fits, fits, funext (Mark.fits_congr h)]

/-! ## One answer for a kind -/

namespace Operation

variable {o : Operation}

lemma fits_congr (h : t.SameKind u) (o : Operation) : o.fits t = o.fits u := by
  have hclass (c : TypeClass) : c.contains t.element = c.contains u.element := by
    rw [TypeClass.contains, TypeClass.contains, h.element]
  simp only [fits, hclass, Template.fits_congr h, ValueType.isSome_type?_congr h]

/-! ## One answer for all rules -/

/-- What is reported does not depend on the rule for derived functions. -/
lemma Fails.withBroadcast {e : GenError} (h : o.Fails t e) (rule : Broadcast) :
    { o with broadcast := rule }.Fails t e := by
  cases h with
  | noBody h => exact .noBody h
  | body hbody h => exact .body hbody h
  | param hbody hrender hparams hfront h => exact .param hbody hrender hparams hfront h
  | ret hbody hrender hparams h => exact .ret hbody hrender hparams h

/-! ## Both outcomes -/

/-- **What an operation asks of a type.**  The first body for the elements can be filled in, and the
parameters and the result have types. -/
structure Suits (o : Operation) (t : ShapedType) : Prop where
  body : ∃ template, o.HasBody t.element template ∧ ∃ body, template.render t = .ok body
  params : ∀ p ∈ o.params, (p.2.token? t).isSome = true
  ret : (o.ret.token? t).isSome = true

lemma exists_instantiate_iff_suits : (∃ fs, o.instantiate t = .ok fs) ↔ o.Suits t := by
  have hsignature : (∃ s, o.signature t = .ok s) ↔
      (o.ret.token? t).isSome = true ∧ ∀ p ∈ o.params, (p.2.token? t).isSome = true := by
    simp only [ValueType.isSome_token?]
    rw [signature, exists_signatureWith_eq_ok_iff, List.forall_mem_map]
  rw [exists_instantiate_iff, hsignature]
  simp only [bodyFor_eq_ok_iff]
  constructor
  · rintro ⟨hbody, hret, hparams⟩
    exact ⟨hbody, hparams, hret⟩
  · rintro ⟨hbody, hparams, hret⟩
    exact ⟨hbody, hret, hparams⟩

/-- **When an operation gives functions, and why it does not.**  It gives functions exactly for the
types that suit it.  For any other type it reports, in this order, that there is no body for the
elements, what the body cannot be filled in for, the first parameter without a type, or the result.
The rule for derived functions makes no difference to that, and neither does the choice among types
of one kind to whether there are functions. -/
theorem instantiate_outcome (o : Operation) :
    (∀ t, (∃ fs, o.instantiate t = .ok fs) ↔ o.Suits t) ∧
    (∀ t e, o.instantiate t = .error e ↔ o.Fails t e) ∧
    (∀ rule t e, { o with broadcast := rule }.instantiate t = .error e ↔
      o.instantiate t = .error e) ∧
    ∀ t u, t.SameKind u →
      ((∃ fs, o.instantiate t = .ok fs) ↔ ∃ fs, o.instantiate u = .ok fs) := by
  refine ⟨fun _ => exists_instantiate_iff_suits, fun _ _ => instantiate_eq_error_iff,
    fun rule t e => ?_, fun t u h => ?_⟩
  · rw [instantiate_eq_error_iff, instantiate_eq_error_iff]
    exact ⟨fun h => h.withBroadcast o.broadcast, fun h => h.withBroadcast rule⟩
  · rw [exists_instantiate_eq_ok_iff, exists_instantiate_eq_ok_iff, fits_congr h]

end Operation

end

end MathHeader
