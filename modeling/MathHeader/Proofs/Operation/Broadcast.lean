import Mathlib.Data.List.Nodup
import MathHeader.Macros.Constructor
import MathHeader.Proofs.Names.Collision
import MathHeader.Proofs.Operation.Instantiate

/-!
# Derived functions

A derived function does no work of its own.  One of its operands is a scalar, and it returns what
the declared function returns for that scalar spread over a vector.  An operation need not commute,
so the operands have to reach the declared function in the order in which they are declared, and it
has to be the scalar that is spread.  `FunctionSymbol.Wraps` says so, and also that the call is well
typed: what is passed has the types that the declared function takes.

The types of a signature are texts, so this needs that the token of a vector is not the token of its
elements; then the types of the parameters show which of them is the scalar.

The functions of one type have different names, but for operations that are spelled with the mark of
the scalar only: `nodup_map_name_iff`.  `Operation.instantiate_wraps` says all of this of the
functions for one type.
-/

namespace MathHeader

/-! ## When there are derived functions -/

namespace Operation

/-- **Operations with derived functions.**  Both operands have the type of the operation, which is a
vector, and the rule asks for derived functions. -/
structure Broadcasts (o : Operation) (shape : Shape) : Prop where
  vector : shape.isVector = true
  operands : ∃ a b, o.params = [(a, .operand), (b, .operand)]
  rule : o.broadcast ≠ .none

variable {o : Operation} {shape : Shape}

lemma isBinaryElementwise_iff :
    o.isBinaryElementwise = true ↔ ∃ a b, o.params = [(a, .operand), (b, .operand)] := by
  rw [isBinaryElementwise, Bool.and_eq_true, beq_iff_eq, List.length_eq_two]
  constructor
  · rintro ⟨⟨⟨a, va⟩, ⟨b, vb⟩, hparams⟩, hall⟩
    rw [hparams] at hall ⊢
    have hoperands : va = .operand ∧ vb = .operand := by simpa using hall
    obtain ⟨rfl, rfl⟩ := hoperands
    exact ⟨a, b, rfl⟩
  · rintro ⟨a, b, hparams⟩
    rw [hparams]
    exact ⟨⟨_, _, rfl⟩, rfl⟩

/-- A variant is derived for the vectors of a binary operation whose rule asks for it. -/
lemma mem_variants_iff {v : Variant} :
    v ∈ o.variants shape ↔ o.Broadcasts shape ∧
      (v = .vectorScalar ∨ v = .scalarVector ∧ o.broadcast = .both) := by
  have hbroadcasts : o.Broadcasts shape ↔
      (shape.isVector && o.isBinaryElementwise) = true ∧ o.broadcast ≠ .none := by
    rw [Bool.and_eq_true, isBinaryElementwise_iff]
    exact ⟨fun ⟨hv, ho, hr⟩ => ⟨⟨hv, ho⟩, hr⟩, fun ⟨⟨hv, ho⟩, hr⟩ => ⟨hv, ho, hr⟩⟩
  rw [hbroadcasts, variants]
  split
  next hbinary => cases o.broadcast <;> simp [hbinary]
  next hbinary => simp [hbinary]

lemma variants_ne_nil_iff : o.variants shape ≠ [] ↔ o.Broadcasts shape := by
  constructor
  · intro h
    obtain ⟨v, hv⟩ := List.exists_mem_of_ne_nil _ h
    exact (mem_variants_iff.1 hv).1
  · intro h
    exact List.ne_nil_of_mem (mem_variants_iff.2 ⟨h, .inl rfl⟩)

lemma nodup_variants (o : Operation) (shape : Shape) :
    (Variant.base :: o.variants shape).Nodup := by
  refine List.nodup_cons.2 ⟨o.base_notMem_variants shape, ?_⟩
  unfold variants
  split
  · cases o.broadcast <;> decide
  · exact List.nodup_nil

end Operation

/-! ## The operands of a variant -/

/-- The types of the two operands of a variant, as they are declared. -/
def Variant.operandTypes (v : Variant) (t : ShapedType) : List String :=
  match v with
  | .base => [t.token, t.token]
  | .vectorScalar => [t.token, t.element.token]
  | .scalarVector => [t.element.token, t.token]

lemma ShapedType.token_element_ne {t : ShapedType} (h : t.shape.isVector = true) :
    t.element.token ≠ t.token := by
  rw [← token_scalar]
  intro heq
  have hscalar : t.shape = .scalar := (congrArg shape (token_inj heq)).symm
  rw [hscalar] at h
  exact Bool.false_ne_true h

namespace Operation

variable {o : Operation} {t : ShapedType}

lemma signatureWith_derivedParams (o : Operation) (t : ShapedType) (v : Variant) (a b : String) :
    o.signatureWith (derivedParams v a b) t =
      (fun ret => ⟨ret, List.zipWith Param.mk [a, b] (v.operandTypes t)⟩) <$>
        o.valueToken t o.ret := by
  cases v with
  | base => rfl
  | vectorScalar | scalarVector =>
      rw [Variant.operandTypes, ← ShapedType.token_scalar]
      rfl

lemma signatureWith_derivedParams_eq_ok {v : Variant} {a b : String} {s : Signature}
    (h : o.signatureWith (derivedParams v a b) t = .ok s) :
    o.valueToken t o.ret = .ok s.ret ∧
      s.params = List.zipWith Param.mk [a, b] (v.operandTypes t) := by
  rw [signatureWith_derivedParams, map_eq_ok_iff] at h
  obtain ⟨ret, hret, rfl⟩ := h
  exact ⟨hret, rfl⟩

end Operation

/-! ## Calls of the declared function -/

/-- What is passed on for a parameter: a scalar is spread over a vector of type `t`. -/
def Param.argument (p : Param) (t : ShapedType) : String :=
  if p.type = t.element.token then t.splatName ++ "(" ++ p.name ++ ")" else p.name

/-- The type of what is passed on. -/
def Param.argumentType (p : Param) (t : ShapedType) : String :=
  if p.type = t.element.token then t.token else p.type

/-- **Calls of the declared function.**  A function of vectors of type `t` has the operands and the
result of another one, except that the operand which its variant says is a scalar.  It returns what
the other function returns for the same operands in the same order, with the scalar spread over a
vector by the macro that builds one, so that each argument has the type that is declared for it. -/
structure FunctionSymbol.Wraps (f base : FunctionSymbol) (t : ShapedType) : Prop where
  ret : f.signature.ret = base.signature.ret
  names : f.signature.params.map (·.name) = base.signature.params.map (·.name)
  types : f.signature.params.map (·.type) = f.key.variant.operandTypes t
  apart : t.element.token ≠ t.token
  body : f.body = "return " ++ base.name ++ "(" ++
    ", ".intercalate (f.signature.params.map (·.argument t)) ++ ");"
  typed : f.signature.params.map (·.argumentType t) = base.signature.params.map (·.type)
  spread : ∃ w, t.shape = .vector w ∧ splatConstructor t.element w =
    .function t.splatName ["_s"] (compoundLiteral t.token (w.components.map fun c => (c, "(_s)")))

namespace Operation

variable {o : Operation} {t : ShapedType}

/-- A scalar is spread by a macro that sets all components of a vector to it. -/
lemma exists_splatConstructor_eq (h : t.shape.isVector = true) :
    ∃ w, t.shape = .vector w ∧ splatConstructor t.element w =
      .function t.splatName ["_s"]
        (compoundLiteral t.token (w.components.map fun c => (c, "(_s)"))) := by
  obtain ⟨element, shape⟩ := t
  cases shape with
  | vector w => exact ⟨w, rfl, rfl⟩
  | scalar | matrix => cases h

/-- **A derived function calls the declared one.** -/
lemma derived_wraps {a b : String} {v : Variant} {base f : FunctionSymbol}
    (hvector : t.shape.isVector = true) (hv : v ≠ .base)
    (hname : base.name = (SymbolKey.mk o.name t .base).name)
    (hbase : o.signatureWith (derivedParams .base a b) t = .ok base.signature)
    (h : o.derived t a b v = .ok f) : f.Wraps base t := by
  obtain ⟨s, hs, h⟩ := bind_eq_ok_iff.1 h
  cases h
  obtain ⟨hret, hparams⟩ := signatureWith_derivedParams_eq_ok hs
  obtain ⟨hret', hparams'⟩ := signatureWith_derivedParams_eq_ok hbase
  have hsame : s.ret = base.signature.ret := Except.ok.inj (hret.symm.trans hret')
  have hapart := ShapedType.token_element_ne hvector
  have hspread := exists_splatConstructor_eq hvector
  cases v with
  | base => exact absurd rfl hv
  | vectorScalar | scalarVector =>
      refine ⟨hsame, ?names, ?types, hapart, ?body, ?typed, hspread⟩
      case names => simp [hparams, hparams', Variant.operandTypes]
      case types => simp [hparams, Variant.operandTypes]
      case body =>
        simp [hparams, hname, Variant.operandTypes, Param.argument, derivedBody, hapart.symm,
          String.append_assoc]
      case typed =>
        simp [hparams, hparams', Variant.operandTypes, Param.argumentType]

/-! ## Names -/

/-- **Names of the functions for one type.**  They are different, unless both mixed variants are
there and the operation is spelled with `s` only. -/
lemma nodup_map_name_iff (o : Operation) (t : ShapedType) :
    ((Variant.base :: o.variants t.shape).map fun v => (SymbolKey.mk o.name t v).name).Nodup ↔
      ¬(.scalarVector ∈ o.variants t.shape ∧ ∀ c ∈ o.name.toList, c = 's') := by
  rw [List.nodup_map_iff_inj_on (o.nodup_variants t.shape)]
  constructor
  · rintro hinj ⟨hscalar, hs⟩
    have hvector : .vectorScalar ∈ o.variants t.shape :=
      mem_variants_iff.2 ⟨(mem_variants_iff.1 hscalar).1, .inl rfl⟩
    have hname : (SymbolKey.mk o.name t .vectorScalar).name =
        (SymbolKey.mk o.name t .scalarVector).name :=
      SymbolKey.name_eq_iff.2 ⟨rfl, (Variant.decorate_vectorScalar_eq_iff _).2 hs⟩
    exact absurd (hinj _ (List.mem_cons_of_mem _ hvector) _ (List.mem_cons_of_mem _ hscalar) hname)
      (by decide)
  · intro hnot v hv w hw hname
    by_contra hne
    obtain ⟨hmixed, hs⟩ :=
      (Variant.decorate_eq_iff hne o.name).1 (SymbolKey.name_eq_iff.1 hname).2
    refine hnot ⟨?_, hs⟩
    rcases hmixed with ⟨-, rfl⟩ | ⟨rfl, -⟩
    · simpa using hw
    · simpa using hv

/-! ## The functions for one type -/

/-- **The functions for one type.**  An operation that gives functions gives the declared one and
then those of its derived variants, each named after its key.

* There are derived variants exactly if the type is a vector, both operands have that type, and the
  rule asks for them; one with the scalar in front needs the rule for both orders.
* A derived function is a well-typed call of the declared one, with the operands in their order and
  the scalar spread over a vector.
* The names are different, unless there is a function with the scalar in front and the operation is
  spelled with `s` only. -/
theorem instantiate_wraps {fs : List FunctionSymbol} (h : o.instantiate t = .ok fs) :
    ∃ base derived, fs = base :: derived ∧ base.IsDeclared o t ∧
      derived.map (·.key) = (o.variants t.shape).map (⟨o.name, t, ·⟩) ∧
      (∀ f ∈ fs, f.name = f.key.name) ∧
      (o.variants t.shape ≠ [] ↔ o.Broadcasts t.shape) ∧
      (.scalarVector ∈ o.variants t.shape ↔ o.Broadcasts t.shape ∧ o.broadcast = .both) ∧
      (∀ f ∈ derived, f.Wraps base t) ∧
      ((fs.map (·.name)).Nodup ↔
        ¬(.scalarVector ∈ o.variants t.shape ∧ ∀ c ∈ o.name.toList, c = 's')) := by
  have hkeys := map_key_of_instantiate h
  have hnames : ∀ f ∈ fs, f.name = f.key.name := fun f hf => (fits_of_instantiate h hf).name
  have hmap : fs.map (·.name) =
      (Variant.base :: o.variants t.shape).map fun v => (SymbolKey.mk o.name t v).name := by
    have hmapped := congrArg (List.map SymbolKey.name) hkeys
    rw [List.map_map, List.map_map] at hmapped
    exact (List.map_congr_left hnames).trans hmapped
  obtain ⟨base, derived, rfl, hbase, hderived⟩ := instantiate_eq_ok h
  refine ⟨base, derived, rfl, hbase, (List.cons.inj hkeys).2, hnames, variants_ne_nil_iff,
    by simp [mem_variants_iff], fun f hf => ?_, by rw [hmap, nodup_map_name_iff]⟩
  obtain ⟨v, hv, a, va, b, vb, hparams, hf⟩ := exists_of_forall₂_of_mem hderived hf
  obtain ⟨⟨hvector, ⟨a', b', hoperands⟩, -⟩, -⟩ := mem_variants_iff.1 hv
  have hsignature := hbase.signature
  rw [hoperands] at hparams
  cases hparams
  rw [signature, hoperands] at hsignature
  refine derived_wraps hvector ?_ (by rw [hbase.name, hbase.key]) hsignature hf
  exact fun heq => o.base_notMem_variants t.shape (heq ▸ hv)

/-- Subtraction of vectors, which needs both orders. -/
def difference : Operation where
  name := "sub"
  category := .arithmetic
  shapes := .vector
  types := .numeric
  params := [("a", .operand), ("b", .operand)]
  ret := .operand
  bodies := [(.numeric, ⟨"sub", [.text "return ".toList,
    .mark (.expand .vector [] [.text "a.".toList, .mark .component, .text " - b.".toList,
      .mark .component]), .text ";".toList]⟩)]
  broadcast := .both

/-- A scalar on either side of a subtraction stays there. -/
theorem instantiate_wraps_difference :
    ∃ fs, difference.instantiate ⟨.f32, .vector .two⟩ = .ok fs ∧
      fs.map (·.body) = ["return rm_f32x2(a.x - b.x, a.y - b.y);",
        "return rm_sub_f32x2(a, rm_f32x2s(b));", "return rm_sub_f32x2(rm_f32x2s(a), b);"] ∧
      (∃ base derived, fs = base :: derived ∧ ∀ f ∈ derived, f.Wraps base ⟨.f32, .vector .two⟩) ∧
      (fs.map (·.name)).Nodup := by
  obtain ⟨fs, h⟩ : ∃ fs, difference.instantiate ⟨.f32, .vector .two⟩ = .ok fs := ⟨_, rfl⟩
  obtain ⟨base, derived, hfs, -, -, -, -, -, hwraps, hnames⟩ := instantiate_wraps h
  have hmarked : ¬∀ c ∈ difference.name.toList, c = 's' :=
    fun hs => absurd (hs 'u' (by decide)) (by decide)
  refine ⟨fs, h, ?_, ⟨base, derived, hfs, hwraps⟩, hnames.2 fun hmixed => hmarked hmixed.2⟩
  cases h
  decide

end Operation

end MathHeader
