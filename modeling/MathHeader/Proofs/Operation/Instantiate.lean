import MathHeader.Catalog.Basic
import MathHeader.Proofs.Template.Fits

/-!
# The functions of an operation

What `Operation.instantiate` gives for a type is known without looking at templates.  The keys of
the functions are the declared one and the derived ones of the shape, each function has the name of
its key, and its result and its parameters have types of values: `instantiate_spec`.  Whether it
gives functions at all is decided by `Operation.fits`, which looks at the marks of the body and the
declared types only.

An operation that gives no functions fails for the first cause there is, and `Operation.Fails` lists
them in their order: there is no body for the elements, the body cannot be filled in, a parameter
has no type, the result has none.  The derived functions are not among them, since their operands
have types wherever there is a result.
-/

namespace MathHeader

/-! ## Functions of an operation -/

/-- A text that is the token of a type which a value can have for operands of type `t`. -/
def IsValueToken (t : ShapedType) (token : String) : Prop :=
  ∃ (v : ValueType) (r : ShapedType), v.type? t = some r ∧ token = r.token

/-- **A function of an operation for a type.**  It is named after its key, its types are types of
values for that type, and its parameters are named as the operation names them. -/
structure FunctionSymbol.Fits (f : FunctionSymbol) (o : Operation) (t : ShapedType) : Prop where
  op : f.key.op = o.name
  type : f.key.type = t
  name : f.name = f.key.name
  ret : IsValueToken t f.signature.ret
  params : ∀ p ∈ f.signature.params, p.name ∈ o.params.map (·.1) ∧ IsValueToken t p.type

/-- **The declared function of an operation for a type.**  It has the declared signature, and its
body is the one for the elements, filled in. -/
structure FunctionSymbol.IsDeclared (f : FunctionSymbol) (o : Operation) (t : ShapedType) :
    Prop where
  key : f.key = ⟨o.name, t, .base⟩
  name : f.name = f.key.name
  signature : o.signature t = .ok f.signature
  body : ∃ template, o.bodyFor t.element = .ok template ∧ template.render t = .ok f.body

/-- A description has a token where it has a type. -/
lemma ValueType.isSome_token? (v : ValueType) (t : ShapedType) :
    (v.token? t).isSome = (v.type? t).isSome :=
  Option.isSome_map

namespace Operation

variable {o : Operation} {t : ShapedType}

lemma valueToken_eq_ok {v : ValueType} {token : String} (h : o.valueToken t v = .ok token) :
    IsValueToken t token := by
  unfold valueToken ValueType.token? at h
  cases hr : v.type? t with
  | none => simp [hr] at h
  | some r =>
      rw [hr] at h
      cases h
      exact ⟨v, r, hr, rfl⟩

lemma signatureWith_eq_ok {params : List (String × ValueType)} {s : Signature}
    (h : o.signatureWith params t = .ok s) :
    IsValueToken t s.ret ∧
      ∀ p ∈ s.params, p.name ∈ params.map (·.1) ∧ IsValueToken t p.type := by
  obtain ⟨ps, hps, h⟩ := bind_eq_ok_iff.1 h
  obtain ⟨ret, hret, h⟩ := bind_eq_ok_iff.1 h
  cases h
  refine ⟨valueToken_eq_ok hret, fun p hp => ?_⟩
  obtain ⟨⟨name, v⟩, hmem, hparam⟩ := exists_of_forall₂_of_mem (mapM_eq_ok_iff.1 hps) hp
  obtain ⟨token, htoken, h⟩ := bind_eq_ok_iff.1 hparam
  cases h
  exact ⟨List.mem_map_of_mem hmem, valueToken_eq_ok htoken⟩

lemma fits_of_isDeclared {f : FunctionSymbol} (h : f.IsDeclared o t) : f.Fits o t := by
  obtain ⟨hret, hparams⟩ := signatureWith_eq_ok h.signature
  have hkey := h.key
  exact ⟨by rw [hkey], by rw [hkey], h.name, hret, hparams⟩

/-- The operands of a derived function keep their names. -/
lemma map_fst_derivedParams (v : Variant) (a b : String) :
    (derivedParams v a b).map (·.1) = [a, b] := by
  cases v <;> rfl

lemma derived_eq_ok {a b : String} {v : Variant} {f : FunctionSymbol}
    (hparams : o.params.map (·.1) = [a, b]) (h : o.derived t a b v = .ok f) :
    f.key = ⟨o.name, t, v⟩ ∧ f.Fits o t := by
  obtain ⟨s, hs, h⟩ := bind_eq_ok_iff.1 h
  cases h
  obtain ⟨hret, hps⟩ := signatureWith_eq_ok hs
  rw [map_fst_derivedParams, ← hparams] at hps
  exact ⟨rfl, rfl, rfl, rfl, hret, hps⟩

/-- Only a binary operation has derived functions. -/
lemma variants_eq_nil {shape : Shape} (h : o.params.length ≠ 2) : o.variants shape = [] := by
  have hbinary : o.isBinaryElementwise = false := by simp [isBinaryElementwise, h]
  rw [variants, hbinary, Bool.and_false]
  exact if_neg Bool.false_ne_true

/-- The declared function is not a derived one. -/
lemma base_notMem_variants (o : Operation) (shape : Shape) : .base ∉ o.variants shape := by
  unfold variants
  split
  · cases o.broadcast <;> decide
  · exact List.not_mem_nil

/-! ## Keys and types -/

/-- **What an operation gives.**  It gives its declared function and then, in their order, the
derived ones of the shape, which are there only if it has two operands. -/
lemma instantiate_eq_ok {fs : List FunctionSymbol} (h : o.instantiate t = .ok fs) :
    ∃ base derived, fs = base :: derived ∧ base.IsDeclared o t ∧
      List.Forall₂ (fun v f => ∃ a va b vb, o.params = [(a, va), (b, vb)] ∧
        o.derived t a b v = .ok f) (o.variants t.shape) derived := by
  obtain ⟨template, htemplate, h⟩ := bind_eq_ok_iff.1 h
  obtain ⟨body, hbody, h⟩ := bind_eq_ok_iff.1 h
  obtain ⟨s, hs, h⟩ := bind_eq_ok_iff.1 h
  split at h
  case h_1 a va b vb hparams =>
    obtain ⟨derived, hderived, h⟩ := bind_eq_ok_iff.1 h
    cases h
    refine ⟨_, derived, rfl, ⟨rfl, rfl, hs, template, htemplate, hbody⟩, ?_⟩
    exact (mapM_eq_ok_iff.1 hderived).imp fun v f hf => ⟨a, va, b, vb, hparams, hf⟩
  case h_2 hparams =>
    cases h
    have hlength : o.params.length ≠ 2 := by
      intro hlength
      obtain ⟨⟨a, va⟩, ⟨b, vb⟩, hab⟩ := List.length_eq_two.1 hlength
      exact hparams a va b vb hab
    rw [variants_eq_nil hlength]
    exact ⟨_, [], rfl, ⟨rfl, rfl, hs, template, htemplate, hbody⟩, .nil⟩

/-- **Functions of an operation.**  An operation that can be instantiated gives its declared
function and then the derived ones of the shape, and each of them fits. -/
theorem instantiate_spec {fs : List FunctionSymbol} (h : o.instantiate t = .ok fs) :
    List.Forall₂ (fun v f => f.key = ⟨o.name, t, v⟩ ∧ f.Fits o t)
      (.base :: o.variants t.shape) fs := by
  obtain ⟨base, derived, rfl, hbase, hderived⟩ := instantiate_eq_ok h
  refine .cons ⟨hbase.key, fits_of_isDeclared hbase⟩ (hderived.imp ?_)
  rintro v f ⟨a, va, b, vb, hparams, hf⟩
  exact derived_eq_ok (by rw [hparams]; rfl) hf

lemma map_key_of_instantiate {fs : List FunctionSymbol} (h : o.instantiate t = .ok fs) :
    fs.map (·.key) = (Variant.base :: o.variants t.shape).map (⟨o.name, t, ·⟩) := by
  rw [← List.forall₂_eq_eq_eq, List.forall₂_map_left_iff, List.forall₂_map_right_iff]
  exact List.Forall₂.flip ((instantiate_spec h).imp fun _ _ hf => hf.1)

lemma fits_of_instantiate {fs : List FunctionSymbol} (h : o.instantiate t = .ok fs)
    {f : FunctionSymbol} (hf : f ∈ fs) : f.Fits o t := by
  obtain ⟨v, -, -, hfits⟩ := exists_of_forall₂_of_mem (instantiate_spec h) hf
  exact hfits

/-! ## When there are functions -/

/-- Whether an operation has a body for the elements of a type, and the type has what the body and
the declared types ask for. -/
def fits (o : Operation) (t : ShapedType) : Bool :=
  (match o.bodies.find? fun (types, _) => types.contains t.element with
    | some (_, template) => template.fits t
    | none => false) &&
  (o.ret :: o.params.map (·.2)).all fun v => (v.type? t).isSome

lemma exists_valueToken_eq_ok_iff {v : ValueType} :
    (∃ token, o.valueToken t v = .ok token) ↔ (v.type? t).isSome = true := by
  unfold valueToken ValueType.token?
  cases v.type? t <;> simp

lemma exists_signatureWith_eq_ok_iff {params : List (String × ValueType)} :
    (∃ s, o.signatureWith params t = .ok s) ↔
      (o.ret.type? t).isSome = true ∧ ∀ v ∈ params.map (·.2), (v.type? t).isSome = true := by
  have hparam (d : String × ValueType) :
      (∃ p : Param, (do pure ⟨d.1, ← o.valueToken t d.2⟩ : Except GenError Param) = .ok p) ↔
        (d.2.type? t).isSome = true := by
    rw [exists_bind_pure_eq_ok_iff, exists_valueToken_eq_ok_iff]
  rw [List.forall_mem_map, ← exists_valueToken_eq_ok_iff (o := o),
    ← forall₂_congr fun d _ => hparam d, ← exists_mapM_eq_ok_iff]
  unfold signatureWith
  rw [exists_bind_eq_ok_iff]
  simp only [exists_bind_eq_ok_iff]
  constructor
  · rintro ⟨ps, hps, token, htoken, -⟩
    exact ⟨⟨token, htoken⟩, ps, hps⟩
  · rintro ⟨⟨token, htoken⟩, ps, hps⟩
    exact ⟨ps, hps, token, htoken, _, rfl⟩

/-- The operands of a derived function have types whatever the operation is. -/
lemma exists_derived_eq_ok {a b : String} {v : Variant} (hret : (o.ret.type? t).isSome = true) :
    ∃ f, o.derived t a b v = .ok f := by
  have hparams : ∀ u ∈ (derivedParams v a b).map (·.2), (u.type? t).isSome = true := by
    cases v <;> simp [derivedParams, ValueType.type?]
  obtain ⟨s, hs⟩ := exists_signatureWith_eq_ok_iff.2 ⟨hret, hparams⟩
  exact ⟨_, bind_eq_ok_iff.2 ⟨s, hs, rfl⟩⟩

/-- There are functions as soon as there is a declared one. -/
lemma exists_instantiate_iff :
    (∃ fs, o.instantiate t = .ok fs) ↔
      (∃ template, o.bodyFor t.element = .ok template ∧ ∃ body, template.render t = .ok body) ∧
        ∃ s, o.signature t = .ok s := by
  constructor
  · rintro ⟨fs, h⟩
    obtain ⟨base, -, -, hbase, -⟩ := instantiate_eq_ok h
    obtain ⟨template, htemplate, hbody⟩ := hbase.body
    exact ⟨⟨template, htemplate, _, hbody⟩, _, hbase.signature⟩
  · rintro ⟨⟨template, htemplate, body, hbody⟩, s, hs⟩
    have hret := (exists_signatureWith_eq_ok_iff.1 ⟨s, hs⟩).1
    rw [instantiate]
    simp only [exists_bind_eq_ok_iff]
    refine ⟨template, htemplate, body, hbody, s, hs, ?_⟩
    split
    · obtain ⟨fs, hfs⟩ := exists_mapM_eq_ok_iff.2 fun v _ => exists_derived_eq_ok hret
      exact ⟨_, bind_eq_ok_iff.2 ⟨fs, hfs, rfl⟩⟩
    · exact ⟨_, rfl⟩

/-- **When there are functions.**  An operation can be instantiated exactly if it fits. -/
theorem exists_instantiate_eq_ok_iff :
    (∃ fs, o.instantiate t = .ok fs) ↔ o.fits t = true := by
  have hbody : (∃ template, o.bodyFor t.element = .ok template ∧ template.fits t = true) ↔
      (match o.bodies.find? fun (types, _) => types.contains t.element with
        | some (_, template) => template.fits t
        | none => false) = true := by
    unfold bodyFor
    cases o.bodies.find? fun (types, _) => types.contains t.element <;> simp
  have hsignature : (∃ s, o.signature t = .ok s) ↔
      ((o.ret :: o.params.map (·.2)).all fun v => (v.type? t).isSome) = true := by
    rw [signature, exists_signatureWith_eq_ok_iff, List.all_cons, Bool.and_eq_true,
      List.all_eq_true]
  rw [exists_instantiate_iff, fits, Bool.and_eq_true, ← hbody, ← hsignature]
  simp only [Template.exists_render_eq_ok_iff]

/-! ## Why there are none -/

/-- **The body for some elements.**  It is the first one whose class contains them. -/
def HasBody (o : Operation) (element : Scalar) (template : Template) : Prop :=
  ∃ front types back, o.bodies = front ++ (types, template) :: back ∧
    types.contains element = true ∧ ∀ body ∈ front, body.1.contains element = false

/-- **Why an operation gives no functions.**  The causes for a type, in their order; each of them
implies that those before it do not apply. -/
inductive Fails (o : Operation) (t : ShapedType) : GenError → Prop
  /-- No class of a body contains the elements. -/
  | noBody (h : ∀ body ∈ o.bodies, body.1.contains t.element = false) :
    Fails o t (.missingBody o.name t.element)
  /-- The body cannot be filled in. -/
  | body {template : Template} {e : GenError} (hbody : o.HasBody t.element template)
    (h : template.render t = .error e) : Fails o t e
  /-- A parameter has no type, and all before it have one. -/
  | param {template : Template} {body name : String} {v : ValueType}
    {front back : List (String × ValueType)} (hbody : o.HasBody t.element template)
    (hrender : template.render t = .ok body) (hparams : o.params = front ++ (name, v) :: back)
    (hfront : ∀ p ∈ front, (p.2.token? t).isSome = true) (h : v.token? t = none) :
    Fails o t (.unresolved (.value v) o.name t)
  /-- The result has no type, and all parameters have one. -/
  | ret {template : Template} {body : String} (hbody : o.HasBody t.element template)
    (hrender : template.render t = .ok body)
    (hparams : ∀ p ∈ o.params, (p.2.token? t).isSome = true) (h : o.ret.token? t = none) :
    Fails o t (.unresolved (.value o.ret) o.name t)

lemma bodyFor_eq_ok_iff {element : Scalar} {template : Template} :
    o.bodyFor element = .ok template ↔ o.HasBody element template := by
  have hfind : o.bodyFor element = .ok template ↔
      ∃ types, o.bodies.find? (fun (types, _) => types.contains element) =
        some (types, template) := by
    unfold bodyFor
    cases o.bodies.find? fun (types, _) => types.contains element with
    | none => simp
    | some body => simp [Prod.ext_iff]
  rw [hfind]
  simp only [List.find?_eq_some_iff_append, HasBody, Bool.not_eq_true']
  constructor
  · rintro ⟨types, hcontains, front, back, hbodies, hfront⟩
    exact ⟨front, types, back, hbodies, hcontains, hfront⟩
  · rintro ⟨front, types, back, hbodies, hcontains, hfront⟩
    exact ⟨types, hcontains, front, back, hbodies, hfront⟩

lemma bodyFor_eq_error_iff {element : Scalar} {e : GenError} :
    o.bodyFor element = .error e ↔
      (∀ body ∈ o.bodies, body.1.contains element = false) ∧ e = .missingBody o.name element := by
  have hnone : (∀ body ∈ o.bodies, body.1.contains element = false) ↔
      o.bodies.find? (fun (types, _) => types.contains element) = none := by
    simp
  rw [hnone]
  unfold bodyFor
  cases o.bodies.find? fun (types, _) => types.contains element <;> simp [eq_comm]

lemma valueToken_eq_error_iff {v : ValueType} {e : GenError} :
    o.valueToken t v = .error e ↔ v.token? t = none ∧ e = .unresolved (.value v) o.name t := by
  unfold valueToken
  cases v.token? t <;> simp [eq_comm]

/-- A signature fails for the first parameter without a type, or else for the result. -/
lemma signature_eq_error_iff {e : GenError} :
    o.signature t = .error e ↔
      (∃ front name v back, o.params = front ++ (name, v) :: back ∧
        (∀ p ∈ front, (p.2.token? t).isSome = true) ∧ v.token? t = none ∧
          e = .unresolved (.value v) o.name t) ∨
      (∀ p ∈ o.params, (p.2.token? t).isSome = true) ∧ o.ret.token? t = none ∧
        e = .unresolved (.value o.ret) o.name t := by
  have hstep (d : String × ValueType) :
      (do pure ⟨d.1, ← o.valueToken t d.2⟩ : Except GenError Param) = .error e ↔
        d.2.token? t = none ∧ e = .unresolved (.value d.2) o.name t := by
    rw [bind_pure_eq_error_iff, valueToken_eq_error_iff]
  have hparam (d : String × ValueType) :
      (∃ p : Param, (do pure ⟨d.1, ← o.valueToken t d.2⟩ : Except GenError Param) = .ok p) ↔
        (d.2.token? t).isSome = true := by
    rw [exists_bind_pure_eq_ok_iff, exists_valueToken_eq_ok_iff, ValueType.isSome_token?]
  rw [signature, signatureWith, bind_eq_error_iff]
  refine or_congr ?_ ?_
  · rw [mapM_eq_error_iff]
    constructor
    · rintro ⟨front, ⟨name, v⟩, back, hparams, hfront, h⟩
      obtain ⟨hv, he⟩ := (hstep (name, v)).1 h
      exact ⟨front, name, v, back, hparams, fun p hp => (hparam p).1 (hfront p hp), hv, he⟩
    · rintro ⟨front, name, v, back, hparams, hfront, hv, he⟩
      exact ⟨front, (name, v), back, hparams, fun p hp => (hparam p).2 (hfront p hp),
        (hstep (name, v)).2 ⟨hv, he⟩⟩
  · have hret (ps : List Param) :
        (do pure (⟨← o.valueToken t o.ret, ps⟩ : Signature) : Except GenError Signature) =
          .error e ↔ o.ret.token? t = none ∧ e = .unresolved (.value o.ret) o.name t := by
      rw [bind_pure_eq_error_iff, valueToken_eq_error_iff]
    constructor
    · rintro ⟨ps, hps, h⟩
      have hall := exists_mapM_eq_ok_iff.1 ⟨ps, hps⟩
      exact ⟨fun p hp => (hparam p).1 (hall p hp), (hret ps).1 h⟩
    · rintro ⟨hall, h⟩
      obtain ⟨ps, hps⟩ := exists_mapM_eq_ok_iff.2 fun p hp => (hparam p).2 (hall p hp)
      exact ⟨ps, hps, (hret ps).2 h⟩

/-- **Why there are none.**  An operation that cannot be instantiated fails for the first cause. -/
theorem instantiate_eq_error_iff {e : GenError} :
    o.instantiate t = .error e ↔ o.Fails t e := by
  constructor
  · intro h
    rcases bind_eq_error_iff.1 h with hbody | ⟨template, hbody, h'⟩
    · obtain ⟨hnone, rfl⟩ := bodyFor_eq_error_iff.1 hbody
      exact .noBody hnone
    have htemplate := bodyFor_eq_ok_iff.1 hbody
    rcases bind_eq_error_iff.1 h' with hrender | ⟨body, hrender, h'⟩
    · exact .body htemplate hrender
    rcases bind_eq_error_iff.1 h' with hs | ⟨s, hs, -⟩
    · rcases signature_eq_error_iff.1 hs with ⟨front, name, v, back, hparams, hfront, hv, rfl⟩ |
        ⟨hparams, hret, rfl⟩
      · exact .param htemplate hrender hparams hfront hv
      · exact .ret htemplate hrender hparams hret
    · -- With a declared function there are all functions, so nothing has failed.
      obtain ⟨fs, hfs⟩ := exists_instantiate_iff.2 ⟨⟨_, hbody, _, hrender⟩, s, hs⟩
      rw [hfs] at h
      cases h
  · have hsignature {template : Template} {body : String} (hbody : o.HasBody t.element template)
        (hrender : template.render t = .ok body) (h : o.signature t = .error e) :
        o.instantiate t = .error e :=
      bind_eq_error_iff.2 (.inr ⟨template, bodyFor_eq_ok_iff.2 hbody,
        bind_eq_error_iff.2 (.inr ⟨body, hrender, bind_eq_error_iff.2 (.inl h)⟩)⟩)
    intro h
    cases h with
    | noBody h => exact bind_eq_error_iff.2 (.inl (bodyFor_eq_error_iff.2 ⟨h, rfl⟩))
    | body hbody h =>
        exact bind_eq_error_iff.2 (.inr ⟨_, bodyFor_eq_ok_iff.2 hbody,
          bind_eq_error_iff.2 (.inl h)⟩)
    | param hbody hrender hparams hfront h =>
        exact hsignature hbody hrender
          (signature_eq_error_iff.2 (.inl ⟨_, _, _, _, hparams, hfront, h, rfl⟩))
    | ret hbody hrender hparams h =>
        exact hsignature hbody hrender (signature_eq_error_iff.2 (.inr ⟨hparams, h, rfl⟩))

/-- An operation that cannot be instantiated lacks a body for the elements of the type, or something
that its declaration or its body asks of the type. -/
theorem instantiate_eq_error {e : GenError} (h : o.instantiate t = .error e) :
    e = .missingBody o.name t.element ∨ ∃ what op, e = .unresolved what op t := by
  cases instantiate_eq_error_iff.1 h with
  | noBody => exact .inl rfl
  | body _ h =>
      unfold Template.render at h
      split at h
      next => cases h
      next => cases h; exact .inr ⟨_, _, rfl⟩
  | param => exact .inr ⟨_, _, rfl⟩
  | ret => exact .inr ⟨_, _, rfl⟩

end Operation

/-! ## Functions of a catalog -/

/-- The functions that a catalog has for a taxonomy: for each category, type and operation the
declared function and the derived ones. -/
def functionKeys (catalog : Catalog) (t : Taxonomy) : List SymbolKey :=
  Category.all.flatMap fun k => t.combinations.flatMap fun ty =>
    (catalog.operationsFor k ty).flatMap fun o =>
      (.base :: o.variants ty.shape).map (⟨o.name, ty, ·⟩)

end MathHeader
