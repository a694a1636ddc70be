import MathHeader.Proofs.Catalog.DefinitionOrder
import MathHeader.Proofs.Storage.Reading

/-!
# Declared types

C wants a type to be declared before it is used, and a structure to be complete before it can be a
member of another one.  A header names types in two places.  The results and parameters of its
functions have types relative to the operands: these need not belong to the choice of types, as a
comparison gives vectors of truth values whatever it compares.  And the structures have members:
smaller vectors inside of vectors, and columns inside of matrices.

A type of a value is a scalar or it is declared (`isDeclared_of_isValueToken`).  A member has the
elements of its structure, and it is a scalar or has a shape that *precedes* that of the structure:
a smaller vector, or any vector if the structure is a matrix (`exists_shape_of_mem_declarations`).
In the order of the declared types none stands behind a type that it precedes (`pairwise_declared`),
and all vectors of an element type are declared together.  So what a structure is made of stands
before it: `mem_front_of_precedes`.  `declaresTypes_standard` says both of the standard catalog.
-/

namespace MathHeader

open Storage

/-! ## The properties -/

/-- A type that needs no structure: truth values and numbers. -/
def IsScalarType (type : String) : Prop :=
  type = "bool" ∨ ∃ s : Scalar, s.isNumeric = true ∧ type = s.token

/-- **Declaration before use.**  Each member of a structure has a scalar type, or the type that is
the name of a structure before it. -/
def DeclaredBeforeUse (typedefs : List (String × String)) (records : List RecordDeclaration) :
    Prop :=
  ∀ before record after, records = before ++ record :: after → ∀ d ∈ record.2,
    IsScalarType d.1 ∨ ∃ tag ∈ before.map (·.1), (tag, d.1) ∈ typedefs

/-- **The types of a taxonomy.**  Each declared type is the name of a structure and has its
structure, neither of them twice, and the structures are declared before use. -/
structure DeclaresTypes (t : Taxonomy) (typedefs : List (String × String))
    (records : List RecordDeclaration) : Prop where
  typedefs_eq : typedefs = t.declared.map fun ty => (recordTag ty, ty.token)
  records_eq : records = t.declared.map fun ty => (recordTag ty, recordDeclarations ty)
  nodup_tags : (records.map (·.1)).Nodup
  nodup_names : (typedefs.map (·.2)).Nodup
  before : DeclaredBeforeUse typedefs records

lemma isScalarType_token (s : Scalar) : IsScalarType (ShapedType.token ⟨s, .scalar⟩) := by
  rw [ShapedType.token_scalar]
  by_cases h : s.isNumeric = true
  · exact .inr ⟨s, h, rfl⟩
  · cases s with
    | bool => exact .inl rfl
    | _ => exact absurd rfl h

section

variable {t : Taxonomy} {ty : ShapedType}

/-! ## Types of functions -/

lemma ofWidth_mem_declared {s : Scalar} (h : s ∈ t.vectorElements) (w : Width) :
    .ofWidth s w ∈ t.declared :=
  Taxonomy.mem_declared.2 (.inl ⟨s, h, w, rfl⟩)

lemma mem_declared_of_mem_combinations (h : ty ∈ t.combinations) (hshape : ty.shape ≠ .scalar) :
    ty ∈ t.declared := by
  obtain ⟨s, shape⟩ := ty
  cases shape with
  | scalar => exact absurd rfl hshape
  | vector w => exact ofWidth_mem_declared (mem_vectorElements h (.inl rfl)) w
  | matrix rows cols => exact Taxonomy.mem_declared.2 (.inr ⟨h, rfl⟩)

/-- **Types of values.**  For operands of a type of the taxonomy a value has a scalar type or a
declared one. -/
theorem isDeclared_of_isValueToken (h : ty ∈ t.combinations) {token : String}
    (htoken : IsValueToken ty token) :
    IsScalarType token ∨ ∃ r ∈ t.declared, token = r.token := by
  obtain ⟨v, r, hr, rfl⟩ := htoken
  have hshape (shape : Shape) : IsScalarType (ShapedType.mk ty.element shape).token ∨
      ∃ r ∈ t.declared, (ShapedType.mk ty.element shape).token = r.token := by
    by_cases hscalar : shape = .scalar
    · exact .inl (hscalar ▸ isScalarType_token ty.element)
    · exact .inr ⟨_, mem_declared_of_mem_combinations (mem_combinations_of_element h shape) hscalar,
        rfl⟩
  cases v with
  | operand =>
      cases hr
      exact hshape ty.shape
  | element =>
      cases hr
      exact .inl (isScalarType_token ty.element)
  | bool =>
      cases hr
      exact .inl (isScalarType_token .bool)
  | boolVector =>
      obtain ⟨w, -, rfl⟩ := Option.map_eq_some_iff.1 hr
      exact .inr ⟨_, ofWidth_mem_declared (mem_vectorElements h (.inr rfl)) w, rfl⟩
  | row | column | transposed =>
      obtain ⟨shape, -, rfl⟩ := Option.map_eq_some_iff.1 hr
      exact hshape shape

lemma isDeclared_of_mem_functionsOf {catalog : Catalog} {k : Category} {f : FunctionSymbol}
    (h : f ∈ functionsOf catalog t k) :
    ∀ type ∈ f.signature.ret :: f.signature.params.map (·.type),
      IsScalarType type ∨ ∃ r ∈ t.declared, type = r.token := by
  obtain ⟨o, -, ty, hty, hfits⟩ := fits_of_mem_functionsOf h
  rw [List.forall_mem_cons, List.forall_mem_map]
  exact ⟨isDeclared_of_isValueToken hty hfits.ret,
    fun p hp => isDeclared_of_isValueToken hty (hfits.params p hp).2⟩

/-! ## Types of members -/

/-- The vectors that a structure of the second shape may have as members. -/
def Shape.Precedes : Shape → Shape → Prop
  | .vector w, .vector w' => w.toNat < w'.toNat
  | .vector _, .matrix _ _ => True
  | _, _ => False

lemma Shape.Precedes.exists_eq_vector {shape shape' : Shape} (h : shape.Precedes shape') :
    ∃ w, shape = .vector w := by
  cases shape with
  | vector w => exact ⟨w, rfl⟩
  | scalar => exact h.elim
  | matrix rows cols => exact h.elim

lemma Shape.not_precedes_self (shape : Shape) : ¬ shape.Precedes shape := by
  cases shape with
  | vector w => exact lt_irrefl w.toNat
  | scalar => exact not_false
  | matrix rows cols => exact not_false

/-- A member of a vector covers fewer components than the vector has. -/
lemma type_of_mem_members (element : Scalar) {w : Width} {group : List Member}
    (hgroup : group ∈ members w) {m : Member} (hm : m ∈ group) :
    ∃ shape, m.type element = ⟨element, shape⟩ ∧
      (shape = .scalar ∨ shape.Precedes (.vector w)) := by
  have hcomponents : ∀ w ∈ Width.all, ∀ group ∈ members w, ∀ m ∈ group,
      m.components < w.toNat := by
    decide
  have hless := hcomponents w w.mem_all group hgroup m hm
  unfold Member.type
  split
  next w' hw' =>
    rw [Width.ofNat?_eq_some_iff.1 hw'] at hless
    exact ⟨.vector w', rfl, .inr hless⟩
  next => exact ⟨_, rfl, .inl rfl⟩

/-- **Types of members.**  A structure declares members with its own elements, which are scalars or
precede it. -/
theorem exists_shape_of_mem_declarations {d : MemberDeclaration}
    (hd : d ∈ recordDeclarations ty) :
    ∃ shape, d.1 = (ShapedType.mk ty.element shape).token ∧
      (shape = .scalar ∨ shape.Precedes ty.shape) := by
  obtain ⟨s, shape⟩ := ty
  have hscalar : s.token = (ShapedType.mk s .scalar).token := (ShapedType.token_scalar s).symm
  cases shape with
  | scalar => cases hd
  | vector w =>
      rcases List.mem_append.1 hd with hd | hd
      · obtain ⟨group, hgroup, hd⟩ := List.mem_flatMap.1 hd
        obtain ⟨m, hm, htype⟩ := exists_member_of_mem_groupDeclarations hd
        obtain ⟨shape, hshape, hprecedes⟩ := type_of_mem_members s hgroup hm
        exact ⟨shape, htype.trans (congrArg _ hshape), hprecedes⟩
      · cases List.mem_singleton.1 hd
        exact ⟨.scalar, hscalar, .inl rfl⟩
  | matrix rows cols =>
      rcases List.mem_cons.1 hd with rfl | hd
      · exact ⟨.vector rows, rfl, .inr trivial⟩
      · cases List.mem_singleton.1 hd
        exact ⟨.scalar, hscalar, .inl rfl⟩

/-! ## The order of the structures -/

/-- In the order of the declared types none stands behind a type that it precedes. -/
lemma pairwise_declared (t : Taxonomy) :
    t.declared.Pairwise fun ty ty' => ty'.element = ty.element → ¬ ty'.shape.Precedes ty.shape := by
  have hmatrix {ty ty' : ShapedType}
      (h : ty' ∈ t.combinations.filter fun ty => ty.shape.isMatrix) :
      ¬ ty'.shape.Precedes ty.shape := by
    intro hprecedes
    obtain ⟨w, hw⟩ := hprecedes.exists_eq_vector
    have hshape := (List.mem_filter.1 h).2
    rw [hw] at hshape
    exact Bool.false_ne_true hshape
  have hwidths : Width.all.Pairwise fun w w' => ¬ w'.toNat < w.toNat := by decide
  refine List.pairwise_append.2 ⟨List.pairwise_flatMap.2 ⟨fun s _ => ?_, ?_⟩, ?_, ?_⟩
  · refine List.pairwise_map.2 (List.Pairwise.imp ?_ hwidths)
    exact fun hless _ => hless
  · refine (nodup_vectorElements t).imp fun hne ty hty ty' hty' heq => ?_
    obtain ⟨w, -, rfl⟩ := List.mem_map.1 hty
    obtain ⟨w', -, rfl⟩ := List.mem_map.1 hty'
    exact absurd heq.symm hne
  · exact List.pairwise_of_forall_mem_list fun _ _ _ hty' _ => hmatrix hty'
  · exact fun _ _ _ hty' _ => hmatrix hty'

lemma mem_vectorElements_of_mem_declared (h : ty ∈ t.declared) : ty.element ∈ t.vectorElements := by
  rcases Taxonomy.mem_declared.1 h with ⟨s, hs, w, rfl⟩ | ⟨hty, -⟩
  · exact hs
  · exact mem_vectorElements hty (.inl rfl)

lemma mem_front_of_precedes {front back : List ShapedType} (h : t.declared = front ++ ty :: back)
    {shape : Shape} (hprecedes : shape.Precedes ty.shape) : ⟨ty.element, shape⟩ ∈ front := by
  have hty : ty ∈ t.declared := h ▸ List.mem_append_right front List.mem_cons_self
  obtain ⟨w, rfl⟩ := hprecedes.exists_eq_vector
  have hmem := ofWidth_mem_declared (mem_vectorElements_of_mem_declared hty) w
  have hpairwise := pairwise_declared t
  rw [h, List.pairwise_append, List.pairwise_cons] at hpairwise
  obtain ⟨-, ⟨hback, -⟩, -⟩ := hpairwise
  rw [h, List.mem_append, List.mem_cons] at hmem
  rcases hmem with hfront | heq | hmem
  · exact hfront
  · rw [← heq] at hprecedes
    exact absurd hprecedes (Shape.not_precedes_self _)
  · exact absurd hprecedes (hback _ hmem rfl)

/-- **The order of the structures.**  The texts of the types and structures of a taxonomy declare
its types. -/
theorem declaresTypes_shapes (t : Taxonomy) :
    DeclaresTypes t (readTypedefs (Text.unlines (typedefLines t)))
      (readRecords (Text.unlines (structLines t))) := by
  rw [readTypedefs_typedefLines, readRecords_structLines]
  refine ⟨rfl, rfl, ?_, ?_, ?_⟩
  · rw [List.map_map]
    exact (nodup_declared t).map fun _ _ h => recordTag_inj h
  · rw [List.map_map]
    exact (nodup_declared t).map fun _ _ h => ShapedType.token_inj h
  · intro before record after hrecords d hd
    -- A place among the structures is one among the declared types.
    obtain ⟨front, rest, hdeclared, rfl, hrest⟩ := List.map_eq_append_iff.1 hrecords
    obtain ⟨ty, back, rfl, rfl, -⟩ := List.map_eq_cons_iff.1 hrest
    obtain ⟨shape, htype, hshape⟩ := exists_shape_of_mem_declarations hd
    rcases hshape with rfl | hprecedes
    · exact .inl (htype ▸ isScalarType_token ty.element)
    · have hfront := mem_front_of_precedes hdeclared hprecedes
      have hmem : ⟨ty.element, shape⟩ ∈ t.declared := hdeclared ▸ List.mem_append_left _ hfront
      refine .inr ⟨recordTag ⟨ty.element, shape⟩, ?_, ?_⟩
      · rw [List.map_map]
        exact List.mem_map_of_mem hfront
      · rw [htype]
        exact List.mem_map_of_mem (f := fun ty => (recordTag ty, ty.token)) hmem

end

/-! ## The standard catalog -/

/-- **Declared types in every standard header.**  For every taxonomy the operations of the standard
catalog give their functions, whose results and parameters have scalar types or declared ones, and
the types and structures of the taxonomy declare these types before use.  The functions are those of
every header for the taxonomy, and the types and structures are a section of it. -/
theorem declaresTypes_standard :
    ∃ catalog, Catalog.standard = .ok catalog ∧ ∀ t : Taxonomy,
      (∃ functions,
        ((Category.all.flatMap (requests catalog t)).mapM fun r => r.1.instantiate r.2) =
          .ok functions ∧
        (∀ f ∈ functions.flatten, ∀ type ∈ f.signature.ret :: f.signature.params.map (·.type),
          IsScalarType type ∨ ∃ ty ∈ t.declared, type = ty.token) ∧
        ∀ c header s, build catalog t Detection.block c = .ok (header, s) →
          header.functions.flatMap (·.2) = functions.flatten ∧
            Section.shapes t ∈ header.declarations) ∧
      DeclaresTypes t (readTypedefs (Text.unlines (typedefLines t)))
        (readRecords (Text.unlines (structLines t))) := by
  obtain ⟨catalog, h⟩ := Catalog.exists_standard_eq_ok
  refine ⟨catalog, h, fun t => ⟨⟨_, mapM_instantiate_requests (allInstantiate_standard h t
    .standard), ?_, ?_⟩, declaresTypes_shapes t⟩⟩
  · rw [flatten_map_returned]
    intro f hf
    obtain ⟨k, -, hf⟩ := List.mem_flatMap.1 hf
    exact isDeclared_of_mem_functionsOf hf
  · intro c header s hbuild
    obtain ⟨-, -, rfl⟩ := build_eq_ok_iff.1 hbuild
    rw [flatten_map_returned, headerOf, List.flatMap_map]
    exact ⟨rfl, by simp [declarationSections]⟩

end MathHeader
