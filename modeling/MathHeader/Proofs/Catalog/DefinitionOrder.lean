import MathHeader.Proofs.Generation.Standard
import MathHeader.Proofs.Header.Artifact
import MathHeader.Proofs.Operation.Calls

/-!
# Definition before use

C wants a function to be declared before it is called, and the header has no declarations apart from
the definitions.  So the order of the definitions matters: the names of the library in a body have
to be those of constructors, which are macros in front of all functions, or of functions before it
(`DefinedBeforeUse`).

The order is that of four nested loops, over categories, types, operations and the functions of an
operation.  A function is found at a place in each of them, and the functions before it are what the
four loops have given by then: `exists_of_flatMap_eq_append_cons`.  In an ordered catalog every name
in a body is that of a function at an earlier place in one of the loops (`StandsAt`).  The types
that such a function is for have the same elements, and so they belong to every taxonomy that has
the type of the caller: that is why the choice of types makes no difference
(`definedBeforeUse_of_isOrdered`).  The standard catalog is ordered: `definedBeforeUse_standard`.
-/

namespace MathHeader

/-! ## The property -/

/-- **Definition before use.**  Each name of the library that stands in the body of a function is
that of a macro or of a function before it. -/
def DefinedBeforeUse (macros : List String) (functions : List FunctionSymbol) : Prop :=
  ∀ before f after, functions = before ++ f :: after →
    ∀ w, Text.WordIn w f.body.toList → libraryPrefix <+: w →
      String.ofList w ∈ macros ∨ String.ofList w ∈ before.map (·.name)

/-! ## Places in nested loops -/

/-- What a loop has given before an element of one of its rounds is what it has given in the rounds
before, and what stands before the element in its own round. -/
lemma exists_of_flatMap_eq_append_cons {α β : Type} {f : α → List β} {l : List α}
    {before after : List β} {b : β} (h : l.flatMap f = before ++ b :: after) :
    ∃ front a rest inner more, l = front ++ a :: rest ∧ f a = inner ++ b :: more ∧
      before = front.flatMap f ++ inner := by
  induction l generalizing before with
  | nil => exact absurd h (by simp)
  | cons x l ih =>
      rw [List.flatMap_cons, List.append_eq_append_iff] at h
      rcases h with ⟨later, rfl, h⟩ | ⟨more, hx, h⟩
      · obtain ⟨front, a, rest, inner, more, rfl, ha, rfl⟩ := ih h
        exact ⟨x :: front, a, rest, inner, more, rfl, ha, by
          rw [List.flatMap_cons, List.append_assoc]⟩
      · cases more with
        | nil =>
            have hrest : l.flatMap f = [] ++ b :: after := h.symm
            obtain ⟨front, a, rest, inner, more, rfl, ha, hnil⟩ := ih hrest
            rw [List.append_nil] at hx
            exact ⟨x :: front, a, rest, inner, more, rfl, ha, by
              rw [List.flatMap_cons, List.append_assoc, ← hnil, List.append_nil, hx]⟩
        | cons c more =>
            cases (List.cons.inj h).1
            exact ⟨[], x, l, before, more, rfl, hx, rfl⟩

lemma mem_of_isBefore {k k' : Category} {front rest : List Category}
    (hall : Category.all = front ++ k :: rest) (h : k'.isBefore k = true) : k' ∈ front := by
  rw [Category.isBefore, List.contains_iff_mem, hall, List.takeWhile_append,
    List.takeWhile_cons_of_neg (by simp), List.append_nil] at h
  split at h
  · exact h
  · exact (List.takeWhile_sublist _).subset h

/-! ## The place of a function -/

section

variable {catalog : Catalog} {t : Taxonomy}

/-- **The place of a function** `f` of the operation `o` for the type `ty`, when `front` are the
operations before `o` in the catalog.  What the earlier categories give, what the operations of
`front` in the same category give for the type, and what `o` itself has given by then stands before
the function. -/
structure StandsAt (catalog : Catalog) (t : Taxonomy) (before : List FunctionSymbol)
    (f : FunctionSymbol) (o : Operation) (ty : ShapedType) (front : List Operation) : Prop where
  place : ∃ rest, catalog.operations = front ++ o :: rest
  type : ty ∈ t.combinations
  applies : o.appliesTo ty = true
  categories : ∀ k, k.isBefore o.category = true → functionsOf catalog t k ⊆ before
  operations : ∀ e ∈ front, e.category = o.category → e.appliesTo ty = true →
    returned e ty ⊆ before
  functions : ∃ inner more, returned o ty = inner ++ f :: more ∧ inner ⊆ before

lemma exists_of_operationsFor_eq_append_cons {k : Category} {ty : ShapedType} {o : Operation}
    {os os' : List Operation} (h : catalog.operationsFor k ty = os ++ o :: os') :
    ∃ front rest, catalog.operations = front ++ o :: rest ∧ o.category = k ∧
      o.appliesTo ty = true ∧
      os = front.filter fun e => e.category == k && e.appliesTo ty := by
  obtain ⟨front, rest, hoperations, hos, hrest⟩ := List.filter_eq_append_iff.1 h
  obtain ⟨skipped, rest', rfl, hskipped, ho, -⟩ := List.filter_eq_cons_iff.1 hrest
  rw [Bool.and_eq_true, beq_iff_eq] at ho
  refine ⟨front ++ skipped, rest', by rw [hoperations, List.append_assoc], ho.1, ho.2, ?_⟩
  rw [List.filter_append, hos, List.filter_eq_nil_iff.2 hskipped, List.append_nil]

/-- Every function of a taxonomy has a place. -/
lemma exists_standsAt {before after : List FunctionSymbol} {f : FunctionSymbol}
    (h : Category.all.flatMap (functionsOf catalog t) = before ++ f :: after) :
    ∃ o ty front, StandsAt catalog t before f o ty front := by
  obtain ⟨ks, k, ks', beforeK, afterK, hks, hk, rfl⟩ := exists_of_flatMap_eq_append_cons h
  rw [functionsOf_eq] at hk
  obtain ⟨tys, ty, tys', beforeT, afterT, htys, hty, rfl⟩ := exists_of_flatMap_eq_append_cons hk
  obtain ⟨os, o, os', beforeO, afterO, hos, ho, rfl⟩ := exists_of_flatMap_eq_append_cons hty
  obtain ⟨front, rest, hoperations, rfl, happlies, rfl⟩ :=
    exists_of_operationsFor_eq_append_cons hos
  have htype : ty ∈ t.combinations := htys ▸ List.mem_append_right _ List.mem_cons_self
  refine ⟨o, ty, front, ⟨rest, hoperations⟩, htype, happlies, ?_, ?_, beforeO, afterO, ho, ?_⟩
  · intro k hbefore f' hf'
    exact List.mem_append_left _ (List.mem_flatMap.2 ⟨k, mem_of_isBefore hks hbefore, hf'⟩)
  · intro e he hcategory happliesE f' hf'
    have hfor : (e.category == o.category && e.appliesTo ty) = true := by
      rw [hcategory, beq_self_eq_true, Bool.true_and]
      exact happliesE
    exact List.mem_append_right _ (List.mem_append_right _ (List.mem_append_left _
      (List.mem_flatMap.2 ⟨e, List.mem_filter.2 ⟨he, hfor⟩, hf'⟩)))
  · intro f' hf'
    exact List.mem_append_right _ (List.mem_append_right _ (List.mem_append_right _ hf'))

/-! ## Names -/

lemma name_mem_returned {o : Operation} {ty : ShapedType}
    (h : ∃ fs, o.instantiate ty = .ok fs) {v : Variant} (hv : v ∈ .base :: o.variants ty.shape) :
    (SymbolKey.mk o.name ty v).name ∈ (returned o ty).map (·.name) := by
  obtain ⟨fs, hfs⟩ := h
  obtain ⟨f, hf, hname, -⟩ :=
    exists_of_forall₂_of_mem (Operation.written_of_instantiate hfs).flip hv
  rw [returned, hfs]
  exact List.mem_map.2 ⟨f, hf, hname⟩

lemma name_mem_functionsOf {e : Operation} (he : e ∈ catalog.operations) {ty : ShapedType}
    (hty : ty ∈ t.combinations) (happlies : e.appliesTo ty = true)
    (h : ∃ fs, e.instantiate ty = .ok fs) {v : Variant} (hv : v ∈ .base :: e.variants ty.shape) :
    (SymbolKey.mk e.name ty v).name ∈ (functionsOf catalog t e.category).map (·.name) := by
  have hfor : e ∈ catalog.operationsFor e.category ty :=
    List.mem_filter.2 ⟨he, by rw [beq_self_eq_true, happlies, Bool.and_true]⟩
  obtain ⟨f, hf, hname⟩ := List.mem_map.1 (name_mem_returned h hv)
  refine List.mem_map.2 ⟨f, ?_, hname⟩
  rw [functionsOf_eq]
  exact List.mem_flatMap.2 ⟨ty, hty, List.mem_flatMap.2 ⟨e, hfor, hf⟩⟩

/-- The types with the elements of one of a taxonomy belong to the taxonomy. -/
lemma mem_combinations_of_element {ty : ShapedType} (hty : ty ∈ t.combinations) (shape : Shape) :
    ⟨ty.element, shape⟩ ∈ t.combinations := by
  rw [Taxonomy.mem_combinations] at hty ⊢
  exact hty

/-- The elements of a type get vectors, and so do truth values with any type. -/
lemma mem_vectorElements {ty : ShapedType} (hty : ty ∈ t.combinations) {s : Scalar}
    (hs : s = ty.element ∨ s = .bool) : s ∈ t.vectorElements := by
  rw [Taxonomy.mem_combinations] at hty
  refine List.mem_filter.2 ⟨s.mem_all, ?_⟩
  rcases hs with rfl | rfl
  · simp [Taxonomy.contains, hty]
  · have hne : t.scalars ≠ [] := List.ne_nil_of_mem hty
    simp [hne]

/-- The constructors of vectors with the elements of a type, or with truth values. -/
lemma constructorNames_mem {ty : ShapedType} (hty : ty ∈ t.combinations) {s : Scalar}
    (hs : s = ty.element ∨ s = .bool) (w : Width) :
    (ShapedType.ofWidth s w).constructorName ∈ (constructors t).map (·.name) ∧
      (ShapedType.ofWidth s w).splatName ∈ (constructors t).map (·.name) := by
  have hmem {d : MacroDefinition} (hd : d ∈ vectorConstructors s w) :
      d.name ∈ (constructors t).map (·.name) :=
    List.mem_map_of_mem (List.mem_append_left _ (List.mem_flatMap.2
      ⟨s, mem_vectorElements hty hs, List.mem_flatMap.2 ⟨w, w.mem_all, hd⟩⟩))
  refine ⟨?_, hmem (List.mem_cons_of_mem _ List.mem_cons_self)⟩
  have hfull := hmem (d := fullConstructor s w) List.mem_cons_self
  rwa [fullConstructor, constructorFrom, MacroDefinition.function, String.append_empty] at hfull

/-- A function of an operation is the declared one or stands behind it. -/
lemma exists_variant_of_instantiate {o : Operation} {ty : ShapedType} {f : FunctionSymbol}
    {before after : List FunctionSymbol} (h : o.instantiate ty = .ok (before ++ f :: after)) :
    ∃ v ∈ .base :: o.variants ty.shape,
      (v ≠ .base → (SymbolKey.mk o.name ty .base).name ∈ before.map (·.name)) ∧
      ∃ gs, o.glyphs? ty.element.kind ty.shape v = some gs ∧
        f.body.toList = Glyph.written ty gs := by
  have hall := Operation.written_of_instantiate h
  cases before with
  | nil =>
      obtain ⟨⟨-, hbody⟩, -⟩ := List.forall₂_cons.1 hall
      exact ⟨.base, List.mem_cons_self, fun hne => absurd rfl hne, hbody⟩
  | cons base before =>
      obtain ⟨⟨hname, -⟩, hderived⟩ := List.forall₂_cons.1 hall
      obtain ⟨v, hv, -, hbody⟩ :=
        exists_of_forall₂_of_mem hderived (List.mem_append_right before List.mem_cons_self)
      exact ⟨v, List.mem_cons_of_mem _ hv, fun _ => hname ▸ List.mem_cons_self, hbody⟩

/-! ## Ordered catalogs -/

/-- **Ordered catalogs.**  If every operation of a catalog calls earlier functions and can be
instantiated where it exists, the functions for any taxonomy are defined before use. -/
theorem definedBeforeUse_of_isOrdered
    (hordered : isOrdered catalog.operations [] catalog.operations = true)
    (hinstantiate : ∀ o ∈ catalog.operations, ∀ ty, o.appliesTo ty = true →
      ∃ fs, o.instantiate ty = .ok fs) (t : Taxonomy) :
    DefinedBeforeUse ((constructors t).map (·.name))
      (Category.all.flatMap (functionsOf catalog t)) := by
  intro before f after hfunctions w hword hlibrary
  obtain ⟨o, ty, front, hplace⟩ := exists_standsAt hfunctions
  obtain ⟨rest, hoperations⟩ := hplace.place
  obtain ⟨inner, more, hreturned, hinner⟩ := hplace.functions
  obtain ⟨fs, hfs⟩ := hinstantiate o (hoperations ▸ List.mem_append_right _ List.mem_cons_self)
    ty hplace.applies
  rw [returned, hfs] at hreturned
  subst hreturned
  obtain ⟨v, hv, hbase, gs, hgs, hbody⟩ := exists_variant_of_instantiate hfs
  rw [hoperations] at hordered
  have hearlier := callsEarlier_of_isOrdered hordered hplace.applies
  rw [← hoperations, List.append_nil] at hearlier
  rw [hbody] at hword
  -- A name is that of the function it is derived from, of a constructor, or of an operation.
  rcases Operation.called_of_callsEarlier hearlier hv hgs hword hlibrary with ⟨hne, rfl⟩ |
    ⟨s, width, hs, hw⟩ | ⟨shape, e, he, v', hv', happlies, rfl⟩
  · rw [String.ofList_toList]
    exact .inr (List.map_subset _ hinner (hbase hne))
  · obtain ⟨hfull, hsplat⟩ := constructorNames_mem hplace.type hs width
    rcases hw with rfl | rfl
    · exact .inl (String.ofList_toList ▸ hfull)
    · exact .inl (String.ofList_toList ▸ hsplat)
  · rw [String.ofList_toList]
    rcases Operation.mem_preceding.1 he with ⟨he, hbefore⟩ | ⟨rfl, he, hcategory⟩
    · have hname := name_mem_functionsOf he (mem_combinations_of_element hplace.type shape)
        happlies (hinstantiate e he _ happlies) hv'
      exact .inr (List.map_subset _ (hplace.categories e.category hbefore) hname)
    · rw [List.mem_reverse] at he
      have hmem : e ∈ catalog.operations := hoperations ▸ List.mem_append_left _ he
      have hname := name_mem_returned (hinstantiate e hmem ty happlies) hv'
      exact .inr (List.map_subset _ (hplace.operations e he hcategory happlies) hname)

/-! ## The standard catalog -/

/-- In the tables every operation calls earlier functions. -/
lemma isOrdered_standardRows :
    (match Catalog.standardRows.mapM OperationSpec.readPlain with
      | .ok operations => isOrdered operations [] operations
      | .error _ => false) = true := by
  decide +kernel

lemma isOrdered_standard (h : Catalog.standard = .ok catalog) :
    isOrdered catalog.operations [] catalog.operations = true := by
  have hordered := isOrdered_standardRows
  split at hordered
  next operations hread =>
    have hplain : ∀ spec ∈ Catalog.standardRows, ∀ body ∈ spec.bodies,
        Text.isPlain body.2 = true := by
      intro spec hspec
      have hcomplete := OperationSpec.isComplete_of_mem spec hspec
      rw [OperationSpec.isComplete, Bool.and_eq_true] at hcomplete
      exact List.all_eq_true.1 hcomplete.1
    have hrows : Catalog.standardRows.mapM Operation.ofSpec = .ok operations :=
      mapM_eq_ok_iff.2 (((List.forall₂_and_left _ _).2 ⟨hplain, mapM_eq_ok_iff.1 hread⟩).imp
        fun _ _ hrow => OperationSpec.ofSpec_eq_ok hrow.1 hrow.2)
    rw [Catalog.standard, Catalog.ofSpecs, hrows] at h
    cases h
    exact hordered
  next => cases hordered

lemma flatten_map_returned (catalog : Catalog) (t : Taxonomy) :
    ((Category.all.flatMap (requests catalog t)).map fun r => returned r.1 r.2).flatten =
      Category.all.flatMap (functionsOf catalog t) := by
  rw [← List.flatMap_def, List.flatMap_assoc]
  rfl

/-- **Definition before use in every standard header.**  For every taxonomy the operations of the
standard catalog give their functions, by category, type and operation, and these are defined before
use.  They are the functions of every header for the taxonomy, in this order. -/
theorem definedBeforeUse_standard :
    ∃ catalog, Catalog.standard = .ok catalog ∧ ∀ t : Taxonomy, ∃ functions,
      ((Category.all.flatMap (requests catalog t)).mapM fun r => r.1.instantiate r.2) =
        .ok functions ∧
      DefinedBeforeUse ((constructors t).map (·.name)) functions.flatten ∧
      ∀ c header s, build catalog t Detection.block c = .ok (header, s) →
        header.functions.flatMap (·.2) = functions.flatten := by
  obtain ⟨catalog, h⟩ := Catalog.exists_standard_eq_ok
  refine ⟨catalog, h, fun t => ⟨_, mapM_instantiate_requests (allInstantiate_standard h t
    .standard), ?_, ?_⟩⟩
  · rw [flatten_map_returned]
    exact definedBeforeUse_of_isOrdered (isOrdered_standard h)
      (fun o ho ty happlies => Catalog.exists_instantiate_of_standard h ho happlies) t
  · intro c header s hbuild
    obtain ⟨-, -, rfl⟩ := build_eq_ok_iff.1 hbuild
    rw [flatten_map_returned, headerOf, List.flatMap_map]

end

end MathHeader
