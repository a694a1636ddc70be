import MathHeader.Proofs.Header.Artifact

/-!
# Headers for fewer types

A header for some of the types is a part of a header for more types.  Nothing in a generation looks
at two types at once: a function belongs to the type of its operands, and a structure or a
constructor to the type of its elements, except that vectors of `bool` come with any type.  So with
fewer types each list of a generation loses the entries of the other types and keeps the order of
the rest: `combinations_ofList`, `functionsOf_ofList`.

What is claimed is therefore a sublist of what was claimed before, and what has to be instantiated
was instantiated before.  A generation that ends well still does so for fewer types, which is
`exists_generate_of_subset`, and `generate_of_subset` says what it gives.
-/

namespace MathHeader

open Preprocessor

/-! ## Lists that are put together type by type -/

/-- If all that comes from an entry is kept or dropped with it, it makes no difference whether the
entries are filtered or what comes from them. -/
lemma filter_flatMap_of_forall {α β : Type} {f : α → List β} {keeps : α → Bool} {p : β → Bool}
    {xs : List α} (h : ∀ x ∈ xs, ∀ y ∈ f x, p y = keeps x) :
    (xs.flatMap f).filter p = (xs.filter keeps).flatMap f := by
  induction xs with
  | nil => rfl
  | cons x xs ih =>
      obtain ⟨hx, hxs⟩ := List.forall_mem_cons.1 h
      rw [List.flatMap_cons, List.filter_append, ih hxs, List.filter_cons]
      split
      next hkeeps =>
        rw [List.flatMap_cons, List.filter_eq_self.2 fun y hy => (hx y hy).trans hkeeps]
      next hkeeps =>
        have hnone : (f x).filter p = [] :=
          List.filter_eq_nil_iff.2 fun y hy hy' => hkeeps ((hx y hy).symm.trans hy')
        rw [hnone, List.nil_append]

section Restriction

variable {A B : List Scalar}

/-! ## The types and the functions that stay -/

lemma scalars_ofList (hsub : ∀ s ∈ A, s ∈ B) :
    (Taxonomy.ofList A).scalars = (Taxonomy.ofList B).scalars.filter A.contains := by
  rw [Taxonomy.ofList, Taxonomy.ofList, List.filter_filter]
  refine List.filter_congr fun s _ => ?_
  rw [Bool.eq_iff_iff, Bool.and_eq_true, List.contains_iff_mem, List.contains_iff_mem]
  exact ⟨fun hs => ⟨hs, hsub s hs⟩, fun hs => hs.1⟩

/-- The types of the smaller choice are those of the larger one with elements in it. -/
lemma combinations_ofList (hsub : ∀ s ∈ A, s ∈ B) :
    (Taxonomy.ofList A).combinations =
      (Taxonomy.ofList B).combinations.filter fun ty => A.contains ty.element := by
  rw [Taxonomy.combinations, Taxonomy.combinations, scalars_ofList hsub]
  refine (filter_flatMap_of_forall fun s _ ty hty => ?_).symm
  obtain ⟨shape, -, rfl⟩ := List.mem_map.1 hty
  rfl

lemma type_of_mem_returned {o : Operation} {ty : ShapedType} {f : FunctionSymbol}
    (hf : f ∈ returned o ty) : f.key.type = ty := by
  unfold returned at hf
  split at hf
  next fs hfs => exact (Operation.fits_of_instantiate hfs hf).type
  next => cases hf

/-- The functions of the smaller choice are those of the larger one with elements in it. -/
lemma functionsOf_ofList (hsub : ∀ s ∈ A, s ∈ B) (catalog : Catalog) (k : Category) :
    functionsOf catalog (.ofList A) k =
      (functionsOf catalog (.ofList B) k).filter fun f => A.contains f.key.type.element := by
  rw [functionsOf_eq, functionsOf_eq, combinations_ofList hsub]
  refine (filter_flatMap_of_forall fun ty _ f hf => ?_).symm
  obtain ⟨o, -, hf⟩ := List.mem_flatMap.1 hf
  rw [type_of_mem_returned hf]

/-! ## The declarations that stay -/

/-- Vectors of `bool` come with any type, so they stay unless no type is left. -/
lemma sublist_vectorElements (hsub : ∀ s ∈ A, s ∈ B) :
    (Taxonomy.ofList A).vectorElements.Sublist (Taxonomy.ofList B).vectorElements := by
  have hscalars : (Taxonomy.ofList A).scalars.Sublist (Taxonomy.ofList B).scalars := by
    rw [scalars_ofList hsub]
    exact List.filter_sublist
  refine List.monotone_filter_right _ fun s hs => ?_
  simp only [Taxonomy.contains, Bool.or_eq_true, List.contains_iff_mem, Bool.and_eq_true,
    Bool.not_eq_true', List.isEmpty_eq_false_iff] at hs ⊢
  rcases hs with hs | ⟨hbool, hne⟩
  · exact .inl (hscalars.subset hs)
  · exact .inr ⟨hbool, fun hnil => hne (List.sublist_nil.1 (hnil ▸ hscalars))⟩

lemma sublist_declared (hsub : ∀ s ∈ A, s ∈ B) :
    (Taxonomy.ofList A).declared.Sublist (Taxonomy.ofList B).declared := by
  refine List.Sublist.append ((sublist_vectorElements hsub).flatMap _) ?_
  rw [combinations_ofList hsub]
  exact List.filter_sublist.filter _

lemma sublist_constructors (hsub : ∀ s ∈ A, s ∈ B) :
    (constructors (.ofList A)).Sublist (constructors (.ofList B)) :=
  ((sublist_vectorElements hsub).flatMap _).append_right _

/-! ## Generations for fewer types -/

section Generation

variable {catalog : Catalog} {detection : List Node} {c : Config}

lemma sublist_declarationClaims (hsub : ∀ s ∈ A, s ∈ B) (detection : List Node) (c : Config) :
    (declarationClaims (.ofList A) detection c).Sublist
      (declarationClaims (.ofList B) detection c) := by
  have htypes := (sublist_declared hsub).flatMap fun ty =>
    [(Storage.recordTag ty, "shape struct"), (ty.token, "shape type")]
  have hconstructors := ((sublist_constructors hsub).map (·.name)).map (·, "constructor")
  exact ((((htypes.append_left _).append hconstructors).append_right _).append_right _).cons_cons _

/-- What is claimed for the smaller choice is claimed for the larger one, in the same order. -/
lemma sublist_claimedNames (hsub : ∀ s ∈ A, s ∈ B) (catalog : Catalog) (detection : List Node)
    (c : Config) :
    (claimedNames (events catalog (.ofList A) detection c)).Sublist
      (claimedNames (events catalog (.ofList B) detection c)) := by
  rw [claimedNames_events, claimedNames_events]
  refine ((sublist_declarationClaims hsub detection c).map _).append ?_
  refine List.Sublist.flatMap_right _ fun k _ => ?_
  rw [functionsOf_ofList hsub]
  exact List.filter_sublist.map _

/-- What is instantiated for the smaller choice is instantiated for the larger one. -/
lemma AllInstantiate.of_subset (hsub : ∀ s ∈ A, s ∈ B)
    (h : AllInstantiate (events catalog (.ofList B) detection c)) :
    AllInstantiate (events catalog (.ofList A) detection c) := by
  intro o ty hmem
  obtain ⟨k, hk, hrequest⟩ := instantiate_mem_events_iff.1 hmem
  obtain ⟨hty, ho⟩ := mem_requests.1 hrequest
  rw [combinations_ofList hsub] at hty
  exact h o ty (instantiate_mem_events_iff.2
    ⟨k, hk, mem_requests.2 ⟨(List.mem_filter.1 hty).1, ho⟩⟩)

/-- A generation that ends well does so for fewer types. -/
lemma exists_generate_of_subset (hsub : ∀ s ∈ A, s ∈ B)
    (h : ∃ b, generate catalog (.ofList B) detection c = .ok b) :
    ∃ a, generate catalog (.ofList A) detection c = .ok a := by
  obtain ⟨hvalid, hinstantiate, hids, hnodup⟩ := exists_generate_eq_ok_iff.1 h
  have hclaimed := sublist_claimedNames hsub catalog detection c
  exact exists_generate_eq_ok_iff.2 ⟨hvalid, hinstantiate.of_subset hsub,
    fun name hname => hids name (hclaimed.subset hname), hnodup.sublist hclaimed⟩

lemma exists_build_of_generate {t : Taxonomy} {a : Artifact}
    (h : generate catalog t detection c = .ok a) :
    ∃ s, build catalog t detection c = .ok (headerOf catalog t detection c, s) ∧
      a = .of (headerOf catalog t detection c) s := by
  obtain ⟨hvalid, s, hrun, ha⟩ := generate_eq_ok_iff.1 h
  exact ⟨s, build_eq_ok_iff.2 ⟨hvalid, hrun, rfl⟩, ha⟩

end Generation

/-! ## Their headers -/

/-- Only the set of types counts, not their order and repetition. -/
lemma ofList_congr (h : ∀ s, s ∈ A ↔ s ∈ B) : Taxonomy.ofList A = Taxonomy.ofList B := by
  refine Taxonomy.ext (List.filter_congr fun s _ => ?_)
  rw [Bool.eq_iff_iff, List.contains_iff_mem, List.contains_iff_mem]
  exact h s

end Restriction

/-- **Fewer types only filter the header.**  If a header can be generated for some types, it can be
generated for any of them, whatever the catalog, the detection block and the settings are.  Each
category has the functions that it had for the types that are left, in the same order, and the
declared types and constructors are some of those before, in the same order.  In particular the
order in which the types are given, and their repetition, make no difference. -/
theorem generate_of_subset (catalog : Catalog) (detection : List Node) (c : Config)
    (A B : List Scalar) :
    ((∀ s ∈ A, s ∈ B) → ∀ b, generate catalog (.ofList B) detection c = .ok b →
      ∃ a small smallSession large largeSession,
        generate catalog (.ofList A) detection c = .ok a ∧
        build catalog (.ofList A) detection c = .ok (small, smallSession) ∧
        a = .of small smallSession ∧
        build catalog (.ofList B) detection c = .ok (large, largeSession) ∧
        b = .of large largeSession ∧
        small.functions = large.functions.map (fun (k, fs) =>
          (k, fs.filter fun f => A.contains f.key.type.element)) ∧
        (Taxonomy.ofList A).declared.Sublist (Taxonomy.ofList B).declared ∧
        (constructors (.ofList A)).Sublist (constructors (.ofList B))) ∧
    ((∀ s, s ∈ A ↔ s ∈ B) →
      generate catalog (.ofList A) detection c = generate catalog (.ofList B) detection c) := by
  constructor
  · intro hsub b hb
    obtain ⟨a, ha⟩ := exists_generate_of_subset hsub ⟨b, hb⟩
    obtain ⟨s, hbuild, heq⟩ := exists_build_of_generate ha
    obtain ⟨s', hbuild', heq'⟩ := exists_build_of_generate hb
    refine ⟨a, _, s, _, s', ha, hbuild, heq, hbuild', heq', ?_, sublist_declared hsub,
      sublist_constructors hsub⟩
    rw [headerOf, headerOf, List.map_map]
    exact List.map_congr_left fun k _ => congrArg (k, ·) (functionsOf_ofList hsub catalog k)
  · intro h
    rw [ofList_congr h]

/-- The functions of `u8` alone, out of those of `bool` and `u8`. -/
theorem generate_of_subset_u8 :
    (∀ s ∈ [Scalar.u8], s ∈ [Scalar.bool, .u8]) ∧
    ∃ b, generate smallCatalog (.ofList [.bool, .u8]) smallDetection smallConfig = .ok b ∧
      ∃ a small smallSession,
        generate smallCatalog (.ofList [.u8]) smallDetection smallConfig = .ok a ∧
        build smallCatalog (.ofList [.u8]) smallDetection smallConfig =
          .ok (small, smallSession) ∧
        small.functions.map (fun (k, fs) => (k, fs.map (·.name))) =
          [(.scalar, []),
            (.boolean, ["rm_and_u8x2", "rm_ands_u8x2", "rm_and_u8x3", "rm_ands_u8x3",
              "rm_and_u8x4", "rm_ands_u8x4"]),
            (.arithmetic, []), (.matrix, [])] := by
  have hsub : ∀ s ∈ [Scalar.u8], s ∈ [Scalar.bool, .u8] := by decide
  obtain ⟨b, hb⟩ : ∃ b,
      generate smallCatalog (.ofList [.bool, .u8]) smallDetection smallConfig = .ok b :=
    exists_generate_of_firstFault rfl (by decide +kernel)
  obtain ⟨a, small, s, large, s', ha, hsmall, -, hlarge, -, hfunctions, -, -⟩ :=
    (generate_of_subset smallCatalog smallDetection smallConfig [.u8] [.bool, .u8]).1 hsub b hb
  refine ⟨hsub, b, hb, a, small, s, ha, hsmall, ?_⟩
  obtain ⟨s'', hbuild, -⟩ := exists_build_of_generate hb
  rw [hlarge] at hbuild
  cases hbuild
  rw [hfunctions]
  decide +kernel

end MathHeader
