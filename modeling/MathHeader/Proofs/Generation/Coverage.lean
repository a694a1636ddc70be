import MathHeader.Proofs.Generation.Restriction
import MathHeader.Proofs.Session.Accounts

/-!
# Coverage and statistics

The coverage of a catalog is counted without a generation: it goes through the operations, and for
each of them through the types that it exists for.  A generation goes the other way, through the
categories, the types and then the operations, and counts the functions as their names are claimed.
Both come to the same, since the generation defines the functions of the operations in another
order: `perm_functionsOf` and `perm_definitions`.

The statistics are the accounts of the steps that the events of the generation are
(`runEvents_eq_ok`), and so each of their numbers is known beforehand: `stats_of_generate`.
-/

namespace MathHeader

open Preprocessor

/-! ## Two orders of going through pairs -/

lemma flatMap_filter_eq {α β : Type} (p : α → Bool) (f : α → List β) (xs : List α) :
    (xs.filter p).flatMap f = xs.flatMap fun x => if p x then f x else [] := by
  induction xs with
  | nil => rfl
  | cons x xs ih =>
      rw [List.filter_cons, List.flatMap_cons, ← ih]
      split <;> rfl

/-- The pairs that satisfy a condition can be gone through row by row or column by column. -/
lemma perm_flatMap_filter {α β γ : Type} (p : α → β → Bool) (f : α → β → List γ) (xs : List α)
    (ys : List β) :
    (xs.flatMap fun x => (ys.filter (p x)).flatMap (f x)).Perm
      (ys.flatMap fun y => (xs.filter (p · y)).flatMap (f · y)) := by
  induction xs with
  | nil => simp
  | cons x xs ih =>
      rw [List.flatMap_cons, flatMap_filter_eq]
      refine (ih.append_left _).trans ((List.flatMap_append_perm _ _ _).trans (.of_eq ?_))
      refine List.flatMap_congr fun y _ => ?_
      rw [List.filter_cons]
      split <;> rfl

/-! ## Functions operation by operation -/

/-- The functions of an operation: for each type that it exists for, the declared one and the
derived ones. -/
def operationKeys (t : Taxonomy) (o : Operation) : List SymbolKey :=
  (t.combinations.filter o.appliesTo).flatMap fun ty =>
    (.base :: o.variants ty.shape).map (⟨o.name, ty, ·⟩)

lemma length_operationKeys (t : Taxonomy) (o : Operation) :
    (operationKeys t o).length = Catalog.functionCount o t := by
  simp [Catalog.functionCount, operationKeys, List.length_flatMap]

lemma countP_isDerived_operationKeys (t : Taxonomy) (o : Operation) :
    (operationKeys t o).countP SymbolKey.isDerived =
      ((t.combinations.filter o.appliesTo).map fun ty => (o.variants ty.shape).length).sum := by
  rw [operationKeys, List.countP_flatMap]
  refine congrArg List.sum (List.map_congr_left fun ty _ => ?_)
  have hvariants : ∀ v ∈ o.variants ty.shape, (v != .base) = true := fun v hv =>
    bne_iff_ne.2 fun hbase => o.base_notMem_variants ty.shape (hbase ▸ hv)
  rw [Function.comp_apply, List.countP_map, List.countP_cons_of_neg (Bool.eq_false_iff.1 rfl)]
  exact List.countP_eq_length.2 hvariants

section Operations

variable {catalog : Catalog} {t : Taxonomy} {detection : List Node} {c : Config}

/-- **Functions of a category.**  If everything can be instantiated, a generation gives the
functions of the operations of the category, in another order. -/
lemma perm_functionsOf (h : AllInstantiate (events catalog t detection c)) {k : Category}
    (hk : k ∈ Category.all) :
    ((functionsOf catalog t k).map (·.key)).Perm
      ((catalog.operations.filter (·.category == k)).flatMap (operationKeys t)) := by
  have hoperations (ty : ShapedType) : catalog.operationsFor k ty =
      (catalog.operations.filter (·.category == k)).filter fun o => o.appliesTo ty := by
    rw [Catalog.operationsFor, List.filter_filter]
    exact List.filter_congr fun o _ => Bool.and_comm _ _
  rw [map_key_functionsOf_of_mem h hk]
  simp only [hoperations]
  exact perm_flatMap_filter (fun ty (o : Operation) => o.appliesTo ty) _ _ _

/-- The operations category by category are all of them, in another order. -/
lemma perm_operations {γ : Type} (f : Operation → List γ) :
    (Category.all.flatMap fun k => (catalog.operations.filter (·.category == k)).flatMap f).Perm
      (catalog.operations.flatMap f) := by
  refine (perm_flatMap_filter (fun k o => o.category == k) (fun _ o => f o) _ _).trans (.of_eq ?_)
  refine List.flatMap_congr fun o _ => ?_
  cases o.category <;> exact List.append_nil (f o)

end Operations

/-! ## Events as steps -/

/-- The step of a session that an event is; an instantiation is none. -/
def Event.step? : Event → Option Step
  | declare name owner => some (.declare name owner)
  | instantiate _ _ => none
  | define category key name => some (.define category key name)
  | finish title bytes => some (.finish title bytes)

def Event.defined? (ev : Event) : Option (Category × SymbolKey) :=
  ev.step?.bind Step.defined?

/-- The steps that some events are. -/
def stepsOf (evs : List Event) : List Step :=
  evs.filterMap Event.step?

section Steps

variable {ev : Event} {evs : List Event} {s s' : Session}

lemma stepsOf_cons (ev : Event) (evs : List Event) :
    stepsOf (ev :: evs) = ev.step?.toList ++ stepsOf evs := by
  rw [stepsOf, List.filterMap_cons]
  cases ev.step? <;> rfl

lemma Event.apply_eq_ok (h : ev.apply s = .ok s') :
    s'.stats = ev.step?.toList.foldl Step.counted s.stats ∧
      s'.names.names = (claimedNames [ev]).reverse ++ s.names.names := by
  cases ev with
  | declare name owner =>
      obtain ⟨names, hclaim, h⟩ := bind_eq_ok_iff.1 h
      obtain ⟨-, -, rfl⟩ := NameTable.claim_eq_ok_iff.1 hclaim
      cases h
      exact ⟨rfl, rfl⟩
  | define category key name =>
      obtain ⟨names, hclaim, h⟩ := bind_eq_ok_iff.1 h
      obtain ⟨-, -, rfl⟩ := NameTable.claim_eq_ok_iff.1 hclaim
      cases h
      exact ⟨rfl, rfl⟩
  | instantiate o ty =>
      obtain ⟨fs, -, rfl⟩ := map_eq_ok_iff.1 h
      exact ⟨rfl, rfl⟩
  | finish title bytes =>
      cases h
      exact ⟨rfl, rfl⟩

/-- **Events as steps.**  After a run that succeeds the statistics have been counted for its steps,
and the claimed names come on top of those before. -/
lemma runEvents_eq_ok (h : runEvents s evs = .ok s') :
    s'.stats = (stepsOf evs).foldl Step.counted s.stats ∧
      s'.names.names = (claimedNames evs).reverse ++ s.names.names := by
  induction evs generalizing s with
  | nil =>
      cases h
      exact ⟨rfl, rfl⟩
  | cons ev evs ih =>
      obtain ⟨mid, hev, hevs⟩ := bind_eq_ok_iff.1 h
      obtain ⟨hstats, hnames⟩ := Event.apply_eq_ok hev
      obtain ⟨hstats', hnames'⟩ := ih hevs
      constructor
      · rw [hstats', hstats, stepsOf_cons, List.foldl_append]
      · rw [hnames', hnames, claimedNames_cons ev evs, List.reverse_append, List.append_assoc]

lemma definitions_stepsOf (evs : List Event) :
    definitions (stepsOf evs) = evs.filterMap Event.defined? :=
  List.filterMap_filterMap

lemma length_sizes_stepsOf (evs : List Event) :
    (sizes (stepsOf evs)).length = evs.countP Event.isFinish := by
  induction evs with
  | nil => rfl
  | cons ev evs ih =>
      have hev : (sizes ev.step?.toList).length = [ev].countP Event.isFinish := by cases ev <;> rfl
      rw [stepsOf_cons, sizes, List.filterMap_append, List.length_append, ← sizes, ← sizes, ih, hev]
      rw [← List.countP_append, List.singleton_append]

/-- Each claimed name is that of a function or of a declaration. -/
lemma length_claimedNames (evs : List Event) :
    (claimedNames evs).length =
      (definitions (stepsOf evs)).length + (stepsOf evs).countP Step.isDeclare := by
  induction evs with
  | nil => rfl
  | cons ev evs ih =>
      have hev : (claimedNames [ev]).length =
          (definitions ev.step?.toList).length + ev.step?.toList.countP Step.isDeclare := by
        cases ev <;> rfl
      rw [claimedNames_cons ev evs, List.length_append, ih, hev, stepsOf_cons, List.countP_append,
        definitions, definitions, definitions, List.filterMap_append, List.length_append,
        Nat.add_add_add_comm]

end Steps

/-! ## What a generation performs -/

section Trace

variable (catalog : Catalog) (t : Taxonomy) (detection : List Node) (c : Config)

lemma definitions_trace :
    definitions (stepsOf (trace catalog t detection c)) =
      Category.all.flatMap fun k => (functionsOf catalog t k).map fun f => (k, f.key) := by
  have hsection (part : Section) : part.events.filterMap Event.defined? = [] := by
    rw [Section.events, List.filterMap_append, List.filterMap_map]
    exact List.append_eq_nil_iff.2 ⟨List.filterMap_eq_nil_iff.2 fun _ _ => rfl, rfl⟩
  have hrequest (k : Category) (r : Operation × ShapedType) :
      (requestEvents k r).filterMap Event.defined? =
        (returned r.1 r.2).map fun f => (k, f.key) := by
    rw [requestEvents, List.filterMap_cons_none rfl, List.filterMap_map]
    exact congrFun List.filterMap_eq_map' _
  have hcategory (k : Category) :
      (categoryTrace catalog t c.specifier k).filterMap Event.defined? =
        (functionsOf catalog t k).map fun f => (k, f.key) := by
    rw [categoryTrace, List.filterMap_append, List.filterMap_flatMap, functionsOf, List.map_flatMap]
    simp only [hrequest]
    exact List.append_nil _
  rw [definitions_stepsOf, trace, List.filterMap_cons_none rfl, List.filterMap_append,
    List.filterMap_flatMap, List.filterMap_flatMap, List.flatMap_eq_nil_iff.2 fun _ _ => hsection _]
  simp only [hcategory]
  rfl

/-- The sections that a generation finishes are as many as the header is made of. -/
lemma length_sizes_trace :
    (sizes (stepsOf (trace catalog t detection c))).length = sectionOrder.length := by
  have hdeclared (part : Section) :
      (part.declared.map declareEvent).countP Event.isFinish = 0 := by
    rw [List.countP_map]
    exact List.countP_eq_zero.2 fun _ _ => Bool.false_ne_true
  have hsection (part : Section) : part.events.countP Event.isFinish = 1 := by
    rw [Section.events, List.countP_append, hdeclared]
    rfl
  have hrequests (k : Category) :
      ((requests catalog t k).flatMap (requestEvents k)).countP Event.isFinish = 0 := by
    refine List.countP_eq_zero.2 fun ev hev => ?_
    obtain ⟨r, -, hev⟩ := List.mem_flatMap.1 hev
    rcases List.mem_cons.1 hev with rfl | hev
    · exact Bool.false_ne_true
    · obtain ⟨f, -, rfl⟩ := List.mem_map.1 hev
      exact Bool.false_ne_true
  have hcategory (k : Category) :
      (categoryTrace catalog t c.specifier k).countP Event.isFinish = 1 := by
    rw [categoryTrace, List.countP_append, hrequests]
    rfl
  rw [length_sizes_stepsOf, trace, List.countP_cons_of_neg Bool.false_ne_true, List.countP_append,
    List.countP_flatMap, List.countP_flatMap]
  simp only [Function.comp_def, hsection, hcategory]
  rfl

end Trace

/-! ## The statistics -/

section Statistics

variable {catalog : Catalog} {t : Taxonomy} {detection : List Node} {c : Config}

/-- **All functions.**  If everything can be instantiated, a generation defines the functions of all
operations, in another order. -/
lemma perm_definitions (h : AllInstantiate (events catalog t detection c)) :
    ((definitions (stepsOf (trace catalog t detection c))).map (·.2)).Perm
      (catalog.operations.flatMap (operationKeys t)) := by
  rw [definitions_trace, List.map_flatMap]
  simp only [List.map_map]
  exact (List.Perm.flatMap_left _ fun k hk => perm_functionsOf h hk).trans (perm_operations _)

lemma countP_category_definitions (k : Category) :
    (definitions (stepsOf (trace catalog t detection c))).countP (·.1 == k) =
      (functionsOf catalog t k).length := by
  have hcategory (l : Category) : ((functionsOf catalog t l).map fun f => (l, f.key)).countP
      (·.1 == k) = if l = k then (functionsOf catalog t k).length else 0 := by
    rw [List.countP_map]
    split
    next hl => exact hl ▸ List.countP_eq_length.2 fun _ _ => beq_self_eq_true l
    next hl => exact List.countP_eq_zero.2 fun _ _ => by simpa using hl
  rw [definitions_trace, List.countP_flatMap]
  simp only [Function.comp_def, hcategory]
  cases k <;> simp [Category.all]

lemma mem_positive_iff {counts : CategoryCounts} {k : Category} {n : Nat} :
    (k, n) ∈ counts.positive ↔ 0 < n ∧ n = counts.of k := by
  have hlisted : (k, n) ∈ [Category.arithmetic, .boolean, .matrix, .scalar].map
      (fun l => (l, counts.of l)) ↔ n = counts.of k := by
    cases k <;> simp
  rw [CategoryCounts.positive, List.mem_filter, hlisted, and_comm, decide_eq_true_iff]

/-- **The statistics of a generation.**  A generation that gives an artifact counted

* as many functions as the coverage of the catalog comes to, in all and in each category, where
  a category is listed exactly if the count is positive;
* as derived functions the variants of the operations, over the types that they exist for;
* the sections that the header is made of, and the bytes of its text;
* and as functions and declarations together the distinct names that it claimed. -/
theorem stats_of_generate {a : Artifact} (h : generate catalog t detection c = .ok a) :
    a.stats.functions = ((catalog.coverage t).map (·.2)).sum ∧
    (∀ k n, (k, n) ∈ a.stats.byCategory.positive ↔
      0 < n ∧ n = (((catalog.coverage t).filter fun (o, _) => o.category == k).map (·.2)).sum) ∧
    a.stats.derived = (catalog.operations.map fun o =>
      ((t.combinations.filter o.appliesTo).map fun ty => (o.variants ty.shape).length).sum).sum ∧
    a.stats.sections = sectionOrder.length ∧
    a.stats.bytes = a.text.utf8ByteSize ∧
    ∃ header s, build catalog t detection c = .ok (header, s) ∧ a = .of header s ∧
      a.stats.functions + a.stats.declarations = s.names.names.toFinset.card := by
  obtain ⟨-, hall, -, -⟩ := exists_generate_eq_ok_iff.1 ⟨a, h⟩
  obtain ⟨hvalid, s, hrun, rfl⟩ := generate_eq_ok_iff.1 h
  obtain ⟨hstats, hnames⟩ := runEvents_eq_ok hrun
  have haccounts : Accounts s.stats (stepsOf (trace catalog t detection c)) :=
    hstats ▸ accounts_foldl _
  have hcoverage (os : List Operation) :
      (os.flatMap (operationKeys t)).length = (os.map fun o => Catalog.functionCount o t).sum := by
    simp only [List.length_flatMap, length_operationKeys]
  refine ⟨?_, fun k n => ?_, ?_, ?_, rfl, _, s, ?_, rfl, ?_⟩
  · have hperm := (perm_definitions hall).length_eq
    rw [List.length_map, ← haccounts.functions, hcoverage] at hperm
    rw [Catalog.coverage, List.map_map]
    exact hperm
  · have hk : k ∈ Category.all := by cases k <;> decide
    have hperm := (perm_functionsOf hall hk).length_eq
    rw [List.length_map, ← countP_category_definitions, ← haccounts.byCategory, hcoverage] at hperm
    rw [Artifact.of, mem_positive_iff, hperm, Catalog.coverage, List.filter_map, List.map_map]
    rfl
  · have hperm := (perm_definitions hall).countP_eq SymbolKey.isDerived
    rw [List.countP_map, List.countP_flatMap] at hperm
    simp only [Function.comp_def, countP_isDerived_operationKeys] at hperm
    exact haccounts.derived.trans hperm
  · exact haccounts.sections.trans (length_sizes_trace catalog t detection c)
  · exact build_eq_ok_iff.2 ⟨hvalid, hrun, rfl⟩
  -- No name is claimed twice, so there are as many names as claims.
  · have hnodup : (claimedNames (trace catalog t detection c)).Nodup :=
      (firstFault_eq_none_iff.1 (runEvents_eq_ok_iff.1 ⟨s, hrun⟩)).2.2.1
    have hfresh : s.names.names = (claimedNames (trace catalog t detection c)).reverse :=
      hnames.trans (List.append_nil _)
    rw [hfresh, List.toFinset_card_of_nodup (List.nodup_reverse.2 hnodup), List.length_reverse,
      length_claimedNames, ← haccounts.functions, ← haccounts.declarations]
    rfl

/-- The functions of a small header: three declared ones, and three derived ones. -/
theorem stats_of_generate_small :
    ∃ a, generate smallCatalog (.ofList [.bool]) smallDetection smallConfig = .ok a ∧
      a.stats.functions = 6 ∧ a.stats.derived = 3 ∧ (.boolean, 6) ∈ a.stats.byCategory.positive ∧
      a.stats.sections = 10 := by
  obtain ⟨a, ha⟩ := exists_generate_small
  obtain ⟨hfunctions, hcategory, hderived, hsections, -⟩ := stats_of_generate ha
  refine ⟨a, ha, hfunctions.trans ?_, hderived.trans ?_, (hcategory _ _).2 ⟨by decide, ?_⟩,
    hsections⟩
  · decide
  · decide
  · decide

end Statistics

end MathHeader
