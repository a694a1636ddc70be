import MathHeader.Proofs.Generation.Event

/-!
# The trace of a generation

`trace` is the list of the events of a generation, written down without running it, and `headerOf`
is the header that the generation gives when no event fails.  The main lemma `build_eq` says that
`build` runs its trace and nothing else: its nested recursions over sections, categories, requests
and functions are one run of a flat list.

`events` lists the same claims and instantiations in the words of the header: the guard, the names
of the detection block, the aliases, and so on down to the functions.  The ends of sections are left
out, which neither fail nor claim anything.  `generate_outcome` is the criterion for a whole
generation: it succeeds exactly if the settings are valid, every instantiation gives functions, and
the claimed names are distinct identifiers, and otherwise it fails with the earliest fault.
-/

namespace MathHeader

open Preprocessor

/-! ## The trace -/

/-- The event that claims a name for a macro, structure or type. -/
def declareEvent (claim : String × String) : Event :=
  .declare claim.1 claim.2

/-- The event that claims the name of a function. -/
def defineEvent (category : Category) (f : FunctionSymbol) : Event :=
  .define category f.key f.name

def Section.events (part : Section) : List Event :=
  part.declared.map declareEvent ++ [.finish part.title part.size]

/-- The functions that an operation gives for a type; none if it cannot be instantiated. -/
def returned (o : Operation) (ty : ShapedType) : List FunctionSymbol :=
  match o.instantiate ty with
  | .ok fs => fs
  | .error _ => []

/-- The events of a request: an instantiation, and the claims of the functions that it gives. -/
def requestEvents (category : Category) (r : Operation × ShapedType) : List Event :=
  .instantiate r.1 r.2 :: (returned r.1 r.2).map (defineEvent category)

def functionsOf (catalog : Catalog) (t : Taxonomy) (category : Category) : List FunctionSymbol :=
  (requests catalog t category).flatMap fun r => returned r.1 r.2

def categoryTrace (catalog : Catalog) (t : Taxonomy) (specifier : String) (category : Category) :
    List Event :=
  (requests catalog t category).flatMap (requestEvents category) ++
    [.finish category.title
      (Text.unlines (functionLines specifier (functionsOf catalog t category))).utf8ByteSize]

/-- The events of a generation. -/
def trace (catalog : Catalog) (t : Taxonomy) (detection : List Node) (c : Config) : List Event :=
  .declare c.guard "include guard" ::
    ((declarationSections t detection c).flatMap Section.events ++
      Category.all.flatMap (categoryTrace catalog t c.specifier))

/-- The header of a generation in which no event fails. -/
def headerOf (catalog : Catalog) (t : Taxonomy) (detection : List Node) (c : Config) : Header :=
  ⟨c, declarationSections t detection c, Category.all.map fun k => (k, functionsOf catalog t k)⟩

/-! ## A generation is the run of its trace -/

lemma Session.declareAll_eq (s : Session) (declared : List (String × String)) :
    s.declareAll declared = runEvents s (declared.map declareEvent) := by
  induction declared generalizing s with
  | nil => rfl
  | cons claim rest ih =>
      rw [List.map_cons, runEvents, Session.declareAll]
      exact bind_congr fun s => ih s

lemma Session.defineAll_eq (s : Session) (category : Category) (fs : List FunctionSymbol) :
    s.defineAll category fs = runEvents s (fs.map (defineEvent category)) := by
  induction fs generalizing s with
  | nil => rfl
  | cons f fs ih =>
      rw [List.map_cons, runEvents, Session.defineAll]
      exact bind_congr fun s => ih s

lemma Session.declareSection_eq (s : Session) (part : Section) :
    s.declareSection part = runEvents s part.events := by
  rw [Section.events, runEvents_append, Session.declareSection, Session.declareAll_eq]
  rfl

lemma Session.declareSections_eq (s : Session) (parts : List Section) :
    s.declareSections parts = runEvents s (parts.flatMap Section.events) := by
  induction parts generalizing s with
  | nil => rfl
  | cons part parts ih =>
      rw [List.flatMap_cons, runEvents_append, Session.declareSections, Session.declareSection_eq]
      exact bind_congr fun s => ih s

lemma instantiateAll_eq (category : Category) (s : Session) (rs : List (Operation × ShapedType)) :
    instantiateAll category s rs =
      runEvents s (rs.flatMap (requestEvents category)) >>= fun s =>
        pure (rs.flatMap fun r => returned r.1 r.2, s) := by
  induction rs generalizing s with
  | nil => rfl
  | cons r rs ih =>
      obtain ⟨o, ty⟩ := r
      rw [List.flatMap_cons, runEvents_append, List.flatMap_cons, instantiateAll, requestEvents,
        returned, runEvents, Event.apply]
      cases o.instantiate ty with
      | error e => rfl
      | ok fs =>
          simp only [Session.defineAll_eq, ih, bind_assoc, pure_bind]
          rfl

lemma instantiateCategories_eq (catalog : Catalog) (t : Taxonomy) (specifier : String)
    (s : Session) (ks : List Category) :
    instantiateCategories catalog t specifier s ks =
      runEvents s (ks.flatMap (categoryTrace catalog t specifier)) >>= fun s =>
        pure (ks.map fun k => (k, functionsOf catalog t k), s) := by
  induction ks generalizing s with
  | nil => rfl
  | cons k ks ih =>
      rw [List.flatMap_cons, runEvents_append, categoryTrace, runEvents_append,
        instantiateCategories, instantiateAll_eq]
      simp only [ih, bind_assoc, pure_bind, runEvents, Event.apply]
      rfl

/-- **A generation is the run of its trace.**  After the settings have been checked, `build`
performs the events of its trace in order and gives the header that they stand for. -/
theorem build_eq (catalog : Catalog) (t : Taxonomy) (detection : List Node) (c : Config) :
    build catalog t detection c =
      c.validate >>= fun _ => runEvents .fresh (trace catalog t detection c) >>= fun s =>
        pure (headerOf catalog t detection c, s) := by
  rw [trace, runEvents]
  simp only [build, Session.declareSections_eq, instantiateCategories_eq, runEvents_append,
    Event.apply, bind_assoc, pure_bind]
  rfl

/-- A header is built if the settings are valid and the run of the trace ends well, and then it is
the one that the trace stands for. -/
lemma build_eq_ok_iff {catalog : Catalog} {t : Taxonomy} {detection : List Node} {c : Config}
    {header : Header} {s : Session} :
    build catalog t detection c = .ok (header, s) ↔
      c.validate = .ok () ∧ runEvents .fresh (trace catalog t detection c) = .ok s ∧
        header = headerOf catalog t detection c := by
  simp only [build_eq, bind_eq_ok_iff]
  constructor
  · rintro ⟨⟨⟩, hvalid, s', hs, h⟩
    cases h
    exact ⟨hvalid, hs, rfl⟩
  · rintro ⟨hvalid, hs, rfl⟩
    exact ⟨(), hvalid, s, hs, rfl⟩

/-! ## Claims and instantiations in the order of the header -/

/-- The claims of declarations: the guard, the detection macros, the aliases and the specifier, the
overlays and their casts, tag and name of each structure, the constructors, the constants and the
utility macros. -/
def declarationClaims (t : Taxonomy) (detection : List Node) (c : Config) :
    List (String × String) :=
  (c.guard, "include guard") ::
    (ownedBy "detection macro" (definedNames detection) ++
    ownedBy "primitive type" ((Scalar.all.filter Scalar.isNumeric).map Scalar.token ++ ["usize"]) ++
    ownedBy "inline specifier" [c.specifier] ++
    ownedBy "overlay type" Storage.overlayNames ++
    ownedBy "bit-cast macro" (Storage.BitCast.all.map (·.name)) ++
    (t.declared.flatMap fun ty =>
      [(Storage.recordTag ty, "shape struct"), (ty.token, "shape type")]) ++
    ownedBy "constructor" ((constructors t).map (·.name)) ++
    ownedBy "constant" (constants.map (·.name)) ++
    ownedBy "utility macro" (utilities.map (·.name)))

/-- The claims and instantiations of a generation in order: the claims of declarations, and then for
each category, each type and each operation that exists for it the events of that request. -/
def events (catalog : Catalog) (t : Taxonomy) (detection : List Node) (c : Config) : List Event :=
  (declarationClaims t detection c).map declareEvent ++
    Category.all.flatMap fun k => t.combinations.flatMap fun ty =>
      (catalog.operationsFor k ty).flatMap fun o => requestEvents k (o, ty)

lemma Section.filter_events (part : Section) :
    part.events.filter (!·.isFinish) = part.declared.map declareEvent := by
  have hdeclared : ∀ ev ∈ part.declared.map declareEvent, (!ev.isFinish) = true := by
    intro ev hev
    obtain ⟨claim, -, rfl⟩ := List.mem_map.1 hev
    rfl
  rw [Section.events, List.filter_append, List.filter_eq_self.2 hdeclared]
  exact List.append_nil _

lemma filter_requestEvents (category : Category) (r : Operation × ShapedType) :
    (requestEvents category r).filter (!·.isFinish) = requestEvents category r := by
  refine List.filter_eq_self.2 fun ev hev => ?_
  rcases List.mem_cons.1 hev with rfl | hev
  · rfl
  · obtain ⟨f, -, rfl⟩ := List.mem_map.1 hev
    rfl

lemma filter_categoryTrace (catalog : Catalog) (t : Taxonomy) (specifier : String)
    (category : Category) :
    (categoryTrace catalog t specifier category).filter (!·.isFinish) =
      t.combinations.flatMap fun ty =>
        (catalog.operationsFor category ty).flatMap fun o => requestEvents category (o, ty) := by
  rw [categoryTrace, List.filter_append, List.filter_flatMap, requests, List.flatMap_assoc]
  simp only [filter_requestEvents, List.flatMap_map]
  exact List.append_nil _

/-- Without the ends of sections the trace of a generation is its list of events. -/
lemma filter_trace (catalog : Catalog) (t : Taxonomy) (detection : List Node) (c : Config) :
    (trace catalog t detection c).filter (!·.isFinish) = events catalog t detection c := by
  have hsections : (declarationSections t detection c).flatMap
      (fun part => part.declared.map declareEvent) =
        (declarationClaims t detection c).tail.map declareEvent := by
    simp only [declarationSections, declarationClaims, List.flatMap_cons, List.flatMap_nil,
      List.append_nil, List.tail_cons, List.map_append, List.append_assoc]
    rfl
  rw [trace, List.filter_cons_of_pos rfl, List.filter_append, List.filter_flatMap,
    List.filter_flatMap]
  simp only [Section.filter_events, filter_categoryTrace, hsections]
  rfl

lemma firstFault_trace (catalog : Catalog) (t : Taxonomy) (detection : List Node) (c : Config) :
    firstFault [] (trace catalog t detection c) = firstFault [] (events catalog t detection c) := by
  rw [← filter_trace, firstFault_filter_isFinish]

/-! ## Requests and functions -/

section Requests

variable {catalog : Catalog} {t : Taxonomy} {detection : List Node} {c : Config}

lemma mem_requests {k : Category} {o : Operation} {ty : ShapedType} :
    (o, ty) ∈ requests catalog t k ↔ ty ∈ t.combinations ∧ o ∈ catalog.operationsFor k ty := by
  simp only [requests, List.mem_flatMap, List.mem_map, Prod.mk.injEq]
  constructor
  · rintro ⟨ty', hty, o', ho, rfl, rfl⟩
    exact ⟨hty, ho⟩
  · rintro ⟨hty, ho⟩
    exact ⟨ty, hty, o, ho, rfl, rfl⟩

/-- The instantiations among the events are those of requests. -/
lemma instantiate_mem_events_iff {o : Operation} {ty : ShapedType} :
    .instantiate o ty ∈ events catalog t detection c ↔
      ∃ k ∈ Category.all, (o, ty) ∈ requests catalog t k := by
  simp only [events, List.mem_append, List.mem_flatMap, mem_requests]
  constructor
  · rintro (h | ⟨k, hk, ty', hty', o', ho', h⟩)
    · obtain ⟨claim, -, hclaim⟩ := List.mem_map.1 h
      cases hclaim
    rcases List.mem_cons.1 h with heq | h
    · cases heq
      exact ⟨k, hk, hty', ho'⟩
    · obtain ⟨f, -, hf⟩ := List.mem_map.1 h
      cases hf
  · rintro ⟨k, hk, hty, ho⟩
    exact .inr ⟨k, hk, ty, hty, o, ho, List.mem_cons_self⟩

lemma functionsOf_eq (catalog : Catalog) (t : Taxonomy) (k : Category) :
    functionsOf catalog t k = t.combinations.flatMap fun ty =>
      (catalog.operationsFor k ty).flatMap fun o => returned o ty := by
  rw [functionsOf, requests, List.flatMap_assoc]
  simp only [List.flatMap_map]

lemma fits_of_mem_functionsOf {k : Category} {f : FunctionSymbol}
    (h : f ∈ functionsOf catalog t k) :
    ∃ o ∈ catalog.operations, ∃ ty ∈ t.combinations, f.Fits o ty := by
  obtain ⟨⟨o, ty⟩, hrequest, hf⟩ := List.mem_flatMap.1 h
  obtain ⟨hty, ho⟩ := mem_requests.1 hrequest
  refine ⟨o, (List.mem_filter.1 ho).1, ty, hty, ?_⟩
  unfold returned at hf
  split at hf
  next fs hfs => exact Operation.fits_of_instantiate hfs hf
  next => cases hf

/-- If everything can be instantiated, the functions of a category are those that the catalog has
in it. -/
lemma map_key_functionsOf_of_mem (h : AllInstantiate (events catalog t detection c)) {k : Category}
    (hk : k ∈ Category.all) :
    (functionsOf catalog t k).map (·.key) =
      t.combinations.flatMap fun ty => (catalog.operationsFor k ty).flatMap fun o =>
        (Variant.base :: o.variants ty.shape).map (⟨o.name, ty, ·⟩) := by
  simp only [functionsOf_eq, List.map_flatMap]
  refine List.flatMap_congr fun ty hty => List.flatMap_congr fun o ho => ?_
  obtain ⟨fs, hfs⟩ := h o ty (instantiate_mem_events_iff.2 ⟨k, hk, mem_requests.2 ⟨hty, ho⟩⟩)
  rw [returned, hfs, Operation.map_key_of_instantiate hfs]

/-- If everything can be instantiated, the functions are those that the catalog has. -/
lemma map_key_functionsOf (h : AllInstantiate (events catalog t detection c)) :
    (Category.all.flatMap fun k => (functionsOf catalog t k).map (·.key)) =
      functionKeys catalog t :=
  List.flatMap_congr fun _ hk => map_key_functionsOf_of_mem h hk

/-- If everything can be instantiated, the names of functions are those of the functions that the
catalog has. -/
lemma map_name_functionsOf (h : AllInstantiate (events catalog t detection c)) :
    (Category.all.flatMap fun k => (functionsOf catalog t k).map (·.name)) =
      (functionKeys catalog t).map SymbolKey.name := by
  rw [← map_key_functionsOf h, List.map_flatMap]
  refine List.flatMap_congr fun k _ => ?_
  rw [List.map_map]
  refine List.map_congr_left fun f hf => ?_
  obtain ⟨o, -, ty, -, hfits⟩ := fits_of_mem_functionsOf hf
  exact hfits.name

end Requests

/-! ## Names that are claimed -/

def functionClaim (f : FunctionSymbol) : String × String :=
  (f.name, f.key.describe)

/-- The functions of a header, category by category. -/
def allFunctions (catalog : Catalog) (t : Taxonomy) : List FunctionSymbol :=
  Category.all.flatMap (functionsOf catalog t)

lemma claims_map_declareEvent (declared : List (String × String)) :
    claims (declared.map declareEvent) = declared := by
  rw [claims, List.filterMap_map]
  exact List.filterMap_some

lemma claims_requestEvents (category : Category) (r : Operation × ShapedType) :
    claims (requestEvents category r) = (returned r.1 r.2).map functionClaim := by
  rw [claims, requestEvents, List.filterMap_cons_none rfl, List.filterMap_map]
  exact congrFun List.filterMap_eq_map' _

/-- **What is claimed.**  A generation claims the names of declarations, and then those of
functions. -/
lemma claims_events (catalog : Catalog) (t : Taxonomy) (detection : List Node) (c : Config) :
    claims (events catalog t detection c) =
      declarationClaims t detection c ++ (allFunctions catalog t).map functionClaim := by
  rw [events, claims_append, claims_map_declareEvent]
  simp only [claims_flatMap, claims_requestEvents, allFunctions, functionsOf_eq, List.map_flatMap]

lemma map_fst_declarationClaims (t : Taxonomy) (detection : List Node) (c : Config) :
    (declarationClaims t detection c).map (·.1) =
      c.guard :: (definedNames detection ++ primitiveNames ++ [c.specifier] ++
        Storage.overlayNames ++ Storage.BitCast.all.map (·.name) ++
        (t.declared.flatMap fun ty => [Storage.recordTag ty, ty.token]) ++
        (constructors t).map (·.name) ++ constants.map (·.name) ++ utilities.map (·.name)) := by
  have hprimitives : (Scalar.all.filter Scalar.isNumeric).map Scalar.token ++ ["usize"] =
      primitiveNames := by decide
  simp only [declarationClaims, ownedBy, hprimitives, List.map_cons, List.map_append,
    List.map_flatMap, List.map_map, Function.comp_def, List.map_id', List.map_nil]

lemma claimedNames_events (catalog : Catalog) (t : Taxonomy) (detection : List Node) (c : Config) :
    claimedNames (events catalog t detection c) =
      (declarationClaims t detection c).map (·.1) ++
        Category.all.flatMap fun k => (functionsOf catalog t k).map (·.name) := by
  rw [claimedNames, claims_events, List.map_append, List.map_map, allFunctions, List.map_flatMap]
  rfl

/-- The names that are counted as declarations: requests declare none. -/
lemma declaredNames_events (catalog : Catalog) (t : Taxonomy) (detection : List Node)
    (c : Config) :
    declaredNames (events catalog t detection c) = (declarationClaims t detection c).map (·.1) := by
  have hrequests : declaredNames (Category.all.flatMap fun k => t.combinations.flatMap fun ty =>
      (catalog.operationsFor k ty).flatMap fun o => requestEvents k (o, ty)) = [] := by
    refine List.filterMap_eq_nil_iff.2 fun ev hev => ?_
    simp only [List.mem_flatMap] at hev
    obtain ⟨k, -, ty, -, o, -, hev⟩ := hev
    rcases List.mem_cons.1 hev with rfl | hev
    · rfl
    · obtain ⟨f, -, rfl⟩ := List.mem_map.1 hev
      rfl
  rw [events, declaredNames_append, hrequests, List.append_nil, declaredNames, List.filterMap_map]
  exact congrFun List.filterMap_eq_map' _

/-! ## The criterion -/

lemma generate_eq (catalog : Catalog) (t : Taxonomy) (detection : List Node) (c : Config) :
    generate catalog t detection c =
      c.validate >>= fun _ => runEvents .fresh (trace catalog t detection c) >>= fun s =>
        pure (.of (headerOf catalog t detection c) s) := by
  rw [generate, build_eq]
  simp only [bind_assoc, pure_bind]

/-- A generation ends well if the settings are valid and the run of its trace does. -/
lemma generate_eq_ok_iff {catalog : Catalog} {t : Taxonomy} {detection : List Node} {c : Config}
    {a : Artifact} :
    generate catalog t detection c = .ok a ↔
      c.validate = .ok () ∧ ∃ s, runEvents .fresh (trace catalog t detection c) = .ok s ∧
        a = .of (headerOf catalog t detection c) s := by
  simp only [generate_eq, bind_eq_ok_iff]
  constructor
  · rintro ⟨⟨⟩, hvalid, s, hs, h⟩
    cases h
    exact ⟨hvalid, s, hs, rfl⟩
  · rintro ⟨hvalid, s, hs, rfl⟩
    exact ⟨(), hvalid, s, hs, rfl⟩

/-- A generation whose events have no fault ends well; for given inputs this can be computed. -/
lemma exists_generate_of_firstFault {catalog : Catalog} {t : Taxonomy} {detection : List Node}
    {c : Config} (hvalid : c.validate = .ok ())
    (h : (firstFault [] (events catalog t detection c)).isNone = true) :
    ∃ a, generate catalog t detection c = .ok a := by
  rw [Option.isNone_iff_eq_none, ← firstFault_trace, ← runEvents_eq_ok_iff] at h
  obtain ⟨s, hs⟩ := h
  exact ⟨_, generate_eq_ok_iff.2 ⟨hvalid, s, hs, rfl⟩⟩

lemma generate_eq_error_iff {catalog : Catalog} {t : Taxonomy} {detection : List Node}
    {c : Config} {e : GenError} :
    generate catalog t detection c = .error e ↔
      c.validate = .error e ∨
        c.validate = .ok () ∧ FaultsFirst (events catalog t detection c) e := by
  rw [← firstFault_eq_some_iff, ← firstFault_trace, ← runEvents_eq_error_iff]
  simp only [generate_eq, bind_eq_error_iff]
  constructor
  · rintro (h | ⟨⟨⟩, hvalid, h | ⟨s, -, h⟩⟩)
    · exact .inl h
    · exact .inr ⟨hvalid, h⟩
    · cases h
  · rintro (h | ⟨hvalid, h⟩)
    · exact .inl h
    · exact .inr ⟨(), hvalid, .inl h⟩

/-- A generation gives an artifact exactly if nothing among its events has a fault. -/
lemma exists_generate_eq_ok_iff {catalog : Catalog} {t : Taxonomy} {detection : List Node}
    {c : Config} :
    (∃ a, generate catalog t detection c = .ok a) ↔
      c.validate = .ok () ∧ AllInstantiate (events catalog t detection c) ∧
        (∀ name ∈ claimedNames (events catalog t detection c), isIdentifier name = true) ∧
        (claimedNames (events catalog t detection c)).Nodup := by
  have hevents : firstFault [] (events catalog t detection c) = none ↔
      AllInstantiate (events catalog t detection c) ∧
        (∀ name ∈ claimedNames (events catalog t detection c), isIdentifier name = true) ∧
        (claimedNames (events catalog t detection c)).Nodup := by
    rw [firstFault_eq_none_iff]
    simp
  rw [← hevents, ← firstFault_trace, ← runEvents_eq_ok_iff]
  constructor
  · rintro ⟨a, ha⟩
    obtain ⟨hvalid, s, hs, -⟩ := generate_eq_ok_iff.1 ha
    exact ⟨hvalid, s, hs⟩
  · rintro ⟨hvalid, s, hs⟩
    exact ⟨_, generate_eq_ok_iff.2 ⟨hvalid, s, hs, rfl⟩⟩

/-- **The outcome of a generation.**  A generation gives an artifact exactly if the settings are
valid, every operation that is asked for can be instantiated, and the claimed names are identifiers
and distinct.  Otherwise it fails with the fault of the settings, or else with the fault of the
earliest event that has one, where a name that cannot be declared is refused before it is looked up.
A collision names the first claimant of a name and the second one. -/
theorem generate_outcome (catalog : Catalog) (t : Taxonomy) (detection : List Node) (c : Config) :
    ((∃ a, generate catalog t detection c = .ok a) ↔
      c.validate = .ok () ∧ AllInstantiate (events catalog t detection c) ∧
        (∀ name ∈ claimedNames (events catalog t detection c), isIdentifier name = true) ∧
        (claimedNames (events catalog t detection c)).Nodup) ∧
    (∀ e, generate catalog t detection c = .error e ↔
      c.validate = .error e ∨
        c.validate = .ok () ∧ FaultsFirst (events catalog t detection c) e) ∧
    ∀ name first second,
      generate catalog t detection c = .error (.nameCollision name first second) →
        ∃ before between after,
          claims (events catalog t detection c) =
            before ++ (name, first) :: between ++ (name, second) :: after ∧
          ((before ++ (name, first) :: between).map (·.1)).Nodup := by
  refine ⟨exists_generate_eq_ok_iff, fun e => generate_eq_error_iff, ?_⟩
  intro name first second h
  rcases generate_eq_error_iff.1 h with h | ⟨-, hfirst⟩
  · -- The check of the settings never reports a collision.
    unfold Config.validate at h
    split at h
    next => cases h
    next => split at h <;> cases h
  · exact hfirst.collision

end MathHeader
