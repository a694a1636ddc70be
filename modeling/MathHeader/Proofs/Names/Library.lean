import MathHeader.Header.Generation
import MathHeader.Proofs.Catalog.Standard
import MathHeader.Proofs.Names.Collision
import Mathlib.Data.List.Pairwise

/-!
# The names of a header

Beside the guard and the specifier, which its user chooses, a header claims names of four kinds:
names that are always the same, names of types and their structures, names of constructors, and
names of functions.  The kind of a name shows in its spelling.  Functions and constructors start
with `rm_`, and a function has another underscore after it; types and constructors have an `x` in
them, and fixed names have none outside of functions.  So names of different kinds never meet, and
it remains to tell the names of one kind apart.

For the standard catalog and any taxonomy all of them are identifiers, and no two are equal:
`isIdentifier_of_mem_libraryNames` and `nodup_libraryNames`.
-/

namespace MathHeader

/-! ## The names of a header -/

/-- The names that every header claims: the macros of the detection block, the aliases of scalar
types, the overlays and their casts, the component lists, the constants and the utility macros. -/
def fixedNames : List String :=
  Preprocessor.definedNames Detection.block ++ primitiveNames ++ Storage.overlayNames ++
    Storage.BitCast.all.map (·.name) ++ Width.all.map (fun w => (componentList w).name) ++
    constants.map (·.name) ++ utilities.map (·.name)

/-- The tags and the names of the structures of a taxonomy. -/
def typeNames (t : Taxonomy) : List String :=
  t.declared.flatMap fun ty => [Storage.recordTag ty, ty.token]

def constructorNames (t : Taxonomy) : List String :=
  t.vectorElements.flatMap fun s => Width.all.flatMap fun w =>
    (vectorConstructors s w).map (·.name)

/-- The names that a header claims beside the guard and the specifier. -/
def libraryNames (catalog : Catalog) (t : Taxonomy) : List String :=
  fixedNames ++ typeNames t ++ constructorNames t ++ (functionKeys catalog t).map SymbolKey.name

/-! ## Kinds of names -/

/-- What a name of a header stands for. -/
inductive NameKind where
  | fixed
  | type
  | constructor
  | function
deriving DecidableEq, Repr

/-- The kind that shows in the spelling of a name. -/
def nameKind (name : String) : NameKind :=
  match name.toList with
  | 'r' :: 'm' :: '_' :: rest =>
    if rest.contains '_' then .function else if rest.contains 'x' then .constructor else .fixed
  | cs => if cs.contains 'x' then .type else .fixed

/-- The characters in front of the names of constructors and functions. -/
def libraryPrefix : List Char :=
  ['r', 'm', '_']

lemma nameKind_function {name : String} {rest : List Char}
    (hname : name.toList = libraryPrefix ++ rest) (hmark : '_' ∈ rest) :
    nameKind name = .function := by
  have hrest : name.toList = 'r' :: 'm' :: '_' :: rest := hname
  simp [nameKind, hrest, hmark]

lemma nameKind_constructor {name : String} {rest : List Char}
    (hname : name.toList = libraryPrefix ++ rest) (hmark : '_' ∉ rest) (hx : 'x' ∈ rest) :
    nameKind name = .constructor := by
  have hrest : name.toList = 'r' :: 'm' :: '_' :: rest := hname
  simp [nameKind, hrest, hmark, hx]

lemma nameKind_type {name : String} (hhead : name.toList.head? ≠ some 'r')
    (hx : 'x' ∈ name.toList) : nameKind name = .type := by
  unfold nameKind
  split
  next rest hname => simp [hname] at hhead
  next => simp [hx]

/-- A name after `rm_` is no keyword. -/
lemma isIdentifier_of_libraryPrefix {name : String} {rest : List Char}
    (hname : name.toList = libraryPrefix ++ rest) (hrest : rest.all isWordChar = true) :
    isIdentifier name = true := by
  have hword : isWord name.toList = true := by
    rw [hname]
    exact isWord_append (by decide) hrest
  refine isIdentifier_of_isWord hword (c := '_') ?_ (by decide)
  rw [hname]
  exact List.mem_append_left rest (by decide)

/-! ## Fixed names -/

lemma fixedNames_spec : ∀ name ∈ fixedNames, isIdentifier name = true ∧ nameKind name = .fixed := by
  decide

lemma nodup_fixedNames : fixedNames.Nodup := by
  decide

/-! ## Types -/

lemma nodup_scalars (t : Taxonomy) : t.scalars.Nodup :=
  List.Nodup.sublist t.sublist (by decide)

lemma nodup_vectorElements (t : Taxonomy) : t.vectorElements.Nodup :=
  List.Nodup.sublist List.filter_sublist (by decide)

lemma nodup_shapedTypes {ss : List Scalar} {shapes : List Shape} (hs : ss.Nodup)
    (hshapes : shapes.Nodup) : (ss.flatMap fun s => shapes.map (ShapedType.mk s)).Nodup := by
  rw [List.nodup_flatMap]
  constructor
  · intro s _
    exact hshapes.map fun _ _ h => (ShapedType.mk.inj h).2
  · refine hs.imp fun {s s'} hne => ?_
    intro ty hty hty'
    obtain ⟨shape, -, rfl⟩ := List.mem_map.1 hty
    obtain ⟨shape', -, h⟩ := List.mem_map.1 hty'
    exact hne (ShapedType.mk.inj h).1.symm

lemma nodup_combinations (t : Taxonomy) : t.combinations.Nodup :=
  nodup_shapedTypes (nodup_scalars t) (by decide)

/-- The types with a structure are distinct: the vectors are, the matrices are, and no vector is a
matrix. -/
lemma nodup_declared (t : Taxonomy) : t.declared.Nodup := by
  have hshapes : (Width.all.map Shape.vector).Nodup := by decide
  have hvectors : (t.vectorElements.flatMap fun s =>
      Width.all.map fun w => ShapedType.ofWidth s w).Nodup :=
    nodup_shapedTypes (nodup_vectorElements t) hshapes
  refine List.nodup_append'.2 ⟨hvectors, (nodup_combinations t).filter _, ?_⟩
  intro ty hvector hmatrix
  obtain ⟨s, -, hty⟩ := List.mem_flatMap.1 hvector
  obtain ⟨w, -, rfl⟩ := List.mem_map.1 hty
  exact Bool.false_ne_true (List.mem_filter.1 hmatrix).2

lemma shape_ne_scalar_of_mem_declared {t : Taxonomy} {ty : ShapedType} (h : ty ∈ t.declared) :
    ty.shape ≠ .scalar := by
  rcases Taxonomy.mem_declared.1 h with ⟨s, -, w, rfl⟩ | ⟨-, hmatrix⟩
  · exact Shape.noConfusion
  · intro hscalar
    rw [hscalar] at hmatrix
    exact Bool.false_ne_true hmatrix

/-- The token of a type with a structure: the token of its elements, an `x`, and what follows. -/
lemma suffix_of_ne_scalar {ty : ShapedType} (h : ty.shape ≠ .scalar) :
    'x' ∈ ty.token.toList ∧ ∃ c ∈ ty.token.toList, c.isLower = false := by
  obtain ⟨hhead, c, hc, hlower⟩ := ty.shape.suffix_head.resolve_left h
  rw [ShapedType.toList_token]
  exact ⟨List.mem_append_right _ (List.mem_of_mem_head? hhead), c,
    List.mem_append_right _ hc, hlower⟩

lemma head?_token_append_ne (ty : ShapedType) (rest : List Char) :
    (ty.token.toList ++ rest).head? ≠ some 'r' := by
  have hhead (s : Scalar) (cs : List Char) : (s.token.toList ++ cs).head? ≠ some 'r' := by
    cases s <;> simp [Scalar.token]
  rw [ShapedType.toList_token, List.append_assoc]
  exact hhead ty.element _

lemma toList_recordTag (ty : ShapedType) :
    (Storage.recordTag ty).toList = ty.token.toList ++ ['_', 't'] :=
  String.toList_append

lemma mem_typeNames {t : Taxonomy} {name : String} :
    name ∈ typeNames t ↔
      ∃ ty ∈ t.declared, name = Storage.recordTag ty ∨ name = ty.token := by
  simp [typeNames]

lemma typeNames_spec {t : Taxonomy} {name : String} (h : name ∈ typeNames t) :
    isIdentifier name = true ∧ nameKind name = .type := by
  obtain ⟨ty, hty, hname⟩ := mem_typeNames.1 h
  obtain ⟨hx, c, hc, hlower⟩ := suffix_of_ne_scalar (shape_ne_scalar_of_mem_declared hty)
  -- Both names are the token with something after it.
  obtain ⟨rest, hrest, hlist⟩ : ∃ rest, rest.all isWordChar = true ∧
      name.toList = ty.token.toList ++ rest := by
    rcases hname with rfl | rfl
    · exact ⟨['_', 't'], by decide, toList_recordTag ty⟩
    · exact ⟨[], rfl, (List.append_nil _).symm⟩
  have hword : isWord name.toList = true := hlist ▸ isWord_append ty.isWord_token hrest
  have hmem {d : Char} (hd : d ∈ ty.token.toList) : d ∈ name.toList :=
    hlist ▸ List.mem_append_left rest hd
  exact ⟨isIdentifier_of_isWord hword (hmem hc) hlower,
    nameKind_type (hlist ▸ head?_token_append_ne ty rest) (hmem hx)⟩

lemma recordTag_ne_token (ty ty' : ShapedType) : Storage.recordTag ty ≠ ty'.token := by
  intro h
  refine ty'.underscore_notMem_token ?_
  rw [← h, toList_recordTag]
  exact List.mem_append_right _ List.mem_cons_self

lemma recordTag_inj {ty ty' : ShapedType} (h : Storage.recordTag ty = Storage.recordTag ty') :
    ty = ty' := by
  have hlist := congrArg String.toList h
  rw [toList_recordTag, toList_recordTag] at hlist
  exact ShapedType.token_inj (String.toList_inj.1 (List.append_cancel_right hlist))

lemma nodup_typeNames (t : Taxonomy) : (typeNames t).Nodup := by
  rw [typeNames, List.nodup_flatMap]
  constructor
  · intro ty _
    exact List.nodup_cons.2
      ⟨fun h => recordTag_ne_token ty ty (List.mem_singleton.1 h), List.nodup_singleton _⟩
  · refine (nodup_declared t).imp fun {ty ty'} hne name hname hname' => hne ?_
    simp only [List.mem_cons, List.not_mem_nil, or_false] at hname hname'
    rcases hname with rfl | rfl <;> rcases hname' with h | h
    · exact recordTag_inj h
    · exact absurd h (recordTag_ne_token ty ty')
    · exact absurd h.symm (recordTag_ne_token ty' ty)
    · exact ShapedType.token_inj h

/-! ## Constructors -/

lemma map_name_constructors (t : Taxonomy) :
    (constructors t).map (·.name) =
      constructorNames t ++ Width.all.map fun w => (componentList w).name := by
  simp only [constructors, constructorNames, List.map_append, List.map_flatMap, List.map_map]
  rfl

/-- What follows the token of the elements in the names of constructors. -/
def constructorTails : List (List Char) :=
  Width.all.flatMap fun w =>
    ("" :: "s" :: (composites w).map (·.1)).map fun suffix =>
      (Shape.vector w).suffix.toList ++ suffix.toList

lemma constructorTails_spec : ∀ tail ∈ constructorTails,
    tail.all isWordChar = true ∧ '_' ∉ tail ∧ tail.head? = some 'x' := by
  decide

lemma map_toList_constructorNames (t : Taxonomy) :
    (constructorNames t).map String.toList =
      t.vectorElements.flatMap fun s => constructorTails.map fun tail =>
        libraryPrefix ++ (s.token.toList ++ tail) := by
  have hwidth (s : Scalar) (w : Width) :
      ((vectorConstructors s w).map (·.name)).map String.toList =
        ("" :: "s" :: (composites w).map (·.1)).map fun suffix =>
          libraryPrefix ++
            (s.token.toList ++ ((Shape.vector w).suffix.toList ++ suffix.toList)) := by
    simp [vectorConstructors, fullConstructor, splatConstructor, constructorFrom,
      MacroDefinition.function, ShapedType.splatName, ShapedType.constructorName,
      ShapedType.token, libraryPrefix]
  simp only [constructorNames, constructorTails, List.map_flatMap, hwidth, List.map_map]
  rfl

lemma constructorNames_spec {t : Taxonomy} {name : String} (h : name ∈ constructorNames t) :
    isIdentifier name = true ∧ nameKind name = .constructor := by
  have hlist : name.toList ∈ (constructorNames t).map String.toList := List.mem_map_of_mem h
  rw [map_toList_constructorNames] at hlist
  obtain ⟨s, -, hlist⟩ := List.mem_flatMap.1 hlist
  obtain ⟨tail, htail, hlist⟩ := List.mem_map.1 hlist
  obtain ⟨hword, hmark, hhead⟩ := constructorTails_spec tail htail
  have hmark' : '_' ∉ s.token.toList ++ tail := by
    rw [List.mem_append, not_or]
    exact ⟨fun h => absurd (s.token_chars '_' h).1 (by decide), hmark⟩
  have hx : 'x' ∈ s.token.toList ++ tail :=
    List.mem_append_right _ (List.mem_of_mem_head? hhead)
  have hrest : (s.token.toList ++ tail).all isWordChar = true := by
    rw [List.all_append, Bool.and_eq_true]
    exact ⟨all_isWordChar_of_isWord s.isWord_token, hword⟩
  exact ⟨isIdentifier_of_libraryPrefix hlist.symm hrest,
    nameKind_constructor hlist.symm hmark' hx⟩

lemma nodup_constructorNames (t : Taxonomy) : (constructorNames t).Nodup := by
  refine List.Nodup.of_map String.toList ?_
  rw [map_toList_constructorNames, List.nodup_flatMap]
  constructor
  · intro s _
    have htails : constructorTails.Nodup := by decide
    exact htails.map fun _ _ h => List.append_cancel_left (List.append_cancel_left h)
  · refine (nodup_vectorElements t).imp fun {s s'} hne cs hcs hcs' => hne ?_
    obtain ⟨tail, htail, rfl⟩ := List.mem_map.1 hcs
    obtain ⟨tail', htail', h⟩ := List.mem_map.1 hcs'
    -- The elements are what stands in front of the first `x`.
    have hfront := congrArg (List.takeWhile (· != 'x')) (List.append_cancel_left h)
    have htake (s : Scalar) {tail : List Char} (htail : tail ∈ constructorTails) :
        (s.token.toList ++ tail).takeWhile (· != 'x') = s.token.toList :=
      ShapedType.takeWhile_token_append s (.inr (constructorTails_spec tail htail).2.2)
    rw [htake s htail, htake s' htail'] at hfront
    exact (Scalar.token_inj (String.toList_inj.1 hfront)).symm

/-! ## Functions -/

/-- What occurs once in a list of parts belongs to one part. -/
lemma eq_of_mem_of_nodup_flatMap {α β : Type} {parts : α → List β} {ks : List α}
    (h : (ks.flatMap parts).Nodup) {k k' : α} (hk : k ∈ ks) (hk' : k' ∈ ks) {x : β}
    (hx : x ∈ parts k) (hx' : x ∈ parts k') : k = k' := by
  by_contra hne
  have hsymm : Std.Symm (Function.onFun List.Disjoint parts) :=
    ⟨fun _ _ hdisjoint _ hy hy' => hdisjoint hy' hy⟩
  exact (List.nodup_flatMap.1 h).2.forall hk hk' hne hx hx'

section Functions

variable {catalog : Catalog} {t : Taxonomy}

lemma mem_functionKeys {key : SymbolKey} :
    key ∈ functionKeys catalog t ↔
      ∃ k ∈ Category.all, ∃ ty ∈ t.combinations, ∃ o ∈ catalog.operationsFor k ty,
        ∃ v ∈ Variant.base :: o.variants ty.shape, key = ⟨o.name, ty, v⟩ := by
  simp only [functionKeys, List.mem_flatMap, List.mem_map, eq_comm]

/-- The name of a function from the name of its operation, marked, and its type. -/
def markedName (ty : ShapedType) (marked : String) : String :=
  "rm_" ++ marked ++ "_" ++ ty.token

lemma markedName_inj {ty ty' : ShapedType} {marked marked' : String}
    (h : markedName ty marked = markedName ty' marked') : marked = marked' ∧ ty = ty' :=
  SymbolKey.name_inj (k := ⟨marked, ty, .base⟩) (l := ⟨marked', ty', .base⟩) h

lemma map_name_functionKeys (catalog : Catalog) (t : Taxonomy) :
    (functionKeys catalog t).map SymbolKey.name =
      Category.all.flatMap fun k => t.combinations.flatMap fun ty =>
        ((catalog.operationsFor k ty).flatMap fun o =>
          (.base :: o.variants ty.shape).map (·.decorate o.name)).map (markedName ty) := by
  simp only [functionKeys, List.map_flatMap, List.map_map]
  rfl

/-- A name of a function shows that it is one, whatever its operation is called: another underscore
stands in front of its type. -/
lemma nameKind_name (key : SymbolKey) : nameKind key.name = .function :=
  nameKind_function (SymbolKey.toList_name key) (List.mem_append_right _ List.mem_cons_self)

/-- The functions of the standard catalog have names that can be declared and that show what they
are. -/
lemma functionNames_spec (h : Catalog.standard = .ok catalog) {key : SymbolKey}
    (hkey : key ∈ functionKeys catalog t) :
    isIdentifier key.name = true ∧ nameKind key.name = .function := by
  obtain ⟨k, -, ty, -, o, ho, v, -, rfl⟩ := mem_functionKeys.1 hkey
  have hname := Catalog.isWordChar_of_mem_standard h (List.mem_filter.1 ho).1
  exact ⟨(SymbolKey.isIdentifier_name_iff ⟨o.name, ty, v⟩).2 hname, nameKind_name ⟨o.name, ty, v⟩⟩

/-- The names of functions are distinct: those of one type by their marks, those of several types by
their tokens. -/
lemma nodup_functionNames (h : Catalog.standard = .ok catalog) :
    ((functionKeys catalog t).map SymbolKey.name).Nodup := by
  have hmarked (ty : ShapedType) := List.nodup_flatMap.1 (Catalog.nodup_markedNames h ty.shape)
  have hsublist (k : Category) (ty : ShapedType) := Catalog.sublist_markedNames catalog k ty
  rw [map_name_functionKeys, List.nodup_flatMap]
  constructor
  · intro k hk
    rw [List.nodup_flatMap]
    constructor
    · intro ty _
      have hnodup := List.Nodup.sublist (hsublist k ty) ((hmarked ty).1 k hk)
      exact hnodup.map fun _ _ heq => (markedName_inj heq).1
    · refine (nodup_combinations t).imp fun {ty ty'} hne name hname hname' => hne ?_
      obtain ⟨marked, -, rfl⟩ := List.mem_map.1 hname
      obtain ⟨marked', -, heq⟩ := List.mem_map.1 hname'
      exact (markedName_inj heq).2.symm
  · -- Two categories give a type different names, and other types other names.
    have hcategories : Category.all.Nodup := by decide
    refine hcategories.imp_of_mem fun {k k'} hk hk' hne name hname hname' => hne ?_
    obtain ⟨ty, -, hname⟩ := List.mem_flatMap.1 hname
    obtain ⟨ty', -, hname'⟩ := List.mem_flatMap.1 hname'
    obtain ⟨marked, hmem, rfl⟩ := List.mem_map.1 hname
    obtain ⟨marked', hmem', heq⟩ := List.mem_map.1 hname'
    obtain ⟨rfl, rfl⟩ := markedName_inj heq
    exact eq_of_mem_of_nodup_flatMap (Catalog.nodup_markedNames h ty'.shape) hk hk'
      ((hsublist k ty').subset hmem) ((hsublist k' ty').subset hmem')

end Functions

/-! ## All names together -/

lemma disjoint_of_nameKind {names names' : List String} {kind kind' : NameKind}
    (hne : kind ≠ kind') (h : ∀ name ∈ names, nameKind name = kind)
    (h' : ∀ name ∈ names', nameKind name = kind') : names.Disjoint names' :=
  fun name hname hname' => hne ((h name hname).symm.trans (h' name hname'))

section Library

variable {catalog : Catalog} {t : Taxonomy}

lemma functionNames_spec' (h : Catalog.standard = .ok catalog) :
    ∀ name ∈ (functionKeys catalog t).map SymbolKey.name,
      isIdentifier name = true ∧ nameKind name = .function := by
  intro name hname
  obtain ⟨key, hkey, rfl⟩ := List.mem_map.1 hname
  exact functionNames_spec h hkey

/-- **The names of a header can be declared.** -/
theorem isIdentifier_of_mem_libraryNames (h : Catalog.standard = .ok catalog) {name : String}
    (hname : name ∈ libraryNames catalog t) : isIdentifier name = true := by
  simp only [libraryNames, List.mem_append] at hname
  rcases hname with ((hname | hname) | hname) | hname
  · exact (fixedNames_spec name hname).1
  · exact (typeNames_spec hname).1
  · exact (constructorNames_spec hname).1
  · exact (functionNames_spec' h name hname).1

/-- A name that looks like a fixed one and is none is no name of a header. -/
lemma notMem_libraryNames (h : Catalog.standard = .ok catalog) {name : String}
    (hkind : nameKind name = .fixed) (hname : name ∉ fixedNames) :
    name ∉ libraryNames catalog t := by
  intro hmem
  simp only [libraryNames, List.mem_append] at hmem
  rcases hmem with ((hmem | hmem) | hmem) | hmem
  · exact hname hmem
  · exact nomatch hkind.symm.trans (typeNames_spec hmem).2
  · exact nomatch hkind.symm.trans (constructorNames_spec hmem).2
  · exact nomatch hkind.symm.trans (functionNames_spec' h name hmem).2

/-- **The names of a header are distinct.** -/
theorem nodup_libraryNames (h : Catalog.standard = .ok catalog) (t : Taxonomy) :
    (libraryNames catalog t).Nodup := by
  have hfixed := fun name hname => (fixedNames_spec name hname).2
  have htypes := fun name (hname : name ∈ typeNames t) => (typeNames_spec hname).2
  have hconstructors := fun name (hname : name ∈ constructorNames t) =>
    (constructorNames_spec hname).2
  have hfunctions := fun name hname => (functionNames_spec' (t := t) h name hname).2
  simp only [libraryNames, List.nodup_append', List.disjoint_append_left]
  refine ⟨⟨⟨nodup_fixedNames, nodup_typeNames t, ?_⟩, nodup_constructorNames t, ?_, ?_⟩,
    nodup_functionNames h, ⟨?_, ?_⟩, ?_⟩
  · exact disjoint_of_nameKind (by decide) hfixed htypes
  · exact disjoint_of_nameKind (by decide) hfixed hconstructors
  · exact disjoint_of_nameKind (by decide) htypes hconstructors
  · exact disjoint_of_nameKind (by decide) hfixed hfunctions
  · exact disjoint_of_nameKind (by decide) htypes hfunctions
  · exact disjoint_of_nameKind (by decide) hconstructors hfunctions

end Library

end MathHeader
