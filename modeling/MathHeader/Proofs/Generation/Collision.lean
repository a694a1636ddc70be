import MathHeader.Proofs.Generation.Standard

/-!
# Who can collide

The declarations of the library have names of their own choice: the aliases, the overlays and their
casts, the structures, the constructors, the constants and the utility macros.  They are distinct
identifiers, and no function of whatever catalog can take one of them, since it shows in the
spelling of a name whether it belongs to a function.  So the library never collides with itself:
`declarationNames_never_collide`.

A collision is between two claims of one name, in the order in which they were made.  If the name is
none that the user of the library has chosen, with the guard, the specifier or the detection block,
then both claims are those of functions: `collision_cause`.
-/

namespace MathHeader

open Preprocessor

/-! ## The names that the library chooses -/

/-- The names that a header declares by itself: the aliases, the overlays and their casts, tag and
name of each structure, the constructors, the constants and the utility macros. -/
def declarationNames (t : Taxonomy) : List String :=
  primitiveNames ++ Storage.overlayNames ++ Storage.BitCast.all.map (·.name) ++ typeNames t ++
    (constructors t).map (·.name) ++ constants.map (·.name) ++ utilities.map (·.name)

/-- With the macros of the standard detection block these are the fixed names, those of types and
those of constructors. -/
lemma perm_declarationNames (t : Taxonomy) :
    (definedNames Detection.block ++ declarationNames t).Perm
      (fixedNames ++ typeNames t ++ constructorNames t) := by
  rw [List.perm_iff_count]
  intro name
  simp only [declarationNames, fixedNames, map_name_constructors, List.count_append]
  omega

lemma declarationNames_spec {t : Taxonomy} {name : String} (h : name ∈ declarationNames t) :
    isIdentifier name = true ∧ nameKind name ≠ .function := by
  have hmem := (perm_declarationNames t).subset (List.mem_append_right _ h)
  rw [List.mem_append, List.mem_append] at hmem
  rcases hmem with (hmem | hmem) | hmem
  · obtain ⟨hid, hkind⟩ := fixedNames_spec name hmem
    exact ⟨hid, by rw [hkind]; decide⟩
  · obtain ⟨hid, hkind⟩ := typeNames_spec hmem
    exact ⟨hid, by rw [hkind]; decide⟩
  · obtain ⟨hid, hkind⟩ := constructorNames_spec hmem
    exact ⟨hid, by rw [hkind]; decide⟩

lemma nodup_declarationNames (t : Taxonomy) : (declarationNames t).Nodup := by
  obtain ⟨catalog, hcatalog⟩ := Catalog.exists_standard_eq_ok
  have hlibrary := nodup_libraryNames hcatalog t
  rw [libraryNames] at hlibrary
  have hnodup := (perm_declarationNames t).nodup_iff.2 (List.nodup_append.1 hlibrary).1
  exact (List.nodup_append.1 hnodup).2.1

/-- No function has the name of a declaration, whatever its operation is called. -/
lemma name_notMem_declarationNames (t : Taxonomy) (key : SymbolKey) :
    key.name ∉ declarationNames t := by
  intro h
  exact (declarationNames_spec h).2 (nameKind_name key)

/-! ## What declarations claim -/

section Claims

variable {catalog : Catalog} {t : Taxonomy} {detection : List Node} {c : Config}

/-- Beside its own names a header declares the guard, the specifier and the macros of the detection
block. -/
lemma perm_declarationClaims (t : Taxonomy) (detection : List Node) (c : Config) :
    ((declarationClaims t detection c).map (·.1)).Perm
      (c.guard :: c.specifier :: (definedNames detection ++ declarationNames t)) := by
  rw [map_fst_declarationClaims, List.perm_iff_count]
  intro name
  simp only [declarationNames, typeNames, List.count_append, List.count_cons, List.count_nil]
  omega

lemma name_mem_of_functionClaim {name owner : String}
    (h : (name, owner) ∈ (allFunctions catalog t).map functionClaim) :
    ∃ key : SymbolKey, name = key.name := by
  obtain ⟨f, hf, heq⟩ := List.mem_map.1 h
  obtain ⟨k, -, hf⟩ := List.mem_flatMap.1 hf
  obtain ⟨o, -, ty, -, hfits⟩ := fits_of_mem_functionsOf hf
  exact ⟨f.key, (congrArg Prod.fst heq).symm.trans hfits.name⟩

/-! ## Who can collide -/

/-- A name that is claimed twice and that the user has not chosen belongs to no declaration. -/
lemma notMem_declarationClaims {name first second : String} (hguard : name ≠ c.guard)
    (hspecifier : name ≠ c.specifier) (hdetection : name ∉ definedNames detection)
    (h : [(name, first), (name, second)].Sublist (claims (events catalog t detection c))) :
    name ∉ (declarationClaims t detection c).map (·.1) := by
  intro hmem
  have hperm := perm_declarationClaims t detection c
  have hchosen : name ∈ declarationNames t := by
    have hmem' := hperm.subset hmem
    simp only [List.mem_cons, List.mem_append] at hmem'
    tauto
  have hfunction {owner : String} :
      (name, owner) ∉ (allFunctions catalog t).map functionClaim := by
    intro hclaim
    obtain ⟨key, rfl⟩ := name_mem_of_functionClaim hclaim
    exact name_notMem_declarationNames t key hchosen
  -- Both claims are made by declarations, but the name occurs there only once.
  rw [claims_events, List.sublist_append_iff] at h
  obtain ⟨front, rest, heq, hfront, hrest⟩ := h
  have hnil : rest = [] := by
    refine List.eq_nil_iff_forall_not_mem.2 fun claim hclaim => ?_
    have hpair : claim ∈ [(name, first), (name, second)] := by
      rw [heq]
      exact List.mem_append_right front hclaim
    rw [List.mem_pair] at hpair
    rcases hpair with rfl | rfl <;> exact hfunction (hrest.subset hclaim)
  rw [hnil, List.append_nil] at heq
  have htwice := (heq ▸ hfront).map Prod.fst |>.count_le name
  rw [hperm.count_eq, List.count_cons_of_ne (Ne.symm hguard),
    List.count_cons_of_ne (Ne.symm hspecifier), List.count_append,
    List.count_eq_zero.2 hdetection] at htwice
  have honce := List.nodup_iff_count_le_one.1 (nodup_declarationNames t) name
  simp at htwice
  omega

/-- **Who can collide.**  A collision is over the guard, the specifier, a macro of the detection
block, or a name that two functions have. -/
lemma collision_cause {name first second : String}
    (h : generate catalog t detection c = .error (.nameCollision name first second)) :
    name = c.guard ∨ name = c.specifier ∨ name ∈ definedNames detection ∨
      ∃ f g, [f, g].Sublist (allFunctions catalog t) ∧
        functionClaim f = (name, first) ∧ functionClaim g = (name, second) := by
  rcases generate_eq_error_iff.1 h with hinvalid | ⟨-, hfirst⟩
  · rcases validate_eq_error hinvalid with heq | heq <;> cases heq
  obtain ⟨before, between, after, hclaims, -⟩ := hfirst.collision
  have hpair : [(name, first), (name, second)].Sublist (claims (events catalog t detection c)) := by
    rw [hclaims, List.append_assoc]
    refine List.Sublist.trans ?_ (List.sublist_append_right before _)
    refine List.Sublist.cons_cons _ (List.Sublist.trans ?_ (List.sublist_append_right between _))
    exact List.Sublist.cons_cons _ (List.nil_sublist after)
  by_cases hguard : name = c.guard
  · exact .inl hguard
  by_cases hspecifier : name = c.specifier
  · exact .inr (.inl hspecifier)
  by_cases hdetection : name ∈ definedNames detection
  · exact .inr (.inr (.inl hdetection))
  have hnotMem := notMem_declarationClaims hguard hspecifier hdetection hpair
  -- No declaration makes one of the two claims, so functions make both.
  rw [claims_events, List.sublist_append_iff] at hpair
  obtain ⟨front, rest, heq, hfront, hrest⟩ := hpair
  have hnil : front = [] := by
    refine List.eq_nil_iff_forall_not_mem.2 fun claim hclaim => hnotMem ?_
    have hname : claim.1 = name := by
      have hmem : claim ∈ [(name, first), (name, second)] :=
        heq ▸ List.mem_append_left rest hclaim
      rcases List.mem_pair.1 hmem with rfl | rfl <;> rfl
    exact hname ▸ List.mem_map_of_mem (hfront.subset hclaim)
  rw [hnil, List.nil_append] at heq
  obtain ⟨functions, hfunctions, hmap⟩ := List.sublist_map_iff.1 (heq ▸ hrest)
  obtain ⟨f, gs, rfl, hf, hgs⟩ := List.map_eq_cons_iff.1 hmap.symm
  obtain ⟨g, hs, rfl, hg, hhs⟩ := List.map_eq_cons_iff.1 hgs
  rw [List.map_eq_nil_iff.1 hhs] at hfunctions
  exact .inr (.inr (.inr ⟨f, g, hfunctions, hf, hg⟩))

end Claims

/-- **The names of the library never collide.**  Beside the guard, the specifier and the macros of
the detection block, the declarations of a header claim the names that the library chooses.  These
are distinct identifiers, and no function has one of them, whatever its operation is called.  So
the name of a collision is one that the user chooses, or it is produced by two functions. -/
theorem declarationNames_never_collide :
    (∀ (t : Taxonomy) (detection : List Node) (c : Config),
      ((declarationClaims t detection c).map (·.1)).Perm
        (c.guard :: c.specifier :: (definedNames detection ++ declarationNames t))) ∧
    (∀ t : Taxonomy, (declarationNames t).Nodup ∧
      (∀ name ∈ declarationNames t, isIdentifier name = true) ∧
      ∀ key : SymbolKey, key.name ∉ declarationNames t) ∧
    ∀ (catalog : Catalog) (t : Taxonomy) (detection : List Node) (c : Config)
      (name first second : String),
      generate catalog t detection c = .error (.nameCollision name first second) →
        name = c.guard ∨ name = c.specifier ∨ name ∈ definedNames detection ∨
          ∃ f g, [f, g].Sublist (allFunctions catalog t) ∧ f.name = name ∧ g.name = name ∧
            f.key.describe = first ∧ g.key.describe = second := by
  refine ⟨perm_declarationClaims, fun t => ?_, ?_⟩
  · exact ⟨nodup_declarationNames t, fun name hname => (declarationNames_spec hname).1,
      name_notMem_declarationNames t⟩
  · intro catalog t detection c name first second h
    refine (collision_cause h).imp_right (Or.imp_right (Or.imp_right ?_))
    rintro ⟨f, g, hfunctions, hf, hg⟩
    exact ⟨f, g, hfunctions, congrArg Prod.fst hf, congrArg Prod.fst hg, congrArg Prod.snd hf,
      congrArg Prod.snd hg⟩

end MathHeader
