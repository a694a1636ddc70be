import MathHeader.Proofs.Generation.Trace
import MathHeader.Proofs.Names.Library

/-!
# Generation of the standard header

The standard header can be generated for every taxonomy, and only the two names that its user
chooses can prevent it.  The events of such a generation claim the guard, the specifier and the
names of the library, in some order (`claimedNames_standard`).  The library's own names are distinct
identifiers, and every operation of the catalog can be instantiated where it is asked for.  So a
failure is due to a chosen name: it cannot be declared, or it belongs to someone already.
`generateStandard_outcome` puts both outcomes together.
-/

namespace MathHeader

open Preprocessor

/-! ## What is claimed -/

/-- Every operation that a standard generation asks for can be instantiated. -/
lemma allInstantiate_standard {catalog : Catalog} (h : Catalog.standard = .ok catalog)
    (t : Taxonomy) (c : Config) : AllInstantiate (events catalog t Detection.block c) := by
  intro o ty hmem
  obtain ⟨k, -, hrequest⟩ := instantiate_mem_events_iff.1 hmem
  obtain ⟨hmem, happlies⟩ := List.mem_filter.1 (mem_requests.1 hrequest).2
  rw [Bool.and_eq_true] at happlies
  exact Catalog.exists_instantiate_of_standard h hmem happlies.2

/-- **What is claimed.**  The events of a standard generation claim the guard, the specifier and the
names of the library, each as often as it stands there. -/
lemma claimedNames_standard {catalog : Catalog} (h : Catalog.standard = .ok catalog) (t : Taxonomy)
    (c : Config) :
    (claimedNames (events catalog t Detection.block c)).Perm
      (c.guard :: c.specifier :: libraryNames catalog t) := by
  rw [claimedNames_events, map_fst_declarationClaims, map_name_constructors,
    map_name_functionsOf (allInstantiate_standard h t c), List.perm_iff_count]
  intro name
  simp only [libraryNames, fixedNames, typeNames, List.count_append, List.count_cons,
    List.count_nil]
  omega

/-! ## When there is a header -/

lemma validate_eq_error {c : Config} {e : GenError} (h : c.validate = .error e) :
    e = .invalidIdentifier c.guard ∨ e = .invalidIdentifier c.specifier := by
  unfold Config.validate at h
  split at h
  next =>
    cases h
    exact .inl rfl
  next =>
    split at h
    next =>
      cases h
      exact .inr rfl
    next => cases h

/-- Two claims that collide have a name that is claimed twice. -/
lemma two_le_count_of_claims {evs : List Event} {name first second : String}
    {before between after : List (String × String)}
    (h : claims evs = before ++ (name, first) :: between ++ (name, second) :: after) :
    2 ≤ (claimedNames evs).count name := by
  rw [claimedNames, h]
  simp only [List.map_append, List.map_cons, List.count_append, List.count_cons_self]
  omega

lemma generateStandard_eq {catalog : Catalog} (h : Catalog.standard = .ok catalog) (t : Taxonomy)
    (c : Config) : generateStandard t c = generate catalog t Detection.block c := by
  rw [generateStandard, h]
  rfl

/-- There is a standard header exactly if the chosen names are identifiers, differ, and are not
those of the library. -/
lemma exists_generateStandard_iff {catalog : Catalog} (h : Catalog.standard = .ok catalog)
    (t : Taxonomy) (c : Config) :
    (∃ a, generateStandard t c = .ok a) ↔
      isIdentifier c.guard = true ∧ isIdentifier c.specifier = true ∧
        c.guard ≠ c.specifier ∧ c.guard ∉ libraryNames catalog t ∧
        c.specifier ∉ libraryNames catalog t := by
  have hclaimed := claimedNames_standard h t c
  have hlibrary : ∀ name ∈ libraryNames catalog t, isIdentifier name = true :=
    fun name hname => isIdentifier_of_mem_libraryNames h hname
  have hnodup := nodup_libraryNames h t
  rw [generateStandard_eq h, exists_generate_eq_ok_iff, Config.validate_eq_ok_iff,
    and_iff_right (allInstantiate_standard h t c), hclaimed.nodup_iff, List.nodup_cons,
    List.nodup_cons, List.mem_cons, not_or]
  simp only [hclaimed.mem_iff, List.forall_mem_cons]
  constructor
  · rintro ⟨⟨hguard, hspecifier⟩, -, ⟨hne, hguard'⟩, hspecifier', -⟩
    exact ⟨hguard, hspecifier, hne, hguard', hspecifier'⟩
  · rintro ⟨hguard, hspecifier, hne, hguard', hspecifier'⟩
    exact ⟨⟨hguard, hspecifier⟩, ⟨hguard, hspecifier, hlibrary⟩, ⟨hne, hguard'⟩,
      hspecifier', hnodup⟩

/-- **The standard header is total up to its chosen names.**  For every taxonomy and all settings,
the names that a generation claims are the guard, the specifier and the names of the library.  There
is a header exactly if the first two are identifiers, differ from each other, and are not among the
others.  Every failure is due to one of the two, which cannot be declared or collides. -/
theorem generateStandard_outcome :
    ∃ catalog, Catalog.standard = .ok catalog ∧ ∀ (t : Taxonomy) (c : Config),
      (claimedNames (events catalog t Detection.block c)).Perm
        (c.guard :: c.specifier :: libraryNames catalog t) ∧
      ((∃ a, generateStandard t c = .ok a) ↔
        isIdentifier c.guard = true ∧ isIdentifier c.specifier = true ∧
          c.guard ≠ c.specifier ∧ c.guard ∉ libraryNames catalog t ∧
          c.specifier ∉ libraryNames catalog t) ∧
      ∀ e, generateStandard t c = .error e →
        ∃ name, (name = c.guard ∨ name = c.specifier) ∧
          (e = .invalidIdentifier name ∨ ∃ first second, e = .nameCollision name first second) := by
  obtain ⟨catalog, h⟩ := Catalog.exists_standard_eq_ok
  refine ⟨catalog, h, fun t c => ?_⟩
  have hinstantiate := allInstantiate_standard h t c
  have hclaimed := claimedNames_standard h t c
  have hlibrary : ∀ name ∈ libraryNames catalog t, isIdentifier name = true :=
    fun name hname => isIdentifier_of_mem_libraryNames h hname
  have hnodup := nodup_libraryNames h t
  refine ⟨hclaimed, exists_generateStandard_iff h t c, ?_⟩
  rw [generateStandard_eq h]
  intro e he
  rcases generate_eq_error_iff.1 he with hinvalid | ⟨-, hfirst⟩
  · rcases validate_eq_error hinvalid with rfl | rfl
    · exact ⟨c.guard, .inl rfl, .inl rfl⟩
    · exact ⟨c.specifier, .inr rfl, .inl rfl⟩
  rcases hfirst.cause with ⟨o, ty, hmem, herror⟩ | ⟨name, hname, hid, rfl⟩ |
    ⟨name, first, second, rfl⟩
  · obtain ⟨fs, hfs⟩ := hinstantiate o ty hmem
    rw [hfs] at herror
    cases herror
  · rw [hclaimed.mem_iff, List.mem_cons, List.mem_cons] at hname
    rcases hname with hguard | hspecifier | hname
    · exact ⟨name, .inl hguard, .inl rfl⟩
    · exact ⟨name, .inr hspecifier, .inl rfl⟩
    · rw [hlibrary name hname] at hid
      cases hid
  · refine ⟨name, ?_, .inr ⟨first, second, rfl⟩⟩
    obtain ⟨before, between, after, hclaims, -⟩ := hfirst.collision
    have htwice := two_le_count_of_claims hclaims
    have honce := List.nodup_iff_count_le_one.1 hnodup name
    -- A name that is claimed twice is not one of the library only.
    by_contra hother
    rw [not_or] at hother
    rw [hclaimed.count_eq, List.count_cons_of_ne (Ne.symm hother.1),
      List.count_cons_of_ne (Ne.symm hother.2)] at htwice
    omega

end MathHeader
