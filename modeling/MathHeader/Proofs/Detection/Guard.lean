import MathHeader.Proofs.Detection.Settled
import MathHeader.Proofs.Generation.Standard
import MathHeader.Proofs.Preprocessor.Dependence

/-!
# The guard and the detection block

A header defines its guard in front of the detection block, so the block sees one macro more than
the compiler predefines.  Does it make a difference which name is chosen?  A guard cannot be a macro
that the block defines, since both are claimed.  But the block also asks about macros that only a
compiler or a user defines (`asked`), and nobody claims those.

`sameBut_resolve_guard_iff` says that this is all there is to it: a guard of a header makes no
difference for any compiler exactly if it is not among the macros in `asked`.  For each of these
there is a compiler for which it makes a difference, listed in `affected`.
-/

namespace MathHeader.Detection

open Preprocessor

/-! ## The macros that the block asks about -/

/-- The macros that the block asks about and does not define. -/
def asked : List String :=
  (blockReads block).filter fun name => !(blockDefinitions block).contains name

lemma mem_asked_iff {name : String} :
    name ∈ asked ↔ name ∈ blockReads block ∧ name ∉ blockDefinitions block := by
  rw [asked, List.mem_filter, Bool.not_eq_true', ← Bool.not_eq_true, List.contains_iff_mem]

/-! ## Compilers for which they make a difference -/

/-- What a compiler gets to know of the byte order and the vector extensions. -/
def observe (P : List (String × Int64)) : Except Diagnostic (Option Int64 × Option Int64) :=
  (resolve block P).map fun r => (r.macros.value? ByteOrder.settled, r.macros.value? simdMask)

/-- Macros that make a difference, and what is predefined where they do: nothing, or the macros of a
target with too little of one kind of information. -/
def affected : List (List String × List (String × Int64)) :=
  [ (["__linux__", "_WIN32"], []),
    (Arch.all.flatMap Arch.macros, [("_WIN32", 1)]),
    (["__BYTE_ORDER__"], [("__linux__", 1), ("__i386__", 1)]),
    (["__ORDER_BIG_ENDIAN__", "__ORDER_LITTLE_ENDIAN__"],
      [("__linux__", 1), ("__i386__", 1), ("__BYTE_ORDER__", 1)]),
    (["__BIG_ENDIAN", "__ARM_BIG_ENDIAN"], [("_WIN32", 1), ("_M_ARM", 7)]),
    ([noIntrinsics], [("_WIN32", 1), ("_M_IX86", 600), ("__SSE__", 1)]),
    (["_M_IX86_FP", "__SSE__", "__SSE2__", "__SSE3__", "__SSSE3__", "__SSE4_1__", "__SSE4_2__",
      "__AVX__", "__AVX2__"], [("_WIN32", 1), ("_M_IX86", 600)]),
    (["__ARM_NEON__", "__ARM_NEON"], [("_WIN32", 1), ("_M_ARM", 7), ("__ARM_NEON_FP", 14)]),
    (["__ARM_NEON_FP__", "__ARM_NEON_FP"], [("_WIN32", 1), ("_M_ARM", 7), ("__ARM_NEON", 1)]) ]

lemma observe_affected : ∀ row ∈ affected, ∀ name ∈ row.1,
    name ∉ row.2.map (·.1) ∧ observe row.2 ≠ observe (row.2 ++ [(name, 1)]) := by
  decide +kernel

lemma exists_affected : ∀ name ∈ asked, ∃ row ∈ affected, name ∈ row.1 := by
  decide

/-- Results that agree but for a macro that is asked about cannot be told apart. -/
lemma observe_eq_of_sameBut {name : String} {P Q : List (String × Int64)} (hname : name ∈ asked)
    (h : SameBut name (resolve block P) (resolve block Q)) : observe P = observe Q := by
  have hsettled : ByteOrder.settled ∉ asked ∧ simdMask ∉ asked := by decide
  have hne {other : String} (hother : other ∉ asked) : other ≠ name :=
    fun heq => hother (heq ▸ hname)
  rcases sameBut_iff.1 h with ⟨d, hP, hQ⟩ | ⟨r, r', hP, hQ, hagree⟩
  · rw [observe, observe, hP, hQ]
  · rw [observe, observe, hP, hQ, Except.map, Except.map,
      hagree.macros _ (hne hsettled.1), hagree.macros _ (hne hsettled.2)]

/-! ## Guards that make no difference -/

lemma guard_notMem_blockDefinitions {t : Taxonomy} {c : Config} {a : Artifact}
    (h : generateStandard t c = .ok a) : c.guard ∉ blockDefinitions block := by
  obtain ⟨catalog, hcatalog⟩ := Catalog.exists_standard_eq_ok
  obtain ⟨-, -, -, hguard, -⟩ := (exists_generateStandard_iff hcatalog t c).1 ⟨a, h⟩
  intro hmem
  refine hguard (List.mem_append_left _ (List.mem_append_left _ (List.mem_append_left _ ?_)))
  simp [fixedNames, definedNames, hmem]

/-- Names that are neither claimed nor look like a type, a constructor or a function can be chosen
for every taxonomy. -/
lemma exists_generateStandard_of_fixed {t : Taxonomy} {c : Config}
    (hguard : isIdentifier c.guard = true ∧ nameKind c.guard = .fixed ∧ c.guard ∉ fixedNames)
    (hspecifier : isIdentifier c.specifier = true ∧ nameKind c.specifier = .fixed ∧
      c.specifier ∉ fixedNames) (hne : c.guard ≠ c.specifier) :
    ∃ a, generateStandard t c = .ok a := by
  obtain ⟨catalog, hcatalog⟩ := Catalog.exists_standard_eq_ok
  rw [exists_generateStandard_iff hcatalog]
  exact ⟨hguard.1, hspecifier.1, hne, notMem_libraryNames hcatalog hguard.2.1 hguard.2.2,
    notMem_libraryNames hcatalog hspecifier.2.1 hspecifier.2.2⟩

/-- **The guard and the detection block.**  The guard of a header makes no difference to the
detection block, whatever a compiler predefines and whatever the value of the guard is, exactly if
the block does not ask about it. -/
theorem sameBut_resolve_guard_iff {t : Taxonomy} {c : Config} {a : Artifact}
    (h : generateStandard t c = .ok a) :
    (∀ (P : List (String × Int64)) (value : Int64), c.guard ∉ P.map (·.1) →
      SameBut c.guard (resolve block P) (resolve block (P ++ [(c.guard, value)]))) ↔
    c.guard ∉ asked := by
  constructor
  · intro hsame hasked
    obtain ⟨row, hrow, hname⟩ := exists_affected c.guard hasked
    obtain ⟨hfresh, hobserve⟩ := observe_affected row hrow c.guard hname
    exact hobserve (observe_eq_of_sameBut hasked (hsame row.2 1 hfresh))
  · intro hasked P value _
    have hreads : c.guard ∉ blockReads block := fun hmem =>
      hasked (mem_asked_iff.2 ⟨hmem, guard_notMem_blockDefinitions h⟩)
    exact sameBut_resolve hreads P value

/-- The guard that is used unless another is given makes no difference. -/
theorem sameBut_resolve_standard_guard :
    ∃ a, generateStandard .standard .standard = .ok a ∧
      ∀ (P : List (String × Int64)) (value : Int64), "RANMATH_H" ∉ P.map (·.1) →
        SameBut "RANMATH_H" (resolve block P) (resolve block (P ++ [("RANMATH_H", value)])) := by
  obtain ⟨a, ha⟩ := exists_generateStandard_of_fixed (t := .standard) (c := .standard)
    (by decide) (by decide) (by decide)
  exact ⟨a, ha, (sameBut_resolve_guard_iff ha).2 (by decide)⟩

/-- A guard that is asked about.  With it, a compiler for no supported platform gets another
error. -/
theorem not_sameBut_resolve_platform_guard :
    (∃ a, generateStandard .standard ⟨"_WIN32", none, "RM_INLINE"⟩ = .ok a) ∧
      resolve block [] = .error ⟨"unsupported platform"⟩ ∧
      resolve block [("_WIN32", 1)] = .error ⟨"unsupported architecture"⟩ ∧
      ¬SameBut "_WIN32" (resolve block []) (resolve block [("_WIN32", 1)]) := by
  have hwithout : resolve block [] = .error ⟨"unsupported platform"⟩ := by decide
  have hwith : resolve block [("_WIN32", 1)] = .error ⟨"unsupported architecture"⟩ := by decide
  refine ⟨exists_generateStandard_of_fixed (by decide) (by decide) (by decide), hwithout, hwith, ?_⟩
  rw [hwithout, hwith]
  exact fun h => absurd (congrArg Diagnostic.message h) (by decide)

end MathHeader.Detection
