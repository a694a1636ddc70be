import MathHeader.Proofs.Detection.Settled

/-!
# Supported targets are detected

Two tables have to agree: what a compiler predefines for a supported target, and what the detection
block asks for.  That they do is a matter of ten rows (`reports_builtins`).  But a compiler is also
called with flags, and any number of further macros come with them.

The target is settled by `decisiveMacros` alone.  Flags that define none of these change nothing of
what is asked about them (`predefined_append_iff`, `predefinedValue_append`), so that a supported
target is detected with all such flags, even with those that define macros of the header:
`detected_of_supported`.
-/

namespace MathHeader.Detection

open Preprocessor

/-! ## The macros that settle the target -/

/-- The macros by which compilers report a platform, an architecture and a byte order. -/
def decisiveMacros : List String :=
  ["__linux__", "_WIN32"] ++ Arch.all.flatMap Arch.macros ++
    ["__BYTE_ORDER__", "__ORDER_BIG_ENDIAN__", "__ORDER_LITTLE_ENDIAN__", "__BIG_ENDIAN",
      "__ARM_BIG_ENDIAN"]

/-- The number of the platform that predefined macros call for. -/
def platformNumber (P : List (String × Int64)) : Int64 :=
  if Predefined P "__linux__" then 1 else 2

/-- The number of the byte order that predefined macros call for on an architecture. -/
def orderNumber (P : List (String × Int64)) (a : Arch) : Int64 :=
  if Predefined P "__linux__" ∧ Predefined P "__BYTE_ORDER__" then
    if predefinedValue P "__BYTE_ORDER__" = predefinedValue P "__ORDER_BIG_ENDIAN__" then 4321
    else 1234
  else if a.isX86 then 1234
  else if Predefined P "__BIG_ENDIAN" ∨ Predefined P "__ARM_BIG_ENDIAN" then 4321
  else 1234

/-! ## Flags -/

section Flags

variable {P flags : List (String × Int64)} (hflags : ∀ flag ∈ flags, flag.1 ∉ decisiveMacros)
include hflags

lemma predefined_append_iff {name : String} (hname : name ∈ decisiveMacros) :
    Predefined (P ++ flags) name ↔ Predefined P name := by
  have hother : name ∉ flags.map (·.1) := by
    intro hmem
    obtain ⟨flag, hflag, rfl⟩ := List.mem_map.1 hmem
    exact hflags flag hflag hname
  rw [Predefined, List.map_append, List.mem_append, or_iff_left hother, Predefined]

lemma predefinedValue_append {name : String} (hname : name ∈ decisiveMacros) :
    predefinedValue (P ++ flags) name = predefinedValue P name := by
  have hnone : flags.reverse.lookup name = none := by
    rw [List.lookup_eq_none_iff]
    intro flag hflag
    rw [bne_iff_ne]
    rintro rfl
    exact hflags flag (List.mem_reverse.1 hflag) hname
  rw [predefinedValue, List.reverse_append, List.lookup_append, hnone, Option.none_or,
    predefinedValue]

lemma Reports.append_iff (a : Arch) : Reports (P ++ flags) a ↔ Reports P a := by
  have hmacros : ∀ name ∈ a.macros, name ∈ decisiveMacros := by cases a <;> decide
  exact exists_congr fun name => and_congr_right fun hname =>
    predefined_append_iff hflags (hmacros name hname)

lemma reportedArch?_append : reportedArch? (P ++ flags) = reportedArch? P := by
  rw [reportedArch?, reportedArch?]
  congr 1
  funext a
  exact decide_eq_decide.2 (Reports.append_iff hflags a)

lemma noPlatform_append_iff : NoPlatform (P ++ flags) ↔ NoPlatform P := by
  rw [NoPlatform, predefined_append_iff hflags (by decide),
    predefined_append_iff hflags (by decide), NoPlatform]

lemma noByteOrder_append_iff : NoByteOrder (P ++ flags) ↔ NoByteOrder P := by
  simp (disch := decide) only [NoByteOrder, predefined_append_iff hflags,
    predefinedValue_append hflags]

lemma platformNumber_append : platformNumber (P ++ flags) = platformNumber P := by
  simp (disch := decide) only [platformNumber, predefined_append_iff hflags]

lemma orderNumber_append (a : Arch) : orderNumber (P ++ flags) a = orderNumber P a := by
  simp (disch := decide) only [orderNumber, predefined_append_iff hflags,
    predefinedValue_append hflags]

end Flags

/-! ## What supported targets report -/

def Platform.macroName : Platform → String
  | linux => platformLinux
  | windows => platformWindows

def Platform.number : Platform → Int64
  | linux => 1
  | windows => 2

def Arch.familyName (a : Arch) : String :=
  if a.isX86 then archX86 else archArm

def Arch.familyNumber (a : Arch) : Int64 :=
  if a.isX86 then 1 else 2

instance (P : List (String × Int64)) : Decidable (NoPlatform P) :=
  inferInstanceAs (Decidable (_ ∧ _))

instance (P : List (String × Int64)) : Decidable (NoByteOrder P) :=
  inferInstanceAs (Decidable (_ ∧ _))

/-- **The two tables agree.**  The macros that come with a supported target report that target. -/
lemma reports_builtins : ∀ t ∈ Target.supported,
    t.flags = [] ∧ ¬NoPlatform t.builtins ∧ ¬NoByteOrder t.builtins ∧
      platformNumber t.builtins = t.platform.number ∧ reportedArch? t.builtins = some t.arch ∧
      orderNumber t.builtins t.arch = t.byteOrder.value := by
  decide

/-! ## Macros that the block always defines -/

section Always

variable {P : List (String × Int64)} {r : Resolution} (h : resolve block P = .ok r)
include h

lemma Platform.value?_macroName (p : Platform) :
    r.macros.value? p.macroName = some p.number := by
  have hlinux : .define platformLinux (.hex 1) ∈ block := by simp [block, platformBlock]
  have hwindows : .define platformWindows (.hex 2) ∈ block := by simp [block, platformBlock]
  cases p with
  | linux => exact value?_of_walkBlock_define_once h hlinux (by decide) rfl
  | windows => exact value?_of_walkBlock_define_once h hwindows (by decide) rfl

lemma Arch.value?_familyName (a : Arch) : r.macros.value? a.familyName = some a.familyNumber := by
  have hx86 : .define archX86 (.hex 1) ∈ block := by simp [block, architectureBlock]
  have harm : .define archArm (.hex 2) ∈ block := by simp [block, architectureBlock]
  rw [familyName, familyNumber]
  split
  · exact value?_of_walkBlock_define_once h hx86 (by decide) rfl
  · exact value?_of_walkBlock_define_once h harm (by decide) rfl

lemma value?_orderMacro (o : ByteOrder) :
    r.macros.value? o.macroName = some o.value := by
  have horder : .define o.macroName (.int o.value) ∈ block := by
    cases o <;> simp [block, byteOrderBlock]
  have honce : (blockDefinitions block).count o.macroName = 1 := by cases o <;> decide
  exact value?_of_walkBlock_define_once h horder honce rfl

/-- The mask of vector extensions is defined in the end. -/
lemma isDefined_simdMask_of_resolve : r.macros.isDefined simdMask = true := by
  have hlast : block = block.dropLast ++ [.default simdMask (.int 0)] := rfl
  rw [resolve, hlast] at h
  obtain ⟨r₁, -, hdefault⟩ := bind_eq_ok_iff.1 ((walkBlock_append _ _ _).symm.trans h)
  rw [walkBlock_singleton, Node.walk] at hdefault
  cases hdefault
  split
  next hdefined => exact hdefined
  next => rw [MacroTable.isDefined, value?_resolution_define, if_pos rfl, Option.isSome_some]

end Always

/-! ## The whole -/

namespace Target

def withFlags (t : Target) (flags : List (String × Int64)) : Target :=
  flags.foldl (fun t flag => t.withFlag flag.1 flag.2) t

lemma predefines_withFlags (t : Target) (flags : List (String × Int64)) :
    (t.withFlags flags).predefines = t.predefines ++ flags := by
  rw [withFlags]
  induction flags generalizing t with
  | nil => rw [List.foldl_nil, List.append_nil]
  | cons flag flags ih =>
      have hflag : (t.withFlag flag.1 flag.2).predefines = t.predefines ++ [flag] :=
        (List.append_assoc t.builtins t.flags [flag]).symm
      rw [List.foldl_cons, ih, hflag, List.append_assoc, List.singleton_append]

/-- **A detected target.**  The platform, the family and the width of the architecture and the byte
order are those of the target, as numbers and by the macros that stand for them, and the mask of
vector extensions is defined. -/
structure Detected (t : Target) (r : Resolution) : Prop where
  platform : r.macros.value? "RM_PLATFORM" = some t.platform.number ∧
    r.macros.value? t.platform.macroName = some t.platform.number
  arch : r.macros.value? "RM_ARCH" = some t.arch.familyNumber ∧
    r.macros.value? t.arch.familyName = some t.arch.familyNumber
  archBits : r.macros.value? "RM_ARCH_BITS" = some t.arch.bits
  byteOrder : r.macros.value? "RM_BYTE_ORDER" = some t.byteOrder.value ∧
    r.macros.value? t.byteOrder.macroName = some t.byteOrder.value
  simdMask : r.macros.isDefined "RM_SIMD" = true

end Target

/-- **Supported targets are detected.**  Whatever flags a compiler is called with, as long as they
define none of the decisive macros, the block does not fail and detects the target. -/
theorem detected_of_supported {t : Target} (ht : t ∈ Target.supported)
    {flags : List (String × Int64)} (hflags : ∀ flag ∈ flags, flag.1 ∉ decisiveMacros) :
    ∃ r, resolve block (t.withFlags flags).predefines = .ok r ∧ t.Detected r := by
  obtain ⟨hnone, hplatform, horder, hplatformNumber, harch, horderNumber⟩ := reports_builtins t ht
  have hpredefines : (t.withFlags flags).predefines = t.builtins ++ flags := by
    rw [Target.predefines_withFlags, Target.predefines, hnone, List.append_nil]
  rw [← noPlatform_append_iff hflags] at hplatform
  rw [← noByteOrder_append_iff hflags] at horder
  rw [← reportedArch?_append hflags] at harch
  have hknown : ¬NoArchitecture (t.builtins ++ flags) := by
    rw [← reportedArch?_eq_none_iff, harch]
    exact Option.some_ne_none t.arch
  rw [hpredefines]
  -- The flags decide nothing, so the target cannot fail in any of the three ways.
  rcases walk_targetBlock (t.builtins ++ flags) with ⟨hno, -⟩ | ⟨-, hno, -⟩ | ⟨-, -, hno, -⟩ |
    ⟨-, -, -, a, r₁, hwalk, hsettled⟩
  · exact absurd hno hplatform
  · exact absurd hno hknown
  · exact absurd hno horder
  obtain ⟨r, hsimd⟩ := exists_walkBlock_eq_ok simdBlock rfl r₁
  have hresolve : resolve block (t.builtins ++ flags) = .ok r :=
    (walkBlock_append_of_ok hwalk).trans hsimd
  have hkeeps := (keeps_of_walkBlock _ hsimd).value?_eq
  obtain rfl : a = t.arch := Option.some.inj (hsettled.reportedArch.symm.trans harch)
  refine ⟨r, hresolve, ⟨?_, t.platform.value?_macroName hresolve⟩,
    ⟨?_, t.arch.value?_familyName hresolve⟩, ?_, ⟨?_, value?_orderMacro hresolve _⟩,
    isDefined_simdMask_of_resolve hresolve⟩
  · rw [← hplatformNumber, ← platformNumber_append hflags]
    exact (hkeeps _ (by decide)).trans hsettled.platform
  · exact (hkeeps _ (by decide)).trans hsettled.arch
  · exact (hkeeps _ (by decide)).trans hsettled.archBits
  · rw [← horderNumber, ← orderNumber_append hflags]
    exact (hkeeps _ (by decide)).trans hsettled.byteOrder

/-- An ARM target with the most significant byte first. -/
def bigEndianArm : Target :=
  ⟨.linux, .aarch64, .big, []⟩

/-- Flags for an instruction set, for macros of the header with values of another target, and for a
user who forgoes vector extensions. -/
def hostileFlags : List (String × Int64) :=
  [ ("__AVX2__", 1), ("RM_PLATFORM", 2), ("RM_PLATFORM_LINUX", 2), ("RM_ARCH_BITS", 16),
    ("RM_NO_INTRINSICS", 1) ]

/-- Such flags change nothing for that target. -/
theorem detected_of_supported_bigEndianArm :
    bigEndianArm ∈ Target.supported ∧ (∀ flag ∈ hostileFlags, flag.1 ∉ decisiveMacros) ∧
      ∃ r, resolve block (bigEndianArm.withFlags hostileFlags).predefines = .ok r ∧
        bigEndianArm.Detected r := by
  have hsupported : bigEndianArm ∈ Target.supported := by decide
  have hflags : ∀ flag ∈ hostileFlags, flag.1 ∉ decisiveMacros := by decide
  exact ⟨hsupported, hflags, detected_of_supported hsupported hflags⟩

end MathHeader.Detection
