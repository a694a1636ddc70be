import MathHeader.Preprocessor.Node

/-!
# Vector extensions of processors

A processor family has a ladder of vector extensions, each of which includes the ones below it.  A
*tier* is a rung: the macro that marks it, its bit in the mask `RM_SIMD`, what a compiler defines
when it is enabled, and its header of intrinsics.

`tierBlock` is the part of the detection block for one ladder.  It goes down the ladder, so that an
enabled tier enables the one below; then the mask collects the highest enabled tier and all below
it, and the header of that tier is included.
-/

namespace MathHeader.Detection

open Preprocessor

/-! ## Rungs -/

/-- A level of vector extensions. -/
structure Tier where
  /-- The macro that is defined when the tier is enabled. -/
  name : String
  /-- The place of the tier in the mask. -/
  bit : Nat
  /-- Any of these enables the tier. -/
  triggers : List Condition
  /-- The header of intrinsics. -/
  header : String
  /-- The label of the tier in comments. -/
  label : String

/-! ## The ladders -/

/-- The level of vector instructions that one compiler reports as a number. -/
def reportedLevel (level : Int64) : Condition :=
  .all [.defined "_M_IX86_FP", .macroIs "_M_IX86_FP" level]

/-- The tiers of x86 processors.  On 64 bits the second is always there, and one compiler does not
report it. -/
def x86Tiers : List Tier :=
  [ ⟨"RM_SSE", 0, [.defined "__SSE__", reportedLevel 1], "xmmintrin.h", "SSE INTRINSICS"⟩,
    ⟨"RM_SSE2", 1, [.defined "__SSE2__", reportedLevel 2, .defined "_M_X64"], "emmintrin.h",
      "SSE2 INTRINSICS"⟩,
    ⟨"RM_SSE3", 2, [.defined "__SSE3__"], "pmmintrin.h", "SSE3 INTRINSICS"⟩,
    ⟨"RM_SSSE3", 3, [.defined "__SSSE3__"], "tmmintrin.h", "SSSE3 INTRINSICS"⟩,
    ⟨"RM_SSE4_1", 4, [.defined "__SSE4_1__"], "smmintrin.h", "SSE4.1 INTRINSICS"⟩,
    ⟨"RM_SSE4_2", 5, [.defined "__SSE4_2__"], "nmmintrin.h", "SSE4.2 INTRINSICS"⟩,
    ⟨"RM_AVX", 6, [.defined "__AVX__"], "immintrin.h", "AVX INTRINSICS"⟩,
    ⟨"RM_AVX2", 7, [.defined "__AVX2__"], "immintrin.h", "AVX2 INTRINSICS"⟩ ]

def armTiers : List Tier :=
  [ ⟨"RM_NEON", 0,
      [.all [.anyDefined ["__ARM_NEON__", "__ARM_NEON"],
             .anyDefined ["__ARM_NEON_FP__", "__ARM_NEON_FP"]],
       .defined "_M_ARM64"],
      "arm_neon.h", "NEON INTRINSICS"⟩ ]

/-! ## The detection of a ladder -/

/-- The macro that holds the mask of the enabled tiers. -/
def simdMask : String := "RM_SIMD"

/-- The node that enables a tier, given the tiers above it. -/
def enableTier (tier : Tier) (above : List Tier) : Node :=
  let implied := (above.take 1).map fun higher => Condition.defined higher.name
  .when tier.label (.any (tier.triggers ++ implied)) [.default tier.name (.bit tier.bit)]

/-- The nodes that enable the tiers of a ladder, the highest first. -/
def enableTiers : List Tier → List Node
  | [] => []
  | tier :: above => enableTiers above ++ [enableTier tier above]

/-- The value of the mask when a tier is the highest enabled one; `below` are the tiers under it,
the nearest first. -/
def maskValue (tier : Tier) (below : List Tier) : Value :=
  match below with
  | [] => .named tier.name
  | _ => .union ((tier :: below).map fun t => .named t.name)

/-- The alternatives that set the mask, for tiers given from the highest down. -/
def maskArms : List Tier → Arms
  | [] => .done
  | tier :: below =>
    .arm (.defined tier.name) [.define simdMask (maskValue tier below)] (maskArms below)

/-- The alternatives that include a header, for tiers given from the highest down. -/
def headerArms : List Tier → Arms
  | [] => .done
  | tier :: below => .arm (.defined tier.name) [.include tier.header] (headerArms below)

/-- The detection of the tiers of a ladder, which is given from the lowest up. -/
def tierBlock (tiers : List Tier) : List Node :=
  enableTiers tiers ++
    [ .chain "SIMD MASK" (maskArms tiers.reverse),
      .chain "INTRINSICS HEADER" (headerArms tiers.reverse) ]

end MathHeader.Detection
