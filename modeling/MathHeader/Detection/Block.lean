import MathHeader.Detection.ByteOrder
import MathHeader.Detection.Simd

/-!
# The detection block

`block` is what the header opens with.  It settles the platform, the architecture, the byte order
and the vector extensions of the target, in this order, since the later parts ask for what the
earlier ones have settled.  A target for which one of the first three cannot be settled ends in an
`#error`.
-/

namespace MathHeader.Detection

open Preprocessor

/-! ## The platform -/

/-- The macro that holds the platform. -/
def platform : String := "RM_PLATFORM"

/-- The macro for Linux. -/
def platformLinux : String := "RM_PLATFORM_LINUX"

/-- The macro for Windows. -/
def platformWindows : String := "RM_PLATFORM_WINDOWS"

/-- The macros that are set on Windows, unless they already are, before its headers are used. -/
def windowsDefaults : List String :=
  ["WIN32_LEAN_AND_MEAN", "NOMINMAX", "_CRT_SECURE_NO_WARNINGS"]

/-- The detection of the platform. -/
def platformBlock : List Node :=
  [ .define platformLinux (.hex 1),
    .define platformWindows (.hex 2),
    .chain "CHECK PLATFORM" <| .ofList
      [ (.defined "__linux__", [.define platform (.named platformLinux)]),
        (.defined "_WIN32",
          .define platform (.named platformWindows) ::
            windowsDefaults.map fun name => .default name .flag) ]
      (.fail "unsupported platform") ]

/-! ## The architecture -/

/-- The macro that holds the architecture family. -/
def arch : String := "RM_ARCH"

/-- The macro for the x86 family. -/
def archX86 : String := "RM_ARCH_X86"

/-- The macro for the ARM family. -/
def archArm : String := "RM_ARCH_ARM"

/-- The macro for the instruction set of ARM on 32 bits. -/
def archAArch32 : String := "RM_ARCH_AARCH32"

/-- The macro for the instruction set of ARM on 64 bits. -/
def archAArch64 : String := "RM_ARCH_AARCH64"

/-- The macro that holds the instruction sets of an ARM target. -/
def archArmIsa : String := "RM_ARCH_ARM_ISA"

/-- The macro that holds the width of an address in bits. -/
def archBits : String := "RM_ARCH_BITS"

def x86Definitions (bits : Int64) : List Node :=
  [ .define arch (.named archX86),
    .define archBits (.int bits) ]

def armDefinitions (isa : Value) (bits : Int64) : List Node :=
  [ .define arch (.named archArm),
    .define archArmIsa isa,
    .define archBits (.int bits) ]

/-- The detection of the architecture. -/
def architectureBlock : List Node :=
  [ .define archX86 (.hex 1),
    .define archArm (.hex 2),
    .comment "32-bit and 64-bit arm, RM_ARCH_ARM_ISA holds the supported sets",
    .define archAArch32 (.bit 0),
    .define archAArch64 (.bit 1),
    .chain "CHECK ARCHITECTURE" <| .ofList
      [ (.anyDefined ["__x86_64__", "_M_X64", "__amd64__", "_M_AMD64"], x86Definitions 64),
        (.anyDefined ["__i386__", "_M_IX86"], x86Definitions 32),
        (.anyDefined ["__aarch64__", "_M_ARM64"],
          armDefinitions (.union [.named archAArch64, .named archAArch32]) 64),
        (.anyDefined ["__arm__", "_M_ARM"], armDefinitions (.named archAArch32) 32) ]
      (.fail "unsupported architecture") ]

/-! ## The byte order -/

/-- The definition of the byte order of the target. -/
def settleByteOrder (o : ByteOrder) : Node :=
  .define ByteOrder.settled (.named o.macroName)

/-- The byte order as the compiler reports it. -/
def reportedByteOrder : Node :=
  .chain "__BYTE_ORDER__" <| .ofList
    [ (.macrosEqual "__BYTE_ORDER__" "__ORDER_BIG_ENDIAN__", [settleByteOrder .big]),
      (.macrosEqual "__BYTE_ORDER__" "__ORDER_LITTLE_ENDIAN__", [settleByteOrder .little]) ]
    (.fail "unsupported byte order")

/-- The byte order of an ARM target that reports big-endian operation only. -/
def armByteOrder : Node :=
  .chain "" <| .ofList
    [ (.anyDefined ["__BIG_ENDIAN", "__ARM_BIG_ENDIAN"], [settleByteOrder .big]) ]
    (.otherwise [settleByteOrder .little])

def byteOrderBlock : List Node :=
  [ .define ByteOrder.big.macroName (.int ByteOrder.big.value),
    .define ByteOrder.little.macroName (.int ByteOrder.little.value),
    .chain "CHECK BYTE ORDER" <| .ofList
      [ (.all [.macrosEqual platform platformLinux, .defined "__BYTE_ORDER__"],
          [reportedByteOrder]),
        (.macrosEqual arch archX86, [settleByteOrder .little]),
        (.macrosEqual arch archArm,
          [.comment "arm is bi-endian, the compiler reports big-endian targets", armByteOrder]) ]
      (.fail "unsupported byte order") ]

/-! ## Vector extensions -/

/-- The macro by which a user forgoes vector extensions. -/
def noIntrinsics : String := "RM_NO_INTRINSICS"

/-- The detection of the vector extensions. -/
def simdBlock : List Node :=
  [ .when "NO INTRINSICS" (.undefined noIntrinsics)
      [ .chain "SIMD INTRINSICS" <| .ofList
          [ (.macrosEqual arch archX86, tierBlock x86Tiers),
            (.macrosEqual arch archArm, tierBlock armTiers) ]
          .done ],
    .default simdMask (.int 0) ]

/-! ## The whole -/

/-- The detection block. -/
def block : List Node :=
  platformBlock ++ .blank :: architectureBlock ++ .blank :: byteOrderBlock ++ .blank :: simdBlock

end MathHeader.Detection
