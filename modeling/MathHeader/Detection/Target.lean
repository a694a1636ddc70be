import MathHeader.Detection.Block
import MathHeader.Preprocessor.Resolution

/-!
# Supported targets

The targets that the detection block is made for, each with the macros that a typical compiler
predefines there.  Further macros model the flags that a compiler is called with.
`Target.predefines` gives both.
-/

namespace MathHeader.Detection

/-! ## Targets -/

/-- An operating system. -/
inductive Platform where
  | linux
  | windows
deriving DecidableEq, Repr

/-- A processor architecture. -/
inductive Arch where
  | x86_64
  | x86
  | aarch64
  | arm
deriving DecidableEq, Repr

namespace Arch

def all : List Arch :=
  [x86_64, x86, aarch64, arm]

def isX86 : Arch → Bool
  | x86_64 | x86 => true
  | aarch64 | arm => false

/-- The width of an address in bits. -/
def bits : Arch → Int64
  | x86_64 | aarch64 => 64
  | x86 | arm => 32

end Arch

/-- A target: a platform, an architecture and a byte order, with the macros of the flags that its
compiler is called with. -/
structure Target where
  platform : Platform
  arch : Arch
  byteOrder : ByteOrder
  flags : List (String × Int64)
deriving DecidableEq

namespace Target

/-- The target with one more flag. -/
def withFlag (t : Target) (name : String) (value : Int64) : Target :=
  { t with flags := t.flags ++ [(name, value)] }

/-! ## Predefined macros -/

/-- What a compiler on Linux predefines for an architecture. -/
def linuxArchMacros : Arch → List (String × Int64)
  | .x86_64 => [("__x86_64__", 1), ("__amd64__", 1), ("__SSE__", 1), ("__SSE2__", 1)]
  | .x86 => [("__i386__", 1)]
  | .aarch64 => [("__aarch64__", 1), ("__ARM_NEON", 1), ("__ARM_NEON_FP", 14)]
  | .arm => [("__arm__", 1)]

/-- What a compiler on Windows predefines for an architecture. -/
def windowsArchMacros : Arch → List (String × Int64)
  | .x86_64 => [("_WIN64", 1), ("_M_X64", 100), ("_M_AMD64", 100)]
  | .x86 => [("_M_IX86", 600), ("_M_IX86_FP", 2)]
  | .aarch64 => [("_WIN64", 1), ("_M_ARM64", 1)]
  | .arm => [("_M_ARM", 7)]

/-- What the compiler predefines of its own. -/
def builtins (t : Target) : List (String × Int64) :=
  match t.platform with
  | .linux =>
    [ ("__linux__", 1),
      ("__GNUC__", 13),
      ("__ORDER_LITTLE_ENDIAN__", ByteOrder.little.value),
      ("__ORDER_BIG_ENDIAN__", ByteOrder.big.value),
      ("__BYTE_ORDER__", t.byteOrder.value) ] ++
    linuxArchMacros t.arch ++
    (if t.byteOrder == .big && !t.arch.isX86 then [("__ARM_BIG_ENDIAN", 1)] else [])
  | .windows =>
    [ ("_WIN32", 1),
      ("_MSC_VER", 1930) ] ++
    windowsArchMacros t.arch

/-- What the compiler predefines, flags included. -/
def predefines (t : Target) : List (String × Int64) :=
  t.builtins ++ t.flags

/-! ## The list -/

def supportedOf (arch : Arch) : List Target :=
  ⟨.linux, arch, .little, []⟩ ::
    (if arch.isX86 then [] else [⟨.linux, arch, .big, []⟩]) ++ [⟨.windows, arch, .little, []⟩]

def supported : List Target :=
  Arch.all.flatMap supportedOf

end Target

end MathHeader.Detection
