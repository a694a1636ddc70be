import MathHeader.Storage.Overlay
import MathHeader.Text.Hexadecimal

/-!
# Constants

The constants of the header are given by their bits, so that they are exact whatever the compiler
makes of a decimal literal.  Each has one macro for every float type, which casts the bits:

    #define RM_PI_F32 u32_as_f32(0x40490fdb)
-/

namespace MathHeader

/-! ## Constants and their macros -/

/-- A constant with its bits in single and in double precision. -/
structure Constant where
  name : String
  single : Nat
  double : Nat
deriving DecidableEq, Repr

def constantName (name : String) (float : Scalar) : String :=
  "RM_" ++ name ++ "_" ++ float.upperToken

namespace Constant

/-- The bits of a constant in a type, with all their digits. -/
def pattern (c : Constant) : Scalar → String
  | .f32 => Text.hexPadded 8 c.single
  | _ => Text.hexPadded 16 c.double

/-- The macro of a constant for a float type and the unsigned integers of its width. -/
def definition (c : Constant) (float unsigned : Scalar) : MacroDefinition :=
  .object (constantName c.name float)
    ((Storage.BitCast.ofBits float unsigned).name ++ "(0x" ++ c.pattern float ++ ")")

/-! ## The list -/

/-- The constants: the limits of the types, multiples and powers of π, and the factors between
degrees and radians. -/
def all : List Constant :=
  [ ⟨"HUGE", 0x7f7fffff, 0x7fefffffffffffff⟩,
    ⟨"INF", 0x7f800000, 0x7ff0000000000000⟩,
    ⟨"NAN", 0x7fc00000, 0x7ff8000000000000⟩,
    ⟨"PI", 0x40490fdb, 0x400921fb54442d18⟩,
    ⟨"2PI", 0x40c90fdb, 0x401921fb54442d18⟩,
    ⟨"PISQ", 0x411de9e7, 0x4023bd3cc9be45de⟩,
    ⟨"SQRTPI", 0x3fe2dfc5, 0x3ffc5bf891b4ef6a⟩,
    ⟨"RSQRTPI", 0x3f106eba, 0x3fe20dd750429b6d⟩,
    ⟨"PIO2", 0x3fc90fdb, 0x3ff921fb54442d18⟩,
    ⟨"1OPI", 0x3ea2f983, 0x3fd45f306dc9c883⟩,
    ⟨"2OPI", 0x3f22f983, 0x3fe45f306dc9c883⟩,
    ⟨"DEG2RAD", 0x3c8efa35, 0x3f91df46a2529d39⟩,
    ⟨"RAD2DEG", 0x42652ee0, 0x404ca5dc1a63c1f8⟩ ]

end Constant

/-- The macros of the constants, each constant for every float type. -/
def constants : List MacroDefinition :=
  Constant.all.flatMap fun c =>
    Storage.BitCast.twins.map fun (float, unsigned) => c.definition float unsigned

end MathHeader
