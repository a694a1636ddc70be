/-!
# Scalar types

The element types of the header: `bool` and the fixed-width integers and floats.  Their order is
part of what the header looks like, since every table is walked in it.
-/

namespace MathHeader

/-! ## The types -/

/-- What kind of numbers a scalar type holds. -/
inductive ScalarKind where
  | bool
  | unsigned
  | signed
  | float
deriving DecidableEq, Repr

/-- An element type of the header. -/
inductive Scalar where
  | bool
  | u8
  | u16
  | u32
  | u64
  | i8
  | i16
  | i32
  | i64
  | f32
  | f64
deriving DecidableEq, Repr

namespace Scalar

/-- Every scalar type, in the order of the header. -/
def all : List Scalar :=
  [bool, u8, u16, u32, u64, i8, i16, i32, i64, f32, f64]

theorem mem_all (s : Scalar) : s ∈ all := by
  cases s <;> decide

def kind : Scalar → ScalarKind
  | bool => .bool
  | u8 | u16 | u32 | u64 => .unsigned
  | i8 | i16 | i32 | i64 => .signed
  | f32 | f64 => .float

/-- The width of a scalar type in bits; `bool` has none. -/
def bits : Scalar → Option Nat
  | bool => none
  | u8 | i8 => some 8
  | u16 | i16 => some 16
  | u32 | i32 | f32 => some 32
  | u64 | i64 | f64 => some 64

/-- Whether values of the type can be calculated with. -/
def isNumeric (s : Scalar) : Bool :=
  s.kind != .bool

def isFloat (s : Scalar) : Bool :=
  s.kind == .float

/-! ## Spellings -/

/-- The name of the type in the header. -/
def token : Scalar → String
  | bool => "bool"
  | u8 => "u8"
  | u16 => "u16"
  | u32 => "u32"
  | u64 => "u64"
  | i8 => "i8"
  | i16 => "i16"
  | i32 => "i32"
  | i64 => "i64"
  | f32 => "f32"
  | f64 => "f64"

/-- The token in capitals, as macro names carry it. -/
def upperToken (s : Scalar) : String :=
  String.ofList (s.token.toList.map Char.toUpper)

/-- The standard type that the token is an alias of; `bool` is declared by a standard header. -/
def cType : Scalar → Option String
  | bool => none
  | u8 => some "uint8_t"
  | u16 => some "uint16_t"
  | u32 => some "uint32_t"
  | u64 => some "uint64_t"
  | i8 => some "int8_t"
  | i16 => some "int16_t"
  | i32 => some "int32_t"
  | i64 => some "int64_t"
  | f32 => some "float"
  | f64 => some "double"

/-! ## Facts about floats -/

/-- The signed integer type as wide as a float, through which a float is truncated. -/
def signedTwin : Scalar → Option Scalar
  | f32 => some i32
  | f64 => some i64
  | _ => none

/-- The unsigned integer type as wide as a float, which shows its bits. -/
def unsignedTwin : Scalar → Option Scalar
  | f32 => some u32
  | f64 => some u64
  | _ => none

/-- What follows the digits of a floating-point literal of the type. -/
def literalSuffix : Scalar → Option String
  | f32 => some "F"
  | f64 => some ""
  | _ => none

/-- The least magnitude from which on every value of a float type is an integer, as a literal:
`2 ^ 23` and `2 ^ 52`. -/
def exactThreshold : Scalar → Option String
  | f32 => some "8388608.0F"
  | f64 => some "4503599627370496.0"
  | _ => none

end Scalar

end MathHeader
