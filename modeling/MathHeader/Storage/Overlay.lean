import MathHeader.Detection.ByteOrder
import MathHeader.Macros.Definition
import MathHeader.Symbol

/-!
# Overlays of floats

For each float type the header has a union that shows the same storage as the float and as the
signed and unsigned integers of its width.  The casts between bits and floats go through it, and
nothing else in the header looks at the bits of a float.

The overlay of a double also names its two halves.  Half number zero is the most significant one,
whatever the byte order; since the members of a structure lie in memory in the order of their
declaration, the order of declaration has to follow the byte order of the target.
-/

namespace MathHeader.Storage

/-! ## The overlays -/

/-- The float types, in the order of their overlays. -/
def overlayTypes : List Scalar :=
  [.f32, .f64]

def overlayName (float : Scalar) : String :=
  float.token ++ "_cvt"

def overlayTag (float : Scalar) : String :=
  overlayName float ++ "_t"

/-- The names of the overlays with their tags. -/
def overlayNames : List String :=
  overlayTypes.flatMap fun float => [overlayTag float, overlayName float]

def typedefLine (tag name : String) : String :=
  "typedef struct " ++ tag ++ " " ++ name ++ ";"

/-- The lines that name the overlays as types. -/
def overlayTypedefs : List String :=
  overlayTypes.map fun float => typedefLine (overlayTag float) (overlayName float)

/-! ## The halves of a double -/

/-- The numbers of the halves of a double from the lowest address up. -/
def halfOrder : ByteOrder → List Nat
  | .big => [0, 1]
  | .little => [1, 0]

/-- The line that declares the halves as 32-bit integers, `u` or `i`. -/
def halvesLine (letter : String) (order : ByteOrder) : String :=
  let names := (halfOrder order).map fun n => letter ++ toString n
  "        struct \x7b" ++ letter ++ "32 " ++ ", ".intercalate names ++ ";\x7d;"

/-- The lines that declare the halves for one byte order. -/
def halvesOf (order : ByteOrder) : List String :=
  [halvesLine "u" order, halvesLine "i" order]

/-- The lines that declare the halves, for the byte order of the target. -/
def halvesLines : List String :=
  ["/* [ui]0 is the most significant half */"] ++
  ("#if " ++ ByteOrder.big.isSettled.text) :: halvesOf .big ++
  ("#elif " ++ ByteOrder.little.isSettled.text) :: halvesOf .little ++
  ["#else",
   Preprocessor.errorLine "unsupported byte order",
   Preprocessor.endLine ByteOrder.settled]

/-! ## The structures -/

/-- The lines of the structure of an overlay; only a float has one. -/
def overlayLines (float : Scalar) : List String :=
  match float.unsignedTwin, float.signedTwin with
  | some unsigned, some signed =>
    ["struct " ++ overlayTag float ++ " \x7b",
     "    union \x7b",
     "        " ++ float.token ++ " f;",
     "        " ++ unsigned.token ++ " u;",
     "        " ++ signed.token ++ " i;"] ++
    (if float == .f64 then halvesLines else []) ++
    ["    \x7d;",
     "\x7d;"]
  | _, _ => []

/-! ## The casts -/

/-- A cast that goes through an overlay: it sets some members and reads one. -/
structure BitCast where
  name : String
  overlay : Scalar
  /-- The members that are set, each with the parameter that it is set to. -/
  inputs : List (String × String)
  /-- The member that is read. -/
  output : String
deriving DecidableEq, Repr

namespace BitCast

/-- The cast from a float to its bits. -/
def toBits (float unsigned : Scalar) : BitCast :=
  ⟨float.token ++ "_as_" ++ unsigned.token, float, [("f", "_x")], "u"⟩

/-- The cast from bits to a float. -/
def ofBits (float unsigned : Scalar) : BitCast :=
  ⟨unsigned.token ++ "_as_" ++ float.token, float, [("u", "_x")], "f"⟩

/-- The float types with the unsigned integers of their width. -/
def twins : List (Scalar × Scalar) :=
  overlayTypes.filterMap fun float => float.unsignedTwin.map (float, ·)

/-- The double with given halves. -/
def ofHalves : BitCast :=
  ⟨"u32_as_f64", .f64, [("u0", "_hi"), ("u1", "_lo")], "f"⟩

/-- The most significant half of a double. -/
def highHalf : BitCast :=
  ⟨"f64_hi_u32", .f64, [("f", "_x")], "u0"⟩

/-- The least significant half of a double. -/
def lowHalf : BitCast :=
  ⟨"f64_lo_u32", .f64, [("f", "_x")], "u1"⟩

/-- The casts, in the order of their definition. -/
def all : List BitCast :=
  twins.map (fun (float, unsigned) => toBits float unsigned) ++
  twins.map (fun (float, unsigned) => ofBits float unsigned) ++
  [ofHalves, highHalf, lowHalf]

def definition (c : BitCast) : MacroDefinition :=
  .function c.name (c.inputs.map (·.2))
    ("(" ++ compoundLiteral (overlayName c.overlay)
        (c.inputs.map fun (member, param) => (member, "(" ++ param ++ ")")) ++
      "." ++ c.output ++ ")")

end BitCast

end MathHeader.Storage
