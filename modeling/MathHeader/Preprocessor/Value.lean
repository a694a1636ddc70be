import MathHeader.Preprocessor.Condition
import MathHeader.Text.Hexadecimal

/-!
# Values of macros

The value that a `#define` gives to a macro: a number in one of several spellings, another macro,
or the bits of several values together.
-/

namespace MathHeader.Preprocessor

/-- What a macro is defined as. -/
inductive Value where
  /-- One, as the mark of a macro that is just defined. -/
  | flag
  | int (value : Int64)
  /-- A number written in hexadecimal. -/
  | hex (value : Int64)
  /-- The number with one bit set. -/
  | bit (position : Nat)
  /-- The value of another macro. -/
  | named (name : String)
  /-- The bits of several values. -/
  | union (parts : List Value)

namespace Value

mutual

/-- The text of a value.  A hexadecimal number shows its 64 bits, so that a negative one appears in
two's complement. -/
def text : Value → String
  | flag => "1"
  | int value => toString value.toInt
  | hex value => "0x" ++ Text.hexDigits value.toUInt64.toNat
  | bit position => parenthesized ("1 << " ++ toString position)
  | named name => name
  | union parts => parenthesized (" | ".intercalate (partTexts parts))

def partTexts : List Value → List String
  | [] => []
  | v :: vs => v.text :: partTexts vs

end

end Value

end MathHeader.Preprocessor
