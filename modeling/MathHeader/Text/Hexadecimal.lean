/-!
# Hexadecimal text

Bit patterns are written in lower-case hexadecimal, either with the fewest digits or padded with
zeros to a fixed count.
-/

namespace MathHeader.Text

/-- A number in lower-case hexadecimal with the fewest digits; zero is `0`. -/
def hexDigits (n : Nat) : String :=
  String.ofList (Nat.toDigits 16 n)

/-- A number in lower-case hexadecimal, padded on the left with zeros to `width` digits. -/
def hexPadded (width n : Nat) : String :=
  let digits := Nat.toDigits 16 n
  String.ofList (List.replicate (width - digits.length) '0' ++ digits)

end MathHeader.Text
