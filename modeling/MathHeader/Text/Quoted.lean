import MathHeader.Text.CodePoints
import MathHeader.Text.Hexadecimal

/-!
# Quoted texts

A message that cites a text verbatim puts it between double quotes and escapes what could not be
read there: the quote and the backslash by a backslash, the common controls by their letter, and
any other character that is invisible or attaches to its neighbour by its code point in braces.
An apostrophe is left alone.
-/

namespace MathHeader.Text

/-- The written form of one character inside double quotes. -/
def escapeChar (c : Char) : String :=
  match c with
  | '\x00' => "\\0"
  | '\t' => "\\t"
  | '\r' => "\\r"
  | '\n' => "\\n"
  | '"' => "\\\""
  | '\\' => "\\\\"
  | _ =>
    if isAttached c || !isPrintable c then "\\u\x7b" ++ hexDigits c.toNat ++ "\x7d"
    else c.toString

/-- A text between double quotes, with its special characters escaped. -/
def quoted (text : String) : String :=
  "\"" ++ String.join (text.toList.map escapeChar) ++ "\""

end MathHeader.Text
