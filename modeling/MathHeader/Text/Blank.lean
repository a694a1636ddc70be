/-!
# Blank characters and trimming

A character is *blank* if it has the Unicode property `White_Space`.  Core's `Char.isWhitespace`
knows the ASCII part of that set only, and lacks the vertical tab and the form feed; every blank
of core is blank here (`isBlank_of_isWhitespace`).

Trimming removes the longest run of blanks from one end or from both ends of a text.
-/

namespace MathHeader.Text

/-! ## The property -/

/-- Whether a character has the property `White_Space`: the controls from tab to carriage return,
the space, next line, no-break space, and the spaces and separators of the general punctuation
and ideographic blocks. -/
def isBlank (c : Char) : Bool :=
  let n := c.toNat
  (9 ≤ n && n ≤ 13) || n == 0x20 || n == 0x85 || n == 0xA0 || n == 0x1680 ||
    (0x2000 ≤ n && n ≤ 0x200A) || n == 0x2028 || n == 0x2029 || n == 0x202F || n == 0x205F ||
    n == 0x3000

theorem isBlank_of_isWhitespace {c : Char} (h : c.isWhitespace = true) : isBlank c = true := by
  simp only [Char.isWhitespace, Bool.or_eq_true, decide_eq_true_eq] at h
  rcases h with ((rfl | rfl) | rfl) | rfl <;> decide

/-! ## Trimming -/

/-- The characters without the blanks in front. -/
def dropBlanks (cs : List Char) : List Char :=
  cs.dropWhile isBlank

def dropEndBlanks (cs : List Char) : List Char :=
  (dropBlanks cs.reverse).reverse

/-- A text without the blanks in front. -/
def trimStart (text : String) : String :=
  String.ofList (dropBlanks text.toList)

def trimEnd (text : String) : String :=
  String.ofList (dropEndBlanks text.toList)

/-- A text without the blanks at either end. -/
def trim (text : String) : String :=
  trimEnd (trimStart text)

end MathHeader.Text
