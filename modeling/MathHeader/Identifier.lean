/-!
# C identifiers

Every name that the header declares has to be an identifier of C: a letter or an underscore,
followed by letters, digits and underscores, and not a word that the language keeps for itself.
Letters and digits are those of ASCII, which is what a C compiler accepts everywhere.
`isIdentifier` is the rule.
-/

namespace MathHeader

/-! ## Characters -/

/-- A character that an identifier may start with. -/
def isWordStart (c : Char) : Bool :=
  c == '_' || c.isAlpha

/-- A character that may follow in an identifier. -/
def isWordChar (c : Char) : Bool :=
  c == '_' || c.isAlphanum

/-! ## The rule -/

/-- The words that cannot be declared.  `bool` is among them although it comes from a standard
header: the generated code relies on its meaning. -/
def keywords : List String :=
  ["auto", "break", "case", "char", "const", "continue", "default", "do", "double", "else",
   "enum", "extern", "float", "for", "goto", "if", "inline", "int", "long", "register",
   "restrict", "return", "short", "signed", "sizeof", "static", "struct", "switch",
   "typedef", "union", "unsigned", "void", "volatile", "while", "bool"]

/-- Whether the characters are shaped like an identifier, keywords included. -/
def isWord : List Char → Bool
  | [] => false
  | c :: cs => isWordStart c && cs.all isWordChar

/-- Whether a name can be declared. -/
def isIdentifier (name : String) : Bool :=
  isWord name.toList && !keywords.contains name

theorem isWordChar_of_isWordStart {c : Char} (h : isWordStart c = true) : isWordChar c = true := by
  simp only [isWordStart, Bool.or_eq_true] at h
  rcases h with h | h <;> simp [isWordChar, Char.isAlphanum, h]

end MathHeader
