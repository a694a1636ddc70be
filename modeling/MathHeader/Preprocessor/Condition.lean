/-!
# Conditions of the preprocessor

A condition of an `#if` asks whether a macro is defined or whether two values are equal, or it is
made of such questions by negation, disjunction and conjunction.  Its text puts parentheses around
a negated condition, unless that asks whether a macro is defined, and around a group of two or more
terms inside another group.

A condition that would make its line longer than `maxLine` bytes is broken between the terms of its
outermost group.  A broken line ends in a backslash, and the next one starts with `continuation`;
`Condition.directive` gives the lines of a directive with a condition.
-/

namespace MathHeader.Preprocessor

/-! ## Conditions -/

/-- A side of an equation. -/
inductive Operand where
  /-- The value of a macro. -/
  | named (name : String)
  | int (value : Int64)
deriving DecidableEq

/-- What an `#if` asks. -/
inductive Condition where
  | defined (name : String)
  | equal (left right : Operand)
  | not (condition : Condition)
  | any (terms : List Condition)
  | all (terms : List Condition)

namespace Condition

/-- Whether a macro is not defined. -/
def undefined (name : String) : Condition :=
  not (defined name)

/-- Whether at least one of some macros is defined. -/
def anyDefined (names : List String) : Condition :=
  any (names.map defined)

/-- Whether two macros have the same value. -/
def macrosEqual (left right : String) : Condition :=
  equal (.named left) (.named right)

def macroIs (name : String) (value : Int64) : Condition :=
  equal (.named name) (.int value)

/-- Whether a condition is a group of two or more terms. -/
def isGroup : Condition → Bool
  | any terms => 1 < terms.length
  | all terms => 1 < terms.length
  | _ => false

end Condition

/-! ## Text -/

/-- The text of a side of an equation. -/
def Operand.text : Operand → String
  | named name => name
  | int value => toString value.toInt

/-- A text in parentheses. -/
def parenthesized (text : String) : String :=
  "(" ++ text ++ ")"

namespace Condition

mutual

def text : Condition → String
  | defined name => "defined" ++ parenthesized name
  | equal left right => left.text ++ " == " ++ right.text
  | not (defined name) => "!defined" ++ parenthesized name
  | not c => "!" ++ parenthesized c.text
  | any terms => " || ".intercalate (termTexts terms)
  | all terms => " && ".intercalate (termTexts terms)

def termTexts : List Condition → List String
  | [] => []
  | c :: cs => (if c.isGroup then parenthesized c.text else c.text) :: termTexts cs

end

/-! ## Lines -/

/-- The parts of the text of a condition that stay on one line: the terms of the outermost group,
each but the last followed by the operator. -/
def breakable : Condition → List String
  | any terms => withOperator " || " (termTexts terms)
  | all terms => withOperator " && " (termTexts terms)
  | c => [c.text]
where
  /-- The texts, each but the last followed by the operator. -/
  withOperator (operator : String) : List String → List String
    | [] => []
    | [last] => [last]
    | t :: ts => (t ++ operator) :: withOperator operator ts

end Condition

/-- The greatest length of an unbroken line, in bytes. -/
def maxLine : Nat := 78

/-- What a line that continues another one starts with. -/
def continuation : String := "    "

/-- Fills lines with parts, `current` being the line under way.  A part that would make the line
too long starts a new one, unless the line holds no part yet. -/
def fillLines (current : String) (holdsPart : Bool) : List String → List String
  | [] => [current]
  | p :: ps =>
    if holdsPart && maxLine < current.utf8ByteSize + p.utf8ByteSize then
      (current ++ "\\") :: fillLines (continuation ++ p) true ps
    else fillLines (current ++ p) true ps

/-- The lines of a directive with a condition. -/
def Condition.directive (word : String) (c : Condition) : List String :=
  let whole := word ++ " " ++ c.text
  if whole.utf8ByteSize ≤ maxLine then [whole] else fillLines (word ++ " ") false c.breakable

end MathHeader.Preprocessor
