import MathHeader.Identifier
import MathHeader.Preprocessor.Resolution
import MathHeader.Proofs.Text.Numeral
import Mathlib.Algebra.Group.Int.Defs

/-!
# Expressions of the preprocessor

What a preprocessor makes of the text after `#if`, or of the value of a macro, is a matter of the
expression grammar of C and not of how the text came about.  This is that grammar, as far as
detection blocks need it: names, numbers, `defined`, negation, parentheses, and five operators with
two operands.

A text is cut into tokens, each the longest at its place.  Tokens are read from the left into
parts: an expression in parentheses is one part as soon as it is closed, and the parts in front of
the parentheses wait for it in `outer`.  Parts are combined by the precedence of operators:
`combine?` divides them at the operator that binds least, and what stands between at the others.

Computing follows the integers of a preprocessor, which have 64 bits.  An expression has no value
if one of its numbers is out of range, or if a shift is: all operands are computed, those too that
a lazy evaluation would pass over.
-/

namespace MathHeader.Preprocessor

/-! ## Tokens -/

/-- An operator with two operands. -/
inductive Operator where
  | or
  | and
  | bitOr
  | equal
  | shift
deriving DecidableEq, Repr

/-- An element of an expression. -/
inductive Token where
  | name (name : String)
  | number (n : Nat)
  | defined
  | minus
  | not
  | opening
  | closing
  | operator (o : Operator)
  /-- What is part of no expression. -/
  | stray
deriving DecidableEq, Repr

/-- The number of a literal: hexadecimal after `0x`, and otherwise decimal.  A literal that goes on
after a zero would be octal and is not read. -/
def literal? : List Char → Option Nat
  | '0' :: 'x' :: digits => Text.numeral? 16 digits
  | ['0'] => some 0
  | '0' :: _ => none
  | digits => Text.numeral? 10 digits

namespace Token

def ofWord (word : List Char) : Token :=
  if word = "defined".toList then defined
  else if isWord word then name (String.ofList word)
  else match literal? word with
    | some n => number n
    | none => stray

/-- The token that starts with a character that is no part of a word, and its length.  A blank is
no token. -/
def ofSign (c : Char) (rest : List Char) : Option Token × Nat :=
  match c, rest with
  | ' ', _ => (none, 1)
  | '(', _ => (some opening, 1)
  | ')', _ => (some closing, 1)
  | '-', _ => (some minus, 1)
  | '|', '|' :: _ => (some (operator .or), 2)
  | '|', _ => (some (operator .bitOr), 1)
  | '&', '&' :: _ => (some (operator .and), 2)
  | '=', '=' :: _ => (some (operator .equal), 2)
  | '<', '<' :: _ => (some (operator .shift), 2)
  | '!', '=' :: _ => (some stray, 2)
  | '!', _ => (some not, 1)
  | _, _ => (some stray, 1)

/-- The token that a text starts with, and its length. -/
def atFront (c : Char) (rest : List Char) : Option Token × Nat :=
  if isWordChar c then
    let word := c :: rest.takeWhile isWordChar
    (some (ofWord word), word.length)
  else ofSign c rest

end Token

/-- The tokens of a text after its first `skip` characters. -/
def tokensFrom : Nat → List Char → List Token
  | _, [] => []
  | skip + 1, _ :: cs => tokensFrom skip cs
  | 0, c :: cs => (Token.atFront c cs).1.toList ++ tokensFrom ((Token.atFront c cs).2 - 1) cs

/-- The tokens of a text. -/
def tokens (cs : List Char) : List Token :=
  tokensFrom 0 cs

/-! ## Expressions -/

/-- An expression of the preprocessor. -/
inductive Expression where
  | number (n : Int)
  | named (name : String)
  | defined (name : String)
  | not (e : Expression)
  | binary (o : Operator) (left right : Expression)
deriving DecidableEq

/-- The number that stands for a truth value. -/
def truth (b : Bool) : Int64 :=
  if b then 1 else 0

/-- A number in the range of the preprocessor. -/
def int64? (n : Int) : Option Int64 :=
  if -2 ^ 63 ≤ n ∧ n < 2 ^ 63 then some (.ofInt n) else none

/-- What an operator makes of two numbers.  A shift must not lose a bit. -/
def Operator.compute? (o : Operator) (x y : Int64) : Option Int64 :=
  match o with
  | or => some (truth (x != 0 || y != 0))
  | and => some (truth (x != 0 && y != 0))
  | bitOr => some (x ||| y)
  | equal => some (truth (x == y))
  | shift =>
    if 0 ≤ x ∧ 0 ≤ y ∧ y < 64 then int64? (x.toInt * 2 ^ y.toInt.toNat) else none

/-- The value of an expression for the given macros, of which an undefined one counts as zero. -/
def Expression.eval (t : MacroTable) : Expression → Option Int64
  | number n => int64? n
  | named name => some (t.valueOrZero name)
  | defined name => some (truth (t.isDefined name))
  | not e => (e.eval t).map fun x => truth (x == 0)
  | binary o left right => do o.compute? (← left.eval t) (← right.eval t)

/-! ## Precedence -/

/-- A part of an expression that is not put together yet. -/
inductive Part where
  | operand (e : Expression)
  | not
  | operator (o : Operator)
deriving DecidableEq

/-- The operators, from the one that binds least. -/
def precedence : List Operator :=
  [.or, .and, .bitOr, .equal, .shift]

/-- The expression of an operand under negations, which bind more than any operator. -/
def operand? : List Part → Option Expression
  | [.operand e] => some e
  | .not :: parts => (operand? parts).map .not
  | _ => none

/-- The expressions as operands of an operator, grouped from the left. -/
def joined? (o : Operator) : List Expression → Option Expression
  | [] => none
  | e :: es => some (es.foldl (.binary o) e)

/-- The expression that parts make, in which the given operators can stand. -/
def combine? : List Operator → List Part → Option Expression
  | [], parts => operand? parts
  | o :: tighter, parts => do
    joined? o (← (parts.splitOn (.operator o)).mapM (combine? tighter))

/-! ## Reading -/

/-- The expression that tokens make after the given parts.  The parts in front of each parenthesis
that is still open are in `outer`, the innermost first. -/
def readFrom (parts : List Part) (outer : List (List Part)) : List Token → Option Expression
  | [] => if outer.isEmpty then combine? precedence parts else none
  | .defined :: .opening :: .name n :: .closing :: ts =>
    readFrom (parts ++ [.operand (.defined n)]) outer ts
  | .defined :: .name n :: ts => readFrom (parts ++ [.operand (.defined n)]) outer ts
  | .minus :: .number n :: ts => readFrom (parts ++ [.operand (.number (-n))]) outer ts
  | .number n :: ts => readFrom (parts ++ [.operand (.number n)]) outer ts
  | .name n :: ts => readFrom (parts ++ [.operand (.named n)]) outer ts
  | .not :: ts => readFrom (parts ++ [.not]) outer ts
  | .operator o :: ts => readFrom (parts ++ [.operator o]) outer ts
  | .opening :: ts => readFrom [] (parts :: outer) ts
  | .closing :: ts =>
    match outer with
    | [] => none
    | front :: outer => do
      let e ← combine? precedence parts
      readFrom (front ++ [.operand e]) outer ts
  | _ => none

section Steps

variable (parts : List Part) (outer : List (List Part)) (ts : List Token)

lemma readFrom_defined (name : String) :
    readFrom parts outer (.defined :: .opening :: .name name :: .closing :: ts) =
      readFrom (parts ++ [.operand (.defined name)]) outer ts := rfl

lemma readFrom_negative (n : Nat) : readFrom parts outer (.minus :: .number n :: ts) =
    readFrom (parts ++ [.operand (.number (-n))]) outer ts := rfl

lemma readFrom_number (n : Nat) : readFrom parts outer (.number n :: ts) =
    readFrom (parts ++ [.operand (.number n)]) outer ts := rfl

lemma readFrom_name (name : String) : readFrom parts outer (.name name :: ts) =
    readFrom (parts ++ [.operand (.named name)]) outer ts := rfl

lemma readFrom_not : readFrom parts outer (.not :: ts) = readFrom (parts ++ [.not]) outer ts := rfl

lemma readFrom_operator (o : Operator) : readFrom parts outer (.operator o :: ts) =
    readFrom (parts ++ [.operator o]) outer ts := rfl

lemma readFrom_opening : readFrom parts outer (.opening :: ts) = readFrom [] (parts :: outer) ts :=
  rfl

/-- A closing parenthesis puts its expression behind the parts in front of the opening one. -/
lemma readFrom_closing {e : Expression} (h : combine? precedence parts = some e)
    (front : List Part) : readFrom parts (front :: outer) (.closing :: ts) =
      readFrom (front ++ [.operand e]) outer ts := by
  change ((combine? precedence parts).bind fun e => readFrom (front ++ [.operand e]) outer ts) = _
  rw [h, Option.bind_some]

end Steps

def read? (text : String) : Option Expression :=
  readFrom [] [] (tokens text.toList)

end MathHeader.Preprocessor
