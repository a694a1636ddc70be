import MathHeader.Identifier

/-!
# Lexemes of a template

A brace in a template is either part of the C text or opens a mark.  `lexemes` decides that, and
nothing else: it cuts the text into single characters, named marks `{name}`, and groups `{@…}`.  A
brace that opens none of these is a character like any other, so that blocks of C code can stand in
a template as they are.

A group ends at the brace that closes it, braces inside it being counted; that brace is found by
`closingIndex`.  A group that is never closed shows as the lexeme `opened`.

The recursion is on the text.  After a lexeme of several characters the scan passes over all but
the first of them, which `lexemesFrom` counts down.
-/

namespace MathHeader

/-! ## Closing braces -/

/-- The position of the brace that closes a brace opened before the text, when `inner` further
braces have been opened since. -/
def closingIndex : Nat → List Char → Option Nat
  | _, [] => none
  | inner, c :: cs =>
    if c = '{' then (closingIndex (inner + 1) cs).map (· + 1)
    else if c = '}' then
      match inner with
      | 0 => some 0
      | inner + 1 => (closingIndex inner cs).map (· + 1)
    else (closingIndex inner cs).map (· + 1)

/-! ## The parts of a template -/

/-- A part of a template, not yet understood. -/
inductive Lexeme where
  /-- A character of the C text. -/
  | char (c : Char)
  /-- A name between braces. -/
  | named (name : List Char)
  /-- What stands between `{@` and its closing brace. -/
  | group (inner : List Char)
  /-- A `{@` that is never closed. -/
  | opened
deriving DecidableEq, Repr

namespace Lexeme

/-- The characters that a lexeme was cut from. -/
def chars : Lexeme → List Char
  | char c => [c]
  | named name => '{' :: name ++ ['}']
  | group inner => '{' :: '@' :: inner ++ ['}']
  | opened => ['{', '@']

/-- The lexeme that an opening brace starts, `rest` being the text after the brace. -/
def ofBrace (rest : List Char) : Lexeme :=
  match rest with
  | '@' :: _ =>
    match closingIndex 0 rest with
    | some k => group ((rest.take k).drop 1)
    | none => opened
  | _ =>
    let name := rest.takeWhile isWordChar
    if !name.isEmpty && (rest.drop name.length).head? == some '}' then named name else char '{'

/-- The lexeme at the front of the text `c :: rest`. -/
def atFront (c : Char) (rest : List Char) : Lexeme :=
  if c = '{' then ofBrace rest else char c

end Lexeme

/-! ## The cut -/

/-- The lexemes of a text after its first `skip` characters. -/
def lexemesFrom : Nat → List Char → List Lexeme
  | _, [] => []
  | skip + 1, _ :: cs => lexemesFrom skip cs
  | 0, c :: cs =>
    let l := Lexeme.atFront c cs
    l :: lexemesFrom (l.chars.length - 1) cs

/-- The lexemes of a text. -/
def lexemes (cs : List Char) : List Lexeme :=
  lexemesFrom 0 cs

end MathHeader
