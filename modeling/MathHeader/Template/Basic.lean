import MathHeader.Shape

/-!
# Body templates

The body of an operation is written once, as a *template*, and filled in for every type.  A
template is C text with two kinds of marks in it:

* a **placeholder** in braces stands for something that the type decides: its element type, its
  token, the rows of a matrix;
* an **expansion** repeats an expression once for each component of a vector and joins the results
  into a constructor call, a chain of operators or a chain of calls.

A list of `Piece`s is text with marks of one type in it.  Expansions do not nest, and that is part
of the types: the marks inside an expansion are placeholders, those of a whole template are
placeholders and expansions.

`Template.source` writes a template down again.
-/

namespace MathHeader

/-! ## Placeholders -/

/-- Something that the type of an operand decides. -/
inductive Placeholder where
  /-- The element type. -/
  | element
  /-- The type of the operand itself. -/
  | operand
  /-- The signed integer type as wide as a float. -/
  | signedTwin
  /-- The suffix of floating-point literals. -/
  | suffix
  /-- The magnitude from which on every float is an integer. -/
  | threshold
  /-- The element type in capitals. -/
  | upper
  /-- The component that an expansion has reached. -/
  | component
  /-- The count of rows of a matrix. -/
  | rows
  /-- The count of columns of a matrix. -/
  | cols
  /-- The type of a column of a matrix. -/
  | column
  /-- The type of the transposed matrix. -/
  | transposed
deriving DecidableEq, Repr

namespace Placeholder

def all : List Placeholder :=
  [element, operand, signedTwin, suffix, threshold, upper, component, rows, cols, column,
   transposed]

/-- The name of a placeholder, as it stands between braces. -/
def name : Placeholder → String
  | element => "T"
  | operand => "V"
  | signedTwin => "I"
  | suffix => "L"
  | threshold => "EXACT"
  | upper => "TU"
  | component => "c"
  | rows => "R"
  | cols => "C"
  | column => "VC"
  | transposed => "VT"

def ofName? (name : String) : Option Placeholder :=
  all.find? fun p => p.name == name

theorem ofName?_name (p : Placeholder) : ofName? p.name = some p := by
  cases p <;> decide

theorem name_of_ofName? {name : String} {p : Placeholder} (h : ofName? name = some p) :
    p.name = name := by
  simpa using List.find?_some h

/-- A placeholder as messages show it: its name between braces. -/
def mark (p : Placeholder) : String :=
  "\x7b" ++ p.name ++ "\x7d"

/-- Whether a placeholder has a meaning inside an expansion only. -/
def isPerComponent : Placeholder → Bool
  | component => true
  | _ => false

end Placeholder

/-! ## Joins -/

/-- How the results of an expansion are joined. -/
inductive Join where
  /-- A call of the constructor of the operand type. -/
  | vector
  /-- A call of the constructor of the `bool` vector as wide as the operand. -/
  | boolVector
  /-- A disjunction. -/
  | any
  /-- A conjunction. -/
  | all
  /-- A sum. -/
  | sum
  /-- Nested calls of a function of two arguments. -/
  | chain
deriving DecidableEq, Repr

namespace Join

def kinds : List Join :=
  [vector, boolVector, any, all, sum, chain]

def name : Join → String
  | vector => "vec"
  | boolVector => "bvec"
  | any => "any"
  | all => "all"
  | sum => "sum"
  | chain => "chain"

def ofName? (name : String) : Option Join :=
  kinds.find? fun j => j.name == name

theorem ofName?_name (j : Join) : ofName? j.name = some j := by
  cases j <;> decide

theorem name_of_ofName? {name : String} {j : Join} (h : ofName? name = some j) :
    j.name = name := by
  simpa using List.find?_some h

/-- A join as messages show it: its name after the sign that opens an expansion. -/
def mark (j : Join) : String :=
  "@" ++ j.name

end Join

/-! ## Templates -/

/-- A part of a text with marks of type `μ` in it. -/
inductive Piece (μ : Type) where
  | text (chars : List Char)
  | mark (mark : μ)
deriving DecidableEq, Repr

/-- Text with placeholders in it, as it stands inside an expansion. -/
abbrev Phrase := List (Piece Placeholder)

/-- A mark in a template.  The function of an expansion is empty unless the expansion is a chain of
calls. -/
inductive Mark where
  | hole (placeholder : Placeholder)
  | expand (join : Join) (func expr : Phrase)
deriving DecidableEq, Repr

/-- A template with the name of the operation that it belongs to. -/
structure Template where
  op : String
  pieces : List (Piece Mark)
deriving DecidableEq, Repr

/-! ## The written form -/

/-- A part of a text as it is written, its marks being written by `write`. -/
def Piece.chars {μ : Type} (write : μ → List Char) : Piece μ → List Char
  | text cs => cs
  | mark m => write m

/-- A placeholder as it is written. -/
def Placeholder.chars (p : Placeholder) : List Char :=
  '{' :: p.name.toList ++ ['}']

/-- A phrase as it is written. -/
def Phrase.chars (phrase : Phrase) : List Char :=
  phrase.flatMap (Piece.chars Placeholder.chars)

/-- What stands between the braces of an expansion, after the sign that opens it. -/
def expansionChars (join : Join) (func expr : Phrase) : List Char :=
  match join with
  | .chain => join.name.toList ++ ':' :: Phrase.chars func ++ ':' :: Phrase.chars expr
  | _ => join.name.toList ++ ':' :: Phrase.chars expr

/-- A mark as it is written. -/
def Mark.chars : Mark → List Char
  | hole p => p.chars
  | expand j func expr => '{' :: '@' :: expansionChars j func expr ++ ['}']

/-- A template as it is written. -/
def Template.source (t : Template) : String :=
  String.ofList (t.pieces.flatMap (Piece.chars Mark.chars))

end MathHeader
