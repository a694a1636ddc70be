import MathHeader.Error
import MathHeader.Symbol

/-!
# Filling templates in

A template is filled in for one type.  A placeholder takes the value that the type gives it, and
an expansion needs a vector: its expression is filled in once for each component, and the results
are joined.  Whatever the type does not have makes the whole template fail, so that no mark can
reach the header; the first mark that fails is the one that is reported, the function of a chain
being looked at after its expression.
-/

namespace MathHeader

/-! ## Values -/

/-- The value of a placeholder for a type, `component` being the position that an expansion has
reached. -/
def Placeholder.value? (p : Placeholder) (t : ShapedType) (component : Option Nat) :
    Option String :=
  match p with
  | element => some t.element.token
  | operand => some t.token
  | signedTwin => t.element.signedTwin.map Scalar.token
  | suffix => t.element.literalSuffix
  | threshold => t.element.exactThreshold
  | upper => some t.element.upperToken
  | .component => do (← t.shape.width?).components[← component]?
  | rows =>
    match t.shape with
    | .matrix r _ => some r.digits
    | _ => none
  | cols =>
    match t.shape with
    | .matrix _ c => some c.digits
    | _ => none
  | column => ValueType.column.token? t
  | transposed => ValueType.transposed.token? t

/-! ## Joined results -/

/-- Nested calls of a function: `f(f(a, b), c)`. -/
def nestedCalls (func : List Char) : List (List Char) → List Char
  | [] => []
  | first :: rest =>
    rest.foldl (fun inner arg => func ++ '(' :: inner ++ ',' :: ' ' :: arg ++ [')']) first

def call (func : List Char) (args : List (List Char)) : List Char :=
  func ++ '(' :: [',', ' '].intercalate args ++ [')']

/-- The results of an expansion joined; `func` is the function of a chain. -/
def Join.combine (j : Join) (t : ShapedType) (func : List Char) (items : List (List Char)) :
    List Char :=
  match j with
  | vector => call t.constructorName.toList items
  | boolVector => call (ShapedType.mk .bool t.shape).constructorName.toList items
  | any => call [] [" || ".toList.intercalate items]
  | all => call [] [" && ".toList.intercalate items]
  | sum => call [] [" + ".toList.intercalate items]
  | chain => nestedCalls func items

/-! ## Filled-in templates -/

/-- A part of a text with its mark filled in by `fill`. -/
def Piece.fill {μ : Type} (fill : μ → Except Missing (List Char)) :
    Piece μ → Except Missing (List Char)
  | text cs => pure cs
  | mark m => fill m

/-- A text with its marks filled in by `fill`. -/
def Piece.fillAll {μ : Type} (fill : μ → Except Missing (List Char)) (ps : List (Piece μ)) :
    Except Missing (List Char) :=
  List.flatten <$> ps.mapM (Piece.fill fill)

def Placeholder.fill (t : ShapedType) (component : Option Nat) (p : Placeholder) :
    Except Missing (List Char) :=
  match p.value? t component with
  | some s => .ok s.toList
  | none => .error (.placeholder p)

def Mark.fill (t : ShapedType) : Mark → Except Missing (List Char)
  | hole p => p.fill t none
  | expand j func expr =>
    match t.shape.width? with
    | none => .error (.expansion j)
    | some w => do
      let items ← (List.range w.toNat).mapM fun k =>
        Piece.fillAll (Placeholder.fill t (some k)) expr
      let called ← Piece.fillAll (Placeholder.fill t none) func
      pure (j.combine t called items)

/-- The body that a template gives for a type. -/
def Template.render (template : Template) (t : ShapedType) : Except GenError String :=
  match Piece.fillAll (Mark.fill t) template.pieces with
  | .ok cs => .ok (String.ofList cs)
  | .error what => .error (.unresolved what template.op t)

/-- The template of an operation that a text is the written form of. -/
def Template.parse (op source : String) : Except GenError Template :=
  match Template.readPieces source with
  | .ok pieces => .ok ⟨op, pieces⟩
  | .error fault => .error (.template op fault)

end MathHeader
