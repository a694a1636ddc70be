import MathHeader.Macros.Definition
import MathHeader.Symbol
import MathHeader.Taxonomy

/-!
# Constructors of vectors

A vector is built by a macro named after its type.  There is one that takes every component, one
that takes a single value for all of them, and for the longer vectors some that take a shorter
vector among their arguments:

    rm_f32x4(_x, _y, _z, _w)
    rm_f32x4s(_s)
    rm_f32x4sv2s(_x, _v, _w)

The suffix of such a *composite* constructor spells its arguments.  Where two scalars stand next to
each other it spells one `s` only, which is no ambiguity since the width of the vector is known.

The matrix operations call constructors with all components of a column at once; the macros
`rm_splat2` to `rm_splat4` spell these out.
-/

namespace MathHeader

/-! ## Arguments -/

/-- An argument of a constructor. -/
inductive Argument where
  /-- The next component. -/
  | component
  /-- A vector with the next components. -/
  | vector (width : Width)
deriving DecidableEq, Repr

/-- The composite constructors of a vector: their suffixes and arguments. -/
def composites : Width → List (String × List Argument)
  | .two => []
  | .three =>
    [ ("sv2", [.component, .vector .two]),
      ("v2s", [.vector .two, .component]) ]
  | .four =>
    [ ("sv2", [.component, .component, .vector .two]),
      ("v2s", [.vector .two, .component, .component]),
      ("sv2s", [.component, .vector .two, .component]),
      ("sv3", [.component, .vector .three]),
      ("v3s", [.vector .three, .component]) ]

/-- The count of components that an argument sets. -/
def Argument.size : Argument → Nat
  | component => 1
  | vector w => w.toNat

/-- The name of the parameter for an argument that sets the first of the given components. -/
def Argument.parameter (components : List String) : Argument → List String
  | component => (components.take 1).map ("_" ++ ·)
  | vector _ => ["_v"]

def Argument.values (components : List String) : Argument → List String
  | component => (components.take 1).map fun c => "(_" ++ c ++ ")"
  | vector w => w.components.map ("(_v)." ++ ·)

/-- What each of the arguments gives for the components that are left to it. -/
def overArguments (f : List String → Argument → List String) (components : List String) :
    List Argument → List String
  | [] => []
  | a :: rest => f components a ++ overArguments f (components.drop a.size) rest

/-! ## The constructors of one type -/

def constructorFrom (element : Scalar) (w : Width) (suffix : String) (arguments : List Argument) :
    MacroDefinition :=
  let type := ShapedType.ofWidth element w
  .function (type.constructorName ++ suffix)
    (overArguments Argument.parameter w.components arguments)
    (compoundLiteral type.token
      (w.components.zip (overArguments Argument.values w.components arguments)))

/-- The constructor that takes every component. -/
def fullConstructor (element : Scalar) (w : Width) : MacroDefinition :=
  constructorFrom element w "" (List.replicate w.toNat .component)

/-- The constructor that takes one value for every component. -/
def splatConstructor (element : Scalar) (w : Width) : MacroDefinition :=
  let type := ShapedType.ofWidth element w
  .function type.splatName ["_s"]
    (compoundLiteral type.token (w.components.map fun c => (c, "(_s)")))

def vectorConstructors (element : Scalar) (w : Width) : List MacroDefinition :=
  fullConstructor element w :: splatConstructor element w ::
    (composites w).map fun (suffix, arguments) => constructorFrom element w suffix arguments

/-! ## The constructors of a taxonomy -/

/-- The macro that lists the components of a vector. -/
def componentList (w : Width) : MacroDefinition :=
  .function ("rm_splat" ++ w.digits) ["_v"] (", ".intercalate (w.components.map ("(_v)." ++ ·)))

/-- The constructors of all vector types of a taxonomy, and the component lists. -/
def constructors (t : Taxonomy) : List MacroDefinition :=
  (t.vectorElements.flatMap fun s => Width.all.flatMap (vectorConstructors s)) ++
    Width.all.map componentList

end MathHeader
