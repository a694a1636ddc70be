import MathHeader.Detection.Block
import MathHeader.Header.Config
import MathHeader.Macros.Constant
import MathHeader.Macros.Constructor
import MathHeader.Macros.Utility
import MathHeader.Operation
import MathHeader.Primitive
import MathHeader.Storage.Record

/-!
# Sections of a header

A header has a section for each kind of its declarations and then a section for each category of
operations.  The sections of declarations depend on the taxonomy, the detection block and the
settings only.  Each of them lists the names that it declares, with the description that stands for
their owner in messages, beside its lines; `declarationSections` has them in their order.
-/

namespace MathHeader

/-! ## Sections of declarations -/

/-- A section of declarations. -/
structure Section where
  title : String
  /-- The declared names with the descriptions of their owners. -/
  declared : List (String × String)
  lines : List String
deriving DecidableEq, Repr

/-- The line that opens a section. -/
def sectionBanner (title : String) : String :=
  "/* ==== " ++ title ++ " ==== */"

/-- The lines of a section with its title, from the lines of its body. -/
def titledLines (title : String) (body : List String) : List String :=
  sectionBanner title :: "" :: body ++ [""]

/-- The names with one description for all of them. -/
def ownedBy (owner : String) (names : List String) : List (String × String) :=
  names.map (·, owner)

namespace Section

/-- The size of the body of a section in bytes. -/
def size (s : Section) : Nat :=
  (Text.unlines s.lines).utf8ByteSize

/-! ## Declarations -/

def detection (nodes : List Preprocessor.Node) : Section where
  title := "detection"
  declared := ownedBy "detection macro" (Preprocessor.definedNames nodes)
  lines := Preprocessor.blockLines nodes

/-- The aliases of the scalar types and the specifier of functions. -/
def primitives (specifier : String) : Section where
  title := "primitives"
  declared := ownedBy "primitive type" primitiveNames ++ ownedBy "inline specifier" [specifier]
  lines := primitiveLines ++ "" :: specifierLines specifier

/-- The overlays of floats and the casts through them. -/
def overlays : Section where
  title := "overlays"
  declared :=
    ownedBy "overlay type" Storage.overlayNames ++
      ownedBy "bit-cast macro" (Storage.BitCast.all.map (·.name))
  lines :=
    Storage.overlayTypedefs ++
      "" :: (Storage.overlayTypes.flatMap fun float => Storage.overlayLines float ++ [""]) ++
      Storage.BitCast.all.map fun c => c.definition.line

/-- The structures of vectors and matrices. -/
def shapes (t : Taxonomy) : Section where
  title := "shapes"
  declared := t.declared.flatMap fun ty =>
    [(Storage.recordTag ty, "shape struct"), (ty.token, "shape type")]
  lines := Storage.typedefLines t ++ "" :: Storage.structLines t

/-- The constructors of vectors. -/
def vectors (t : Taxonomy) : Section where
  title := "constructors"
  declared := ownedBy "constructor" ((MathHeader.constructors t).map (·.name))
  lines := (MathHeader.constructors t).map MacroDefinition.line

/-- The constants and the utility macros. -/
def constants : Section where
  title := "constants"
  declared :=
    ownedBy "constant" (MathHeader.constants.map (·.name)) ++
      ownedBy "utility macro" (utilities.map (·.name))
  lines :=
    MathHeader.constants.map MacroDefinition.line ++ "" :: utilities.map MacroDefinition.line

end Section

/-- The sections of declarations, in the order of the header. -/
def declarationSections (t : Taxonomy) (nodes : List Preprocessor.Node) (c : Config) :
    List Section :=
  [ .detection nodes, .primitives c.specifier, .overlays, .shapes t, .vectors t, .constants ]

/-- The titles of all sections, in the order of the header. -/
def sectionOrder : List String :=
  ["detection", "primitives", "overlays", "shapes", "constructors", "constants"] ++
    Category.all.map Category.title

theorem sectionOrder_eq (t : Taxonomy) (nodes : List Preprocessor.Node) (c : Config) :
    sectionOrder =
      (declarationSections t nodes c).map (·.title) ++ Category.all.map Category.title := rfl

/-! ## Functions -/

/-- The lines of functions, each followed by an empty line. -/
def functionLines (specifier : String) (functions : List FunctionSymbol) : List String :=
  functions.flatMap fun f => f.lines specifier ++ [""]

end MathHeader
