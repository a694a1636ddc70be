/-!
# Macro definitions

A `#define` of the header, either of an object or of a function with parameters.  Every definition
fits on one line.
-/

namespace MathHeader

/-- A macro with its replacement.  Without a parameter list it is an object, and with an empty one
it is a function of no arguments. -/
structure MacroDefinition where
  name : String
  params : Option (List String)
  body : String
deriving DecidableEq, Repr

namespace MacroDefinition

def function (name : String) (params : List String) (body : String) : MacroDefinition :=
  ⟨name, some params, body⟩

def object (name body : String) : MacroDefinition :=
  ⟨name, none, body⟩

/-- The parameters as they follow the name. -/
def parameterText (d : MacroDefinition) : String :=
  match d.params with
  | some params => "(" ++ ", ".intercalate params ++ ")"
  | none => ""

def line (d : MacroDefinition) : String :=
  "#define " ++ d.name ++ d.parameterText ++ " " ++ d.body

end MacroDefinition

/-- A compound literal: a value of a type with some members set. -/
def compoundLiteral (type : String) (fields : List (String × String)) : String :=
  let settings := fields.map fun (member, value) => "." ++ member ++ " = " ++ value
  "((" ++ type ++ ")\x7b" ++ ", ".intercalate settings ++ "\x7d)"

end MathHeader
