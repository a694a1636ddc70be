import MathHeader.Template.Parser
import MathHeader.Text.Quoted
import MathHeader.ValueType

/-!
# Failures of a generation

A generation fails before anything of the header is handed out.  `GenError` lists the causes;
`GenError.message` is the sentence for a reader, and `GenError.report` shows the cause with its
fields, as the command line prints it.
-/

namespace MathHeader

/-! ## Causes -/

/-- Something that was asked of a type and that the type does not have. -/
inductive Missing where
  | placeholder (placeholder : Placeholder)
  | expansion (join : Join)
  | value (value : ValueType)
deriving DecidableEq, Repr

/-- Why a generation fails. -/
inductive GenError where
  /-- Two claimants want one name. -/
  | nameCollision (name first second : String)
  /-- An operation asks of a type what the type does not have. -/
  | unresolved (what : Missing) (op : String) (type : ShapedType)
  /-- A body template of an operation cannot be read. -/
  | template (op : String) (fault : TemplateFault)
  /-- An operation exists for a type but has no body for it. -/
  | missingBody (op : String) (element : Scalar)
  /-- A name cannot be declared. -/
  | invalidIdentifier (name : String)
deriving DecidableEq, Repr

/-! ## Wording -/

/-- What is missing, as it is written in a template or a table. -/
def Missing.describe : Missing → String
  | placeholder p => p.mark
  | expansion j => j.mark
  | value v => v.name

/-- The sentence for a fault of a template; an unknown placeholder has a sentence of its own in
`GenError.message`, and stands here by its name only. -/
def TemplateFault.describe : TemplateFault → String
  | unknownPlaceholder name => name
  | nestedExpansion => "nested expansion"
  | unterminatedExpansion => "unterminated expansion"
  | outsideExpansion p => p.mark ++ " outside an expansion"
  | noBody inner => "expansion `" ++ inner ++ "` has no body"
  | unknownJoin name => "unknown expansion `@" ++ name ++ "`"
  | noFunction => "chain expansion needs a function"
  | emptyExpression j => "empty " ++ j.mark ++ " expansion"

namespace GenError

/-- The sentence for a failure. -/
def message : GenError → String
  | nameCollision name first second =>
    "Symbol name collision: `" ++ name ++ "` produced by both " ++ first ++ " and " ++ second
  | unresolved what op type =>
    "Unresolved placeholder `" ++ what.describe ++ "` in `" ++ op ++ "` for `" ++ type.token ++ "`"
  | template op (.unknownPlaceholder name) =>
    "Unknown placeholder `" ++ name ++ "` in template of `" ++ op ++ "`"
  | template op fault => "Malformed template for `" ++ op ++ "`: " ++ fault.describe
  | missingBody op element =>
    "Operation `" ++ op ++ "` applies to `" ++ element.token ++ "` but has no body for it"
  | invalidIdentifier name => "Not a valid C identifier: `" ++ name ++ "`"

/-- A cause with its fields in braces, each field with its quoted text. -/
def fields (cause : String) (named : List (String × String)) : String :=
  let shown := named.map fun (name, text) => name ++ ": " ++ Text.quoted text
  cause ++ " \x7b " ++ ", ".intercalate shown ++ " \x7d"

/-- The cause of a failure with its fields. -/
def report : GenError → String
  | nameCollision name first second =>
    fields "NameCollision" [("name", name), ("first", first), ("second", second)]
  | unresolved what op type =>
    fields "UnresolvedPlaceholder"
      [("placeholder", what.describe), ("op", op), ("shape", type.token)]
  | template op (.unknownPlaceholder name) =>
    fields "UnknownPlaceholder" [("name", name), ("op", op)]
  | template op fault =>
    fields "MalformedTemplate" [("op", op), ("reason", fault.describe)]
  | missingBody op element => fields "MissingBody" [("op", op), ("ty", element.token)]
  | invalidIdentifier name => fields "InvalidIdentifier" [("name", name)]

end GenError

end MathHeader
