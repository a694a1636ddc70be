import MathHeader.Preprocessor.Value
import MathHeader.Text.Lines

/-!
# Preprocessor blocks

The detection block of the header is a list of nodes and not a text, so that the same nodes can be
written into the header and be resolved for a compiler.  A node is a directive, a comment, an empty
line, or a chain of `#if`, `#elif` and `#else` with bodies of its own.

The arms of a chain are a list that ends in what happens when no condition holds: nothing, an
`#else` with a body, or an `#else` that always fails.  `definedNames` lists the macros that a block
may define on some branch.
-/

namespace MathHeader.Preprocessor

/-! ## Blocks -/

mutual

/-- A part of a preprocessor block. -/
inductive Node where
  /-- Alternatives, with a label for the comment after `#endif`. -/
  | chain (label : String) (arms : Arms)
  | define (name : String) (value : Value)
  /-- A definition that keeps one that is already there. -/
  | default (name : String) (value : Value)
  | include (header : String)
  /-- A directive that always fails. -/
  | error (message : String)
  | comment (text : String)
  | blank

/-- The alternatives of a chain, from the first that is left. -/
inductive Arms where
  | arm (condition : Condition) (body : List Node) (rest : Arms)
  /-- Nothing happens when no condition holds. -/
  | done
  /-- A body for when no condition holds. -/
  | otherwise (body : List Node)
  /-- It is an error that no condition holds. -/
  | fail (message : String)

end

/-- The chain with a single alternative. -/
def Node.when (label : String) (condition : Condition) (body : List Node) : Node :=
  chain label (.arm condition body .done)

/-- The alternatives of a list, in front of others. -/
def Arms.ofList (arms : List (Condition × List Node)) (last : Arms) : Arms :=
  arms.foldr (fun (condition, body) rest => .arm condition body rest) last

/-! ## Lines -/

/-- The line of a definition. -/
def defineLine (name : String) (value : Value) : String :=
  "#define " ++ name ++ " " ++ value.text

def errorLine (message : String) : String :=
  "#error " ++ message

/-- The line that closes a chain. -/
def endLine (label : String) : String :=
  if label.isEmpty then "#endif" else "#endif /* " ++ label ++ " */"

mutual

def Node.lines : Node → List String
  | .chain label arms => arms.lines "#if" ++ [endLine label]
  | .define name value => [defineLine name value]
  | .default name value =>
    ["#if " ++ (Condition.undefined name).text, defineLine name value, endLine ""]
  | .include header => ["#include <" ++ header ++ ">"]
  | .error message => [errorLine message]
  | .comment text => ["/* " ++ text ++ " */"]
  | .blank => [""]

/-- The lines of alternatives, the first of which is opened by `word`. -/
def Arms.lines (word : String) : Arms → List String
  | .arm condition body rest => condition.directive word ++ (blockLines body ++ rest.lines "#elif")
  | .done => []
  | .otherwise body => "#else" :: blockLines body
  | .fail message => ["#else", errorLine message]

def blockLines : List Node → List String
  | [] => []
  | n :: ns => n.lines ++ blockLines ns

end

def blockText (nodes : List Node) : String :=
  Text.unlines (blockLines nodes)

/-! ## Names -/

mutual

/-- The macros that a node may define, in the order of its lines. -/
def Node.definitions : Node → List String
  | .chain _ arms => arms.definitions
  | .define name _ => [name]
  | .default name _ => [name]
  | _ => []

/-- The macros that alternatives may define. -/
def Arms.definitions : Arms → List String
  | .arm _ body rest => blockDefinitions body ++ rest.definitions
  | .otherwise body => blockDefinitions body
  | _ => []

/-- The macros that the nodes of a block may define. -/
def blockDefinitions : List Node → List String
  | [] => []
  | n :: ns => n.definitions ++ blockDefinitions ns

end

/-- The macros that a block defines on some path, each where it first appears. -/
def definedNames (nodes : List Node) : List String :=
  (blockDefinitions nodes).eraseDups

end MathHeader.Preprocessor
