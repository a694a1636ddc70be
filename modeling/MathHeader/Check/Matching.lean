import MathHeader.Check.Directive
import MathHeader.Text.Quoted
import MathHeader.Text.Search

/-!
# Matching a text against directives

A text is walked once from top to bottom.  A directive that looks ahead takes the first line that
contains its pattern and never reconsiders; a directive for the current line looks at that line
only.  Patterns that have to be absent are collected until the next directive that matches a
pattern, and are then looked for in the lines that it skipped, or in all remaining lines at the
end.

Two rules are easy to miss.  A directive for the current line skips nothing, so collected patterns
are dropped there without a look; and `CHECK-EMPTY` is satisfied past the last line and leaves the
collected patterns alone.

`validate` is the walk with given directives, and `run` reads them from a check file first.
-/

namespace MathHeader.Check

/-! ## Failures -/

/-- Why a text does not match. -/
inductive MatchFault where
  | notFound (kind : Anchor) (pattern : String)
  | pastEnd (pattern : String)
  | otherLine (pattern line : String)
  | notBlank (line : String)
  | present (pattern line : String)
deriving DecidableEq, Repr

/-- The name of a directive that looks ahead, in messages. -/
def Anchor.name : Anchor → String
  | check => "Check"
  | label => "CheckLabel"

/-- The sentence for a failure. -/
def MatchFault.message : MatchFault → String
  | notFound kind pattern =>
    kind.name ++ "(" ++ Text.quoted pattern ++ "): pattern '" ++ pattern ++ "' not found"
  | pastEnd pattern => "CHECK-NEXT: no more lines, expected '" ++ pattern ++ "'"
  | otherLine pattern line => "CHECK-NEXT: expected '" ++ pattern ++ "' but got '" ++ line ++ "'"
  | notBlank line => "CHECK-EMPTY: expected empty line but got '" ++ line ++ "'"
  | present pattern line => "CHECK-NOT: '" ++ pattern ++ "' found in '" ++ line ++ "'"

/-! ## Searches -/

/-- The lines before and after the first one that contains a pattern. -/
def splitAtMatch (pattern : String) : List String → Option (List String × List String)
  | [] => none
  | line :: rest =>
    if Text.contains line pattern then some ([], rest)
    else (splitAtMatch pattern rest).map fun (skipped, rest) => (line :: skipped, rest)

/-- Fails for the first of the patterns that a line contains, with the first such line. -/
def checkAbsent (ls : List String) : List String → Except MatchFault Unit
  | [] => .ok ()
  | pattern :: patterns =>
    match ls.find? fun line => Text.contains line pattern with
    | some line => .error (.present pattern line)
    | none => checkAbsent ls patterns

/-- Whether a line holds nothing but blanks. -/
def isBlankLine (line : String) : Bool :=
  line.toList.all Text.isBlank

/-! ## The walk -/

/-- Matches the lines from the current one on against directives; `pending` are the patterns that
have to be absent before the next match. -/
def matchLines (ls pending : List String) : List Directive → Except MatchFault Unit
  | [] => checkAbsent ls pending
  | .comment _ :: ds => matchLines ls pending ds
  | .absent pattern :: ds => matchLines ls (pending ++ [pattern]) ds
  | .anchor kind pattern :: ds =>
    match splitAtMatch pattern ls with
    | none => .error (.notFound kind pattern)
    | some (skipped, rest) => do
      checkAbsent skipped pending
      matchLines rest [] ds
  | .next pattern :: ds =>
    match ls with
    | [] => .error (.pastEnd pattern)
    | line :: rest =>
      if Text.contains line pattern then matchLines rest [] ds
      else .error (.otherLine pattern line)
  | .empty :: ds =>
    match ls with
    | [] => matchLines [] pending ds
    | line :: rest =>
      if isBlankLine line then matchLines rest pending ds else .error (.notBlank line)

/-- Matches a text against directives. -/
def validate (text : String) (directives : List Directive) : Except MatchFault Unit :=
  matchLines (Text.lines text) [] directives

/-! ## Check files -/

/-- Why a check fails. -/
inductive CheckFault where
  | parse (fault : ParseFault)
  | matching (fault : MatchFault)
deriving DecidableEq, Repr

/-- The sentence for a failed check. -/
def CheckFault.message : CheckFault → String
  | parse fault => fault.message
  | matching fault => fault.message

/-- Checks a text against a check file. -/
def run (checkFile text : String) : Except CheckFault Unit :=
  match parse checkFile with
  | .error fault => .error (.parse fault)
  | .ok directives =>
    match validate text directives with
    | .error fault => .error (.matching fault)
    | .ok () => .ok ()

end MathHeader.Check
