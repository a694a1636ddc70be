import MathHeader.Text.Blank
import MathHeader.Text.Lines

/-!
# Check files

A check file says what has to stand in a text and in which order.  Its directives are line
comments; all other lines are ignored, and so are comments of other kinds:

    // CHECK-LABEL: a pattern that is found at or after the current line
    // CHECK: the same, without the meaning of a landmark
    // CHECK-NEXT: a pattern in the line after the previous match
    // CHECK-EMPTY
    // CHECK-NOT: a pattern that stands nowhere before the next match
    // COM: a remark

A comment that starts with `CHECK` and is none of these is a mistake, and so is a pattern without
a character; the first mistake is what `parse` reports, with the number of its line.
-/

namespace MathHeader.Check

/-! ## Directives -/

/-- The two kinds of directives that look ahead; they differ in name only. -/
inductive Anchor where
  | check
  | label
deriving DecidableEq, Repr

/-- A directive of a check file. -/
inductive Directive where
  /-- The pattern is found at or after the current line. -/
  | anchor (kind : Anchor) (pattern : String)
  /-- The pattern is in the current line. -/
  | next (pattern : String)
  /-- The pattern is not found before the next match. -/
  | absent (pattern : String)
  /-- The current line is blank. -/
  | empty
  | comment (text : String)
deriving DecidableEq, Repr

/-! ## Keywords -/

/-- A word that opens a directive. -/
inductive Keyword where
  | label
  | next
  | absent
  | empty
  | check
  | comment
deriving DecidableEq, Repr

namespace Keyword

def all : List Keyword :=
  [label, next, absent, empty, check, comment]

/-- The spelling of a keyword.  None starts with another, and `CHECK-EMPTY` needs no colon, since
nothing follows it. -/
def spelling : Keyword → List Char
  | label => "CHECK-LABEL:".toList
  | next => "CHECK-NEXT:".toList
  | absent => "CHECK-NOT:".toList
  | empty => "CHECK-EMPTY".toList
  | check => "CHECK:".toList
  | comment => "COM:".toList

def directive (k : Keyword) (text : String) : Directive :=
  match k with
  | label => .anchor .label text
  | next => .next text
  | absent => .absent text
  | empty => .empty
  | check => .anchor .check text
  | comment => .comment text

/-- Whether the text after a keyword is a pattern. -/
def needsPattern : Keyword → Bool
  | label | next | absent | check => true
  | empty | comment => false

def atFront? (cs : List Char) : Option (Keyword × List Char) :=
  all.findSome? fun k => (k.spelling.isPrefixOf? cs).map (k, ·)

end Keyword

/-- What every directive but a remark starts with. -/
def checkWord : List Char := "CHECK".toList

/-- What a comment starts with. -/
def commentMark : List Char := "//".toList

/-! ## Reading -/

/-- A mistake in a check file. -/
inductive ParseFault where
  | unknownDirective (line : Nat) (text : String)
  | emptyPattern (line : Nat)
deriving DecidableEq, Repr

/-- The sentence for a mistake. -/
def ParseFault.message : ParseFault → String
  | unknownDirective line text =>
    "line " ++ toString line ++ ": unknown directive `" ++ text ++ "`"
  | emptyPattern line => "line " ++ toString line ++ ": empty pattern"

/-- The text of the comment that a line consists of. -/
def commentText? (line : String) : Option (List Char) :=
  (commentMark.isPrefixOf? (Text.trim line).toList).map Text.dropBlanks

/-- The directive in a comment, if there is one; `number` is the number of the line. -/
def readComment (number : Nat) (text : List Char) : Except ParseFault (Option Directive) :=
  match Keyword.atFront? text with
  | some (k, after) =>
    let argument := Text.trim (String.ofList after)
    if k.needsPattern && argument.isEmpty then .error (.emptyPattern number)
    else .ok (some (k.directive argument))
  | none =>
    if checkWord.isPrefixOf text then .error (.unknownDirective number (String.ofList text))
    else .ok none

def readLine (number : Nat) (line : String) : Except ParseFault (Option Directive) :=
  match commentText? line with
  | some text => readComment number text
  | none => .ok none

/-- The directives in some lines, the first of which has the given number. -/
def readLines (number : Nat) : List String → Except ParseFault (List Directive)
  | [] => .ok []
  | line :: rest => do
    let directive? ← readLine number line
    let directives ← readLines (number + 1) rest
    pure (directive?.toList ++ directives)

/-- The directives of a check file. -/
def parse (text : String) : Except ParseFault (List Directive) :=
  readLines 1 (Text.lines text)

end MathHeader.Check
