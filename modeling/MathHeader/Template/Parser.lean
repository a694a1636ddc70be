import MathHeader.Template.Basic
import MathHeader.Template.Lexeme
import MathHeader.Text.Search

/-!
# Reading templates

A template is read in two steps.  Its lexemes are understood one by one, each giving a piece or a
fault, and then neighbouring pieces of text are merged.  What a lexeme may be depends on where it
stands:

* in a template itself a named mark is a placeholder and a group is an expansion
  `{@join:expression}` or `{@chain:function:expression}`;
* in the function of a chain there is no component and no expansion.  A function ends at the first
  colon, so a group inside one has no colon and therefore no body;
* in an expression every placeholder is allowed and no expansion is.

The first lexeme that cannot be understood decides the fault.
-/

namespace MathHeader

/-! ## Faults -/

/-- What is wrong with a template. -/
inductive TemplateFault where
  /-- A name between braces is no placeholder. -/
  | unknownPlaceholder (name : String)
  /-- An expansion stands inside another one. -/
  | nestedExpansion
  /-- An expansion is never closed. -/
  | unterminatedExpansion
  /-- A placeholder for the component stands where there is no component. -/
  | outsideExpansion (placeholder : Placeholder)
  /-- An expansion has no colon. -/
  | noBody (inner : String)
  /-- The word that opens an expansion names no join. -/
  | unknownJoin (name : String)
  /-- A chain of calls has no function. -/
  | noFunction
  /-- The expression of an expansion is empty. -/
  | emptyExpression (join : Join)
deriving DecidableEq, Repr

/-! ## Merging -/

/-- A piece in front of others; a text joins a text that follows it. -/
def Piece.attach {μ : Type} : Piece μ → List (Piece μ) → List (Piece μ)
  | text cs, text ds :: ps => text (cs ++ ds) :: ps
  | p, ps => p :: ps

/-- The pieces with neighbouring texts merged. -/
def Piece.mergeTexts {μ : Type} (ps : List (Piece μ)) : List (Piece μ) :=
  ps.foldr Piece.attach []

/-- The pieces of a text, each lexeme being understood by `read`. -/
def Piece.ofChars {μ : Type} (read : Lexeme → Except TemplateFault (Piece μ)) (cs : List Char) :
    Except TemplateFault (List (Piece μ)) :=
  (Piece.mergeTexts ·) <$> (lexemes cs).mapM read

/-! ## The three places -/

def readPlaceholder (name : List Char) : Except TemplateFault Placeholder :=
  match Placeholder.ofName? (String.ofList name) with
  | some p => .ok p
  | none => .error (.unknownPlaceholder (String.ofList name))

/-- A lexeme in the expression of an expansion. -/
def Lexeme.inExpression : Lexeme → Except TemplateFault (Piece Placeholder)
  | char c => .ok (.text [c])
  | named name => .mark <$> readPlaceholder name
  | group _ => .error .nestedExpansion
  | opened => .error .nestedExpansion

/-- A lexeme in the function of a chain. -/
def Lexeme.inFunction : Lexeme → Except TemplateFault (Piece Placeholder)
  | char c => .ok (.text [c])
  | named name => do
    let p ← readPlaceholder name
    if p.isPerComponent then .error (.outsideExpansion p) else .ok (.mark p)
  | group inner => .error (.noBody (String.ofList inner))
  | opened => .error .unterminatedExpansion

/-- The expansion that a group holds. -/
def readExpansion (inner : List Char) : Except TemplateFault Mark := do
  let some (word, body) := Text.splitAtFirst ':' inner | .error (.noBody (String.ofList inner))
  let some join := Join.ofName? (String.ofList word) | .error (.unknownJoin (String.ofList word))
  let (func, expr) ← match join with
    | .chain => do
      let some (func, expr) := Text.splitAtFirst ':' body | .error .noFunction
      pure (← Piece.ofChars Lexeme.inFunction func, ← Piece.ofChars Lexeme.inExpression expr)
    | _ => do
      pure ([], ← Piece.ofChars Lexeme.inExpression body)
  if expr.isEmpty then .error (.emptyExpression join) else .ok (.expand join func expr)

/-- A lexeme in a template itself. -/
def Lexeme.inTemplate : Lexeme → Except TemplateFault (Piece Mark)
  | char c => .ok (.text [c])
  | named name => do
    let p ← readPlaceholder name
    if p.isPerComponent then .error (.outsideExpansion p) else .ok (.mark (.hole p))
  | group inner => .mark <$> readExpansion inner
  | opened => .error .unterminatedExpansion

def Template.readPieces (source : String) : Except TemplateFault (List (Piece Mark)) :=
  Piece.ofChars Lexeme.inTemplate source.toList

end MathHeader
