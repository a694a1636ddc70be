import MathHeader.Error
import MathHeader.Identifier
import MathHeader.Text.Blank
import MathHeader.Text.Lines

/-!
# Settings of a header

The names that a user chooses, and the text that a user puts in front of the header.

That text is there for a license.  If it is a comment already, it is copied; otherwise it is
wrapped into one.  A wrapped text must not end its comment, so each `*/` in it is taken apart.
`Config.bannerLines` is what stands in front of the header.
-/

namespace MathHeader

/-! ## The settings -/

/-- The settings of a header. -/
structure Config where
  /-- The macro that guards against a second inclusion. -/
  guard : String
  /-- A text for the top of the header. -/
  license : Option String
  /-- The macro that every function is declared with. -/
  specifier : String
deriving DecidableEq, Repr

namespace Config

/-- The settings that are used unless others are given. -/
def standard : Config :=
  ⟨"RANMATH_H", none, "RM_INLINE"⟩

/-- Fails for a chosen name that cannot be declared. -/
def validate (c : Config) : Except GenError Unit :=
  if !isIdentifier c.guard then .error (.invalidIdentifier c.guard)
  else if !isIdentifier c.specifier then .error (.invalidIdentifier c.specifier)
  else .ok ()

theorem validate_eq_ok_iff {c : Config} :
    c.validate = .ok () ↔ isIdentifier c.guard = true ∧ isIdentifier c.specifier = true := by
  cases hg : isIdentifier c.guard <;> cases hs : isIdentifier c.specifier <;>
    simp [validate, hg, hs]

end Config

/-! ## The license -/

/-- Puts a character in front of others; an asterisk keeps a distance from a slash. -/
def guardSlash (c : Char) (cs : List Char) : List Char :=
  if c = '*' ∧ cs.head? = some '/' then '*' :: ' ' :: cs else c :: cs

/-- The characters with a space in every `*/`. -/
def breakTerminators (cs : List Char) : List Char :=
  cs.foldr guardSlash []

/-- A line inside a comment. -/
def commentLine (line : String) : String :=
  if line.isEmpty then " *" else " * " ++ String.ofList (breakTerminators line.toList)

def startsComment (text : String) : Bool :=
  match text.toList with
  | '/' :: '*' :: _ => true
  | '/' :: '/' :: _ => true
  | _ => false

/-- The lines of a comment with the given lines in it. -/
def wrapComment (ls : List String) : List String :=
  "/*" :: ls.map commentLine ++ [" */"]

/-- The lines of a license, without the blanks at its end. -/
def licenseLines (license : String) : List String :=
  let text := Text.trimEnd license
  if startsComment text then [text] else wrapComment (Text.lines text)

/-! ## The banner -/

def generatedRemark : String :=
  "/* Generated by ranmath-gen. Do not edit. */"

/-- The lines in front of the header: the license with an empty line, and the remark. -/
def Config.bannerLines (c : Config) : List String :=
  (match c.license with
    | some license => licenseLines license ++ [""]
    | none => []) ++
  [generatedRemark]

/-- The text in front of the header. -/
def Config.banner (c : Config) : String :=
  Text.unlines c.bannerLines

end MathHeader
