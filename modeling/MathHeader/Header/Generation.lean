import MathHeader.Catalog.Standard
import MathHeader.Header.Section
import MathHeader.Session.Basic

/-!
# Generating a header

A generation goes through the header in the order in which it is read.  It claims the guard, then
the names of each section of declarations, and then, category by category, it instantiates each
operation for each type that it exists for and claims the names of the functions.  The first thing
that fails ends it, and then there is no header at all.

`build` gives the header as a tree, with the session at its end; `generate` gives its text with the
statistics.
-/

namespace MathHeader

/-! ## Headers -/

/-- A header: the settings, the sections of declarations, and the functions of each category. -/
structure Header where
  config : Config
  declarations : List Section
  functions : List (Category × List FunctionSymbol)
deriving DecidableEq, Repr

namespace Header

/-- The lines that open the header. -/
def opening (c : Config) : List String :=
  c.bannerLines ++ ["", "#ifndef " ++ c.guard, "#define " ++ c.guard, ""]

/-- The line that closes the header. -/
def closing (c : Config) : String :=
  Preprocessor.endLine c.guard

def lines (h : Header) : List String :=
  opening h.config ++
  (h.declarations.flatMap fun s => titledLines s.title s.lines) ++
  (h.functions.flatMap fun (k, fs) => titledLines k.title (functionLines h.config.specifier fs)) ++
  [closing h.config]

def text (h : Header) : String :=
  Text.unlines h.lines

end Header

/-! ## Claims of several names -/

namespace Session

/-- The session after some declarations, in order. -/
def declareAll (s : Session) : List (String × String) → Except GenError Session
  | [] => .ok s
  | (name, owner) :: rest => do (← s.claimDeclaration name owner).declareAll rest

def defineAll (s : Session) (category : Category) : List FunctionSymbol → Except GenError Session
  | [] => .ok s
  | f :: fs => do (← s.claimFunction category f.key f.name).defineAll category fs

/-- The session after a section of declarations. -/
def declareSection (s : Session) (part : Section) : Except GenError Session := do
  pure ((← s.declareAll part.declared).recordSection part.size)

/-- The session after some sections of declarations, in order. -/
def declareSections (s : Session) : List Section → Except GenError Session
  | [] => .ok s
  | p :: ps => do (← s.declareSection p).declareSections ps

end Session

/-! ## The functions of a category -/

/-- Each operation of a category with each type that it exists for: by element, by shape, and then
in the order of the catalog. -/
def requests (catalog : Catalog) (t : Taxonomy) (category : Category) :
    List (Operation × ShapedType) :=
  t.combinations.flatMap fun ty => (catalog.operationsFor category ty).map (·, ty)

/-- The functions that some requests come to, with the session after they have been claimed. -/
def instantiateAll (category : Category) (s : Session) :
    List (Operation × ShapedType) → Except GenError (List FunctionSymbol × Session)
  | [] => .ok ([], s)
  | (o, ty) :: rest => do
    let functions ← o.instantiate ty
    let s ← s.defineAll category functions
    let (more, s) ← instantiateAll category s rest
    pure (functions ++ more, s)

/-- The functions of some categories, with the session after they have been claimed. -/
def instantiateCategories (catalog : Catalog) (t : Taxonomy) (specifier : String) (s : Session) :
    List Category → Except GenError (List (Category × List FunctionSymbol) × Session)
  | [] => .ok ([], s)
  | k :: ks => do
    let (functions, s) ← instantiateAll k s (requests catalog t k)
    let s := s.recordSection (Text.unlines (functionLines specifier functions)).utf8ByteSize
    let (more, s) ← instantiateCategories catalog t specifier s ks
    pure ((k, functions) :: more, s)

/-! ## The whole -/

/-- The header for a taxonomy, with the session at its end. -/
def build (catalog : Catalog) (t : Taxonomy) (detection : List Preprocessor.Node) (c : Config) :
    Except GenError (Header × Session) := do
  c.validate
  let s ← Session.fresh.claimDeclaration c.guard "include guard"
  let declarations := declarationSections t detection c
  let s ← s.declareSections declarations
  let (functions, s) ← instantiateCategories catalog t c.specifier s Category.all
  pure (⟨c, declarations, functions⟩, s)

/-- A finished header. -/
structure Artifact where
  text : String
  stats : Stats
deriving DecidableEq, Repr

/-- The artifact for a header, whose size is that of the whole text. -/
def Artifact.of (h : Header) (s : Session) : Artifact :=
  let text := h.text
  ⟨text, { s.stats with bytes := text.utf8ByteSize }⟩

/-- The text of the header for a taxonomy, with statistics. -/
def generate (catalog : Catalog) (t : Taxonomy) (detection : List Preprocessor.Node) (c : Config) :
    Except GenError Artifact := do
  let (header, session) ← build catalog t detection c
  pure (.of header session)

/-- Everything in the standard catalog, for the given choices. -/
def generateStandard (t : Taxonomy) (c : Config) : Except GenError Artifact := do
  generate (← Catalog.standard) t Detection.block c

end MathHeader
