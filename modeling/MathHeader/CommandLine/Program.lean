import MathHeader.CommandLine.Options
import MathHeader.Output.Replacement

/-!
# The command-line program

The program reads its options, reads the license if there is one, generates the standard header,
and writes it to a file or to the standard output.  Its exit code is 0 if all went well, 1 if the
run failed, and 2 if the command line could not be understood.

What it needs of a file system is a parameter (`FileSystem`), so `run` is one program for a file
tree and for a disk.  It answers with a `Report`; a tree after a run is the state of `trees`.
-/

namespace MathHeader.CommandLine

/-! ## Texts -/

/-- The answer to a request for the version. -/
def versionText : String := "ranmath-gen 0.1.0\n"

/-- The answer to a request for a summary. -/
def helpText : String :=
  Text.unlines
    ["Generate the ranmath.h C math header",
     "",
     "Usage: ranmath-gen [OPTIONS]",
     "",
     "Options:",
     "  -o, --output <OUTPUT>              Output path; stdout when omitted",
     "      --guard <GUARD>                Include guard macro [default: RANMATH_H]",
     "      --license-file <LICENSE_FILE>  File whose text is placed at the top of the header",
     "      --stats                        Print generation statistics to stderr",
     "  -v, --verbose...                   Enable verbose logging",
     "  -h, --help                         Print help",
     "  -V, --version                      Print version"]

/-- What is printed for a mistake on the command line. -/
def usageText (e : UsageError) : String :=
  Text.unlines
    ["error: " ++ e.message,
     "",
     "Usage: ranmath-gen [OPTIONS]",
     "",
     "For more information, try '--help'."]

/-! ## Failed runs -/

/-- Why a run fails. -/
inductive RunError where
  | unreadableLicense (path : String)
  | output (cause : OutputError)
deriving DecidableEq, Repr

/-- What is shown of a failure. -/
def RunError.report : RunError → String
  | unreadableLicense path => GenError.fields "UnreadableLicense" [("path", path)]
  | output (.generation cause) => cause.report
  | output .unwritten => GenError.fields "Io" [("message", OutputError.unwritten.message)]
  | output (.unplaced temporary) =>
    GenError.fields "Persist" [("message", (OutputError.unplaced temporary).message)]

/-- What is printed for a failed run. -/
def RunError.text (e : RunError) : String :=
  "Error: " ++ e.report ++ "\n"

/-! ## File systems -/

/-- What the program needs of a file system. -/
structure FileSystem (m : Type → Type) where
  /-- The content of the file that a path leads to. -/
  read? : String → m (Option String)
  /-- Makes a header the content of the file that a path leads to.  If that fails, nothing is held
  any more. -/
  write : Artifact → String → m (Except OutputError Unit)

/-- A tree as a file system. -/
def trees : FileSystem (StateM FileTree) where
  read? path := fun t => (t.read? path, t)
  write a path := fun t => settled (writeArtifact a t path)

/-! ## The program -/

/-- What a run of the program tells its caller. -/
structure Report where
  code : UInt32
  stdout : String
  stderr : String
deriving DecidableEq, Repr

def RunError.toReport (e : RunError) : Report :=
  ⟨1, "", e.text⟩

/-- The settings of the header that the options and a license ask for. -/
def Options.config (o : Options) (license : Option String) : Config :=
  { Config.standard with guard := o.guard.getD Config.standard.guard, license := license }

/-- The header that the options and a license ask for. -/
def Options.artifact (o : Options) (license : Option String) : Except GenError Artifact :=
  generateStandard Taxonomy.standard (o.config license)

/-- What is printed beside the header. -/
def Options.statsText (o : Options) (s : Stats) : String :=
  if o.stats then s.text else ""

section

variable {m : Type → Type} [Monad m] (files : FileSystem m)

/-- The license that the options ask for. -/
def Options.license (o : Options) : m (Except RunError (Option String)) :=
  match o.licenseFile with
  | .none => pure (.ok .none)
  | some path => do
    match ← files.read? path with
    | some text => pure (.ok (some text))
    | .none => pure (.error (.unreadableLicense path))

/-- Prints a header, or writes it to the file that the options ask for. -/
def Options.deliver (o : Options) (a : Artifact) : m Report :=
  match o.output with
  | .none => pure ⟨0, a.text, o.statsText a.stats⟩
  | some path => do
    match ← files.write a path with
    | .ok () => pure ⟨0, "", o.statsText a.stats⟩
    | .error cause => pure (RunError.output cause).toReport

/-- A run with given options. -/
def Options.run (o : Options) : m Report := do
  match ← o.license files with
  | .error e => pure e.toReport
  | .ok license =>
    match o.artifact license with
    | .error cause => pure (RunError.output (.generation cause)).toReport
    | .ok artifact => o.deliver files artifact

/-- A run of the program with given arguments. -/
def run (arguments : List String) : m Report :=
  match read arguments with
  | .error e => pure ⟨2, "", usageText e⟩
  | .ok .version => pure ⟨0, versionText, ""⟩
  | .ok .help => pure ⟨0, helpText, ""⟩
  | .ok (.run o) => o.run files

end

end MathHeader.CommandLine
