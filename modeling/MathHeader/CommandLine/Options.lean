import MathHeader.Header.Config
import MathHeader.Text.Search

/-!
# Command-line options

The command line of the generator consists of options only.  A *setting* takes a value, which is
attached to it or is the next argument; a *switch* takes none:

    -o, --output PATH       write the header to a file
    --guard NAME            the include guard
    --license-file PATH     a text for the top of the header
    --stats                 print statistics
    -v, --verbose           log more; may be repeated
    -V, --version           print the version
    -h, --help              print a summary

Short options may stand together behind one dash, the last of them with its value.  Everything but
`--verbose` may be given once.  The arguments are read from left to right by `readArguments`: the
first mistake is reported, and a request for the version or the summary is answered as soon as it is
read.
-/

namespace MathHeader.CommandLine

/-! ## The options -/

/-- An option with a value. -/
inductive Setting where
  | output
  | guard
  | licenseFile
deriving DecidableEq, Repr

/-- An option without a value. -/
inductive Switch where
  | stats
  | verbose
  | version
  | help
deriving DecidableEq, Repr

/-- An option. -/
inductive Flag where
  | setting (setting : Setting)
  | switch (switch : Switch)
deriving DecidableEq, Repr

/-- The name of a setting after two dashes. -/
def Setting.name : Setting → String
  | output => "output"
  | guard => "guard"
  | licenseFile => "license-file"

/-- The name of a switch after two dashes. -/
def Switch.name : Switch → String
  | stats => "stats"
  | verbose => "verbose"
  | version => "version"
  | help => "help"

def Flag.ofName? (name : String) : Option Flag :=
  match [Setting.output, .guard, .licenseFile].find? fun s => s.name == name with
  | some s => some (.setting s)
  | none => ([Switch.stats, .verbose, .version, .help].find? fun s => s.name == name).map .switch

def Flag.ofLetter? : Char → Option Flag
  | 'o' => some (.setting .output)
  | 'v' => some (.switch .verbose)
  | 'V' => some (.switch .version)
  | 'h' => some (.switch .help)
  | _ => none

/-! ## What has been given -/

/-- The options that have been given. -/
structure Options where
  output : Option String
  guard : Option String
  licenseFile : Option String
  stats : Bool
  verbosity : Nat
deriving DecidableEq, Repr

/-- The options of an empty command line. -/
def Options.none : Options :=
  ⟨.none, .none, .none, false, 0⟩

/-- What a command line asks for. -/
inductive Request where
  | run (options : Options)
  | version
  | help
deriving DecidableEq, Repr

/-! ## Mistakes -/

/-- A mistake on the command line. -/
inductive UsageError where
  /-- There is no such option, or it is an argument of another kind. -/
  | unexpected (argument : String)
  | repeated (name : String)
  | missingValue (name : String)
  | unwantedValue (name value : String)
deriving DecidableEq, Repr

/-- The sentence for a mistake. -/
def UsageError.message : UsageError → String
  | unexpected argument => "unexpected argument '" ++ argument ++ "' found"
  | repeated name => "the argument '--" ++ name ++ "' cannot be used multiple times"
  | missingValue name => "a value is required for '--" ++ name ++ "' but none was supplied"
  | unwantedValue name value =>
    "unexpected value '" ++ value ++ "' for '--" ++ name ++ "' found; no more were expected"

/-! ## Reading -/

namespace Options

/-- The value of a setting that takes a path and has not been given before; a path has at least one
character. -/
def freePath (s : Setting) (given : Option String) (value : String) :
    Except UsageError (Option String) :=
  if value.isEmpty then .error (.missingValue s.name)
  else if given.isSome then .error (.repeated s.name)
  else .ok (some value)

def set (o : Options) (s : Setting) (value : String) : Except UsageError Options :=
  match s with
  | .output => do pure { o with output := ← freePath s o.output value }
  | .licenseFile => do pure { o with licenseFile := ← freePath s o.licenseFile value }
  | .guard =>
    if o.guard.isSome then .error (.repeated s.name) else .ok { o with guard := some value }

/-- What is asked for after one more switch. -/
def turnOn (o : Options) : Switch → Except UsageError Request
  | .stats =>
    if o.stats then .error (.repeated Switch.stats.name) else .ok (.run { o with stats := true })
  | .verbose => .ok (.run { o with verbosity := o.verbosity + 1 })
  | .version => .ok .version
  | .help => .ok .help

end Options

/-- What a group of short options comes to. -/
inductive LetterResult where
  /-- The group is complete. -/
  | complete (request : Request)
  /-- The last option of the group takes the next argument as its value. -/
  | awaiting (options : Options) (setting : Setting)
deriving DecidableEq, Repr

/-- Reads a group of short options without its dash. -/
def readLetters (o : Options) : List Char → Except UsageError LetterResult
  | [] => .ok (.complete (.run o))
  | c :: cs =>
    match Flag.ofLetter? c with
    | none => .error (.unexpected (String.ofList ['-', c]))
    | some (.switch s) => do
      match ← o.turnOn s with
      | .run o => readLetters o cs
      | request => pure (.complete request)
    | some (.setting s) =>
      match cs with
      | [] => .ok (.awaiting o s)
      | '=' :: value => do pure (.complete (.run (← o.set s (String.ofList value))))
      | value => do pure (.complete (.run (← o.set s (String.ofList value))))

/-- Whether an argument cannot be the value of the setting before it.  A dash alone can. -/
def looksLikeOption (argument : String) : Bool :=
  match argument.toList with
  | '-' :: _ :: _ => true
  | _ => false

def readArguments (o : Options) : List String → Except UsageError Request
  | [] => .ok (.run o)
  | argument :: rest =>
    match argument.toList with
    | ['-', '-'] =>
      match rest with
      | [] => .ok (.run o)
      | extra :: _ => .error (.unexpected extra)
    | '-' :: '-' :: body =>
      let (name, value?) := match Text.splitAtFirst '=' body with
        | some (name, value) => (String.ofList name, some (String.ofList value))
        | none => (String.ofList body, none)
      match Flag.ofName? name, value? with
      | none, _ => .error (.unexpected argument)
      | some (.switch s), some value => .error (.unwantedValue s.name value)
      | some (.switch s), none => do
        match ← o.turnOn s with
        | .run o => readArguments o rest
        | request => pure request
      | some (.setting s), some value => do readArguments (← o.set s value) rest
      | some (.setting s), none =>
        match rest with
        | [] => .error (.missingValue s.name)
        | value :: rest =>
          if looksLikeOption value then .error (.missingValue s.name)
          else do readArguments (← o.set s value) rest
    | '-' :: c :: cs => do
      match ← readLetters o (c :: cs) with
      | .complete (.run o) => readArguments o rest
      | .complete request => pure request
      | .awaiting o s =>
        match rest with
        | [] => .error (.missingValue s.name)
        | value :: rest =>
          if looksLikeOption value then .error (.missingValue s.name)
          else do readArguments (← o.set s value) rest
    | _ => .error (.unexpected argument)

/-- What a command line asks for. -/
def read (arguments : List String) : Except UsageError Request :=
  readArguments .none arguments

end MathHeader.CommandLine
