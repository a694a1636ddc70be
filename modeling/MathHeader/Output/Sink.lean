import MathHeader.Header.Generation
import MathHeader.Output.FileTree

/-!
# Writing to a sink

A sink takes bytes in portions.  It decides how many of the offered bytes it takes, but as long as
it has room it takes at least one; a full sink takes none.  Writing goes on with the rest until all
bytes are taken, and fails when a sink takes none: `Sink.writeAll`.

A header is offered only when it is complete, so a generation that fails leaves the sink alone.
-/

namespace MathHeader

/-! ## Sinks -/

/-- A place that bytes are written to. -/
structure Sink where
  /-- The bytes that have been taken. -/
  held : List UInt8
  /-- How many bytes fit, if that is limited. -/
  capacity : Option Nat
  /-- How many bytes more than one are taken at once, by the count of bytes taken before. -/
  appetite : Nat → Nat

namespace Sink

/-- The empty sink that takes all it has room for at once, or as many bytes as `appetite` says. -/
def empty (capacity : Option Nat) (appetite : Nat → Nat) : Sink :=
  ⟨[], capacity, appetite⟩

/-- How many of the offered bytes fit. -/
def fitting (s : Sink) (offered : Nat) : Nat :=
  match s.capacity with
  | none => offered
  | some c => min offered (c - s.held.length)

/-- How many of the offered bytes are taken at once. -/
def portion (s : Sink) (offered : Nat) : Nat :=
  min (s.fitting offered) (s.appetite s.held.length + 1)

/-- The sink after the first of some bytes have been taken. -/
def take (s : Sink) (bytes : List UInt8) : Sink :=
  { s with held := s.held ++ bytes.take (s.portion bytes.length) }

/-! ## Writing -/

/-- Writes all bytes, and says whether they were all taken. -/
def writeAll (s : Sink) (bytes : List UInt8) : Bool × Sink :=
  if bytes.isEmpty then (true, s)
  else if s.portion bytes.length = 0 then (false, s)
  else (s.take bytes).writeAll (bytes.drop (s.portion bytes.length))
termination_by bytes.length
decreasing_by
  rename_i h₁ h₂
  cases bytes with
  | nil => simp at h₁
  | cons b bs =>
    rw [List.length_drop]
    exact Nat.sub_lt (Nat.succ_pos _) (Nat.pos_of_ne_zero h₂)

end Sink

/-! ## Generating into a sink -/

/-- Why a header was not written. -/
inductive OutputError where
  /-- There is no header. -/
  | generation (cause : GenError)
  /-- The bytes could not be written. -/
  | unwritten
  /-- The written bytes could not be put into their place.  The failure holds the temporary file
  that they are in. -/
  | unplaced (temporary : Location)
deriving DecidableEq, Repr

/-- The sentence for a failure. -/
def OutputError.message : OutputError → String
  | generation cause => cause.message
  | unwritten => "I/O error: failed to write whole buffer"
  | unplaced _ => "Failed to persist artifact"

/-- Generates a header and writes it to a sink. -/
def emitTo (catalog : Catalog) (t : Taxonomy) (detection : List Preprocessor.Node) (c : Config)
    (sink : Sink) : Except OutputError Stats × Sink :=
  match generate catalog t detection c with
  | .error cause => (.error (.generation cause), sink)
  | .ok artifact =>
    match sink.writeAll artifact.text.toUTF8.toList with
    | (true, sink) => (.ok artifact.stats, sink)
    | (false, sink) => (.error .unwritten, sink)

end MathHeader
