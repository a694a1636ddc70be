import MathHeader.Output.Sink
import Mathlib.Data.List.Basic

/-!
# Writing all or nothing

Whatever portions a sink takes, it ends up with the first of the offered bytes, as many as it has
room for, and all of them were taken exactly if all of them fit: `Sink.writeAll_eq`.  One portion
moves bytes from what is offered to what is held and takes as much from the room, and that is all
that the loop needs to know (`Sink.fitting_take`).

A header is generated before the first byte is offered.  So a sink of any capacity is left alone by
a generation that fails, and otherwise holds the header or the part of it that fits, which is
`emitTo_bounded`.
-/

namespace MathHeader

/-! ## Writing -/

namespace Sink

variable (s : Sink) (bytes : List UInt8)

lemma fitting_le (offered : Nat) : s.fitting offered ≤ offered := by
  unfold fitting
  split
  next => exact Nat.le_refl _
  next => exact Nat.min_le_left _ _

/-- A sink takes none of some bytes only if none fit. -/
lemma fitting_eq_zero {offered : Nat} (h : s.portion offered = 0) : s.fitting offered = 0 := by
  rw [portion] at h
  omega

/-- **One portion.**  Of the bytes that are left, those fit that fitted before and were not
taken. -/
lemma fitting_take :
    (s.take bytes).fitting (bytes.drop (s.portion bytes.length)).length =
      s.fitting bytes.length - s.portion bytes.length := by
  have hportion : s.portion bytes.length ≤ s.fitting bytes.length := Nat.min_le_left _ _
  have hfitting := s.fitting_le bytes.length
  have hheld : (s.take bytes).held.length = s.held.length + s.portion bytes.length := by
    rw [take, List.length_append, List.length_take,
      Nat.min_eq_left (Nat.le_trans hportion hfitting)]
  have hcapacity : (s.take bytes).capacity = s.capacity := rfl
  rw [List.length_drop]
  generalize s.portion bytes.length = taken at hheld ⊢
  rw [fitting, fitting, hcapacity, hheld]
  cases s.capacity with
  | none => rfl
  | some c =>
      show min (bytes.length - taken) (c - (s.held.length + taken)) =
        min bytes.length (c - s.held.length) - taken
      omega

/-- **Writing.**  A sink takes the first bytes, as many as fit, in whatever portions. -/
theorem writeAll_eq :
    s.writeAll bytes =
      (decide (s.fitting bytes.length = bytes.length),
        { s with held := s.held ++ bytes.take (s.fitting bytes.length) }) := by
  induction s, bytes using writeAll.induct with
  | case1 s bytes hempty =>
      obtain rfl := List.isEmpty_iff.1 hempty
      have hnone : s.fitting 0 = 0 := Nat.le_zero.1 (s.fitting_le 0)
      rw [writeAll, if_pos hempty]
      simp [hnone]
  | case2 s bytes hne hportion =>
      have hzero := s.fitting_eq_zero hportion
      have hlength : 0 ≠ bytes.length := by
        intro h
        exact hne (List.isEmpty_iff.2 (List.length_eq_zero_iff.1 h.symm))
      rw [writeAll, if_neg hne, if_pos hportion, hzero]
      simp [hlength]
  | case3 s bytes hne hportion ih =>
      have hle : s.portion bytes.length ≤ s.fitting bytes.length := Nat.min_le_left _ _
      have hfitting := s.fitting_le bytes.length
      have hall : s.fitting bytes.length - s.portion bytes.length =
          bytes.length - s.portion bytes.length ↔ s.fitting bytes.length = bytes.length := by
        omega
      -- The portion and what is taken of the rest are one front part.
      have htaken : bytes.take (s.portion bytes.length) ++
          (bytes.drop (s.portion bytes.length)).take
            (s.fitting bytes.length - s.portion bytes.length) =
          bytes.take (s.fitting bytes.length) := by
        rw [← List.take_add, Nat.add_sub_cancel' hle]
      rw [writeAll, if_neg hne, if_neg hportion, ih, fitting_take, List.length_drop,
        decide_eq_decide.2 hall, take, List.append_assoc, htaken]

end Sink

/-! ## The bytes of a text -/

lemma length_toList_loop (bytes : ByteArray) (i : Nat) (front : List UInt8) :
    (ByteArray.toList.loop bytes i front).length = front.length + (bytes.size - i) := by
  induction i, front using ByteArray.toList.loop.induct bytes with
  | case1 i front hlt ih =>
      rw [ByteArray.toList.loop, if_pos hlt, ih, List.length_cons]
      omega
  | case2 i front hge =>
      rw [ByteArray.toList.loop, if_neg hge, List.length_reverse]
      omega

lemma length_toUTF8 (s : String) : s.toUTF8.toList.length = s.utf8ByteSize :=
  (length_toList_loop s.toUTF8 0 []).trans (Nat.zero_add _)

/-! ## Generating into a sink -/

section Emission

variable {catalog : Catalog} {t : Taxonomy} {detection : List Preprocessor.Node} {c : Config}

/-- A finished header in any sink. -/
lemma emitTo_of_ok {artifact : Artifact} (h : generate catalog t detection c = .ok artifact)
    (s : Sink) :
    emitTo catalog t detection c s =
      (if s.fitting artifact.text.utf8ByteSize = artifact.text.utf8ByteSize then
          .ok artifact.stats else .error .unwritten,
        { s with
          held := s.held ++
            artifact.text.toUTF8.toList.take (s.fitting artifact.text.utf8ByteSize) }) := by
  simp only [emitTo, h, Sink.writeAll_eq, length_toUTF8]
  by_cases hall : s.fitting artifact.text.utf8ByteSize = artifact.text.utf8ByteSize
  · rw [decide_eq_true hall, if_pos hall]
  · rw [decide_eq_false hall, if_neg hall]

lemma emitTo_of_error {cause : GenError} (h : generate catalog t detection c = .error cause)
    (s : Sink) : emitTo catalog t detection c s = (.error (.generation cause), s) := by
  rw [emitTo, h]

end Emission

/-- **All or nothing, up to the capacity.**  An empty sink that takes bytes in portions of any
sizes, up to a capacity, is left alone if there is no header.  Otherwise writing succeeds exactly if
the capacity is at least the size of the header, and the sink then holds the header; if it is less,
the sink holds as many of the first bytes as it has room for.

No portion is empty, so before each one another count of bytes has been taken.  Some `appetite`
therefore fits any portions in any order. -/
theorem emitTo_bounded (catalog : Catalog) (t : Taxonomy) (detection : List Preprocessor.Node)
    (c : Config) (capacity : Nat) (appetite : Nat → Nat) :
    emitTo catalog t detection c (.empty (some capacity) appetite) =
      match generate catalog t detection c with
      | .error cause => (.error (.generation cause), .empty (some capacity) appetite)
      | .ok artifact =>
        if artifact.text.utf8ByteSize ≤ capacity then
          (.ok artifact.stats, ⟨artifact.text.toUTF8.toList, some capacity, appetite⟩)
        else
          (.error .unwritten,
            ⟨artifact.text.toUTF8.toList.take capacity, some capacity, appetite⟩) := by
  cases hgenerate : generate catalog t detection c with
  | error cause => exact emitTo_of_error hgenerate _
  | ok artifact =>
      have hfitting : (Sink.empty (some capacity) appetite).fitting artifact.text.utf8ByteSize =
          min artifact.text.utf8ByteSize capacity := rfl
      rw [emitTo_of_ok hgenerate, hfitting]
      by_cases hle : artifact.text.utf8ByteSize ≤ capacity
      · have hall : artifact.text.toUTF8.toList.take artifact.text.utf8ByteSize =
            artifact.text.toUTF8.toList :=
          List.take_of_length_le (Nat.le_of_eq (length_toUTF8 _))
        rw [Nat.min_eq_left hle, if_pos rfl, hall]
        exact (if_pos hle).symm
      · have hless : capacity ≠ artifact.text.utf8ByteSize := fun h => hle (Nat.le_of_eq h.symm)
        rw [Nat.min_eq_right (Nat.le_of_not_le hle), if_neg hless]
        exact (if_neg hle).symm

end MathHeader
