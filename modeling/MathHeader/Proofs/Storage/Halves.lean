import MathHeader.Proofs.Preprocessor.Simulation
import MathHeader.Proofs.Storage.Memory
import MathHeader.Proofs.Storage.Reading

/-!
# The halves of a double

The overlay of a double declares its halves once for each byte order, and the preprocessor leaves
the declarations for the order of the target (`overlayFields_double`).  Half zero is declared first
where the high part of a number lies in front, and second where it does not: the order of the
declarations arranges the halves as the byte order arranges the parts of a number.  So in either
order half zero is the high part of the bits and half one the low part, and a double can be put
together from its halves (`halves_of_double`).

The declarations are read off the text of the overlay, as a compiler would read them.  The lines of
the union are alternatives for the same bytes, and the members in one line follow each other.
-/

namespace MathHeader

open Preprocessor

namespace Preprocessor

/-! ## What a preprocessor leaves of a text -/

/-- The lines that are left for the compiler: those that are no directives, in the parts that
count. -/
def Machine.visible (ev : Evaluator) : List (List Char) → Machine → Except Stop (List (List Char))
  | [], m => if m.groups.isEmpty then .ok [] else .error .malformed
  | l :: ls, m =>
    match Directive.ofLine l with
    | .unknown => (visible ev ls m).map fun rest => if isLive m.groups then l :: rest else rest
    | d =>
      match m.step ev d with
      | .ok m => visible ev ls m
      | .error stop => .error stop

/-- The lines that are left of a text for the compiler, under the given macros. -/
def visibleLines (ev : Evaluator) (text : String) (t : MacroTable) :
    Except Stop (List (List Char)) :=
  Machine.visible ev (logicalLines false (Text.pieces '\n' text.toList)) ⟨[], ⟨t, []⟩⟩

/-- Plain lines stand for themselves. -/
lemma visibleLines_unlines (ev : Evaluator) {ls : List String} (h : ∀ l ∈ ls, IsPlain l)
    (t : MacroTable) :
    visibleLines ev (Text.unlines ls) t =
      Machine.visible ev (ls.map String.toList ++ [[]]) ⟨[], ⟨t, []⟩⟩ := by
  have hlogical : logicalLines false (ls.map String.toList ++ [[]]) =
      ls.map String.toList ++ [[]] := by
    induction ls with
    | nil => rfl
    | cons l ls ih =>
        obtain ⟨hl, hls⟩ := List.forall_mem_cons.1 h
        have hline := logicalLines_cons false hl (ls.map String.toList ++ [[]])
        rw [indented, if_neg (by decide), ih hls] at hline
        exact hline
  rw [visibleLines, Text.pieces_unlines fun l hl => (h l hl).oneLine, hlogical]

section Visible

open Machine

variable {ev : Evaluator} {m : Machine} {ls : List (List Char)}

/-- Lines that are no directives are left where they count. -/
lemma visible_append_of_isLive (h : ∀ l ∈ ls, Directive.ofLine l = .unknown)
    (hlive : isLive m.groups = true) (rest : List (List Char)) :
    visible ev (ls ++ rest) m = (visible ev rest m).map (ls ++ ·) := by
  induction ls with
  | nil =>
      rw [List.nil_append]
      cases visible ev rest m <;> rfl
  | cons l ls ih =>
      obtain ⟨hl, hls⟩ := List.forall_mem_cons.1 h
      rw [List.cons_append, visible, hl]
      simp only [ih hls, hlive, if_true]
      cases visible ev rest m <;> rfl

/-- Lines that are no directives are dropped where they do not count. -/
lemma visible_append_of_not_isLive (h : ∀ l ∈ ls, Directive.ofLine l = .unknown)
    (hskip : isLive m.groups = false) (rest : List (List Char)) :
    visible ev (ls ++ rest) m = visible ev rest m := by
  induction ls with
  | nil => rfl
  | cons l ls ih =>
      obtain ⟨hl, hls⟩ := List.forall_mem_cons.1 h
      rw [List.cons_append, visible, hl]
      simp only [ih hls, hskip]
      cases visible ev rest m <;> rfl

/-- A directive is obeyed. -/
lemma visible_cons {l : List Char} {d : Directive} (h : Directive.ofLine l = d)
    (hd : d ≠ .unknown) {m' : Machine} (hstep : m.step ev d = .ok m') (rest : List (List Char)) :
    visible ev (l :: rest) m = visible ev rest m' := by
  rw [visible, h]
  cases d with
  | unknown => exact absurd rfl hd
  | _ => simp only [hstep]

variable {first second back : List (List Char)} {message label : String} {r : Resolution}

/-- The lines behind all groups are left. -/
lemma visible_back (hback : ∀ l ∈ back, Directive.ofLine l = .unknown) :
    visible ev (back ++ [[]]) ⟨[], r⟩ = .ok back := by
  have hend : visible ev [[]] ⟨[], r⟩ = .ok [] := rfl
  rw [visible_append_of_isLive hback rfl, hend, Except.map, List.append_nil]

/-- Behind an alternative that was taken, the last one is skipped with its error. -/
lemma visible_otherwise_of_taken (hback : ∀ l ∈ back, Directive.ofLine l = .unknown) {fate : Fate}
    (h : fate ≠ .waiting) :
    visible ev ("#else".toList :: (errorLine message).toList :: (endLine label).toList ::
      (back ++ [[]])) ⟨[fate], r⟩ = .ok back := by
  have helse : Directive.ofLine "#else".toList = .otherwise := by decide
  have hother : step ev ⟨[fate], r⟩ .otherwise = .ok ⟨[.finished], r⟩ := by
    cases fate with
    | waiting => exact absurd rfl h
    | _ => rfl
  have herror : step ev ⟨[.finished], r⟩ (.error message) = .ok ⟨[.finished], r⟩ := rfl
  have hclose : step ev ⟨[.finished], r⟩ .closing = .ok ⟨[], r⟩ := rfl
  rw [visible_cons helse (by decide) hother,
    visible_cons (Directive.ofLine_errorLine message) (by simp) herror,
    visible_cons (Directive.ofLine_endLine label) (by decide) hclose, visible_back hback]

/-- If no alternative was taken, the error of the last one stops the compiler. -/
lemma visible_otherwise_of_waiting (rest : List (List Char)) :
    visible ev ("#else".toList :: (errorLine message).toList :: rest) ⟨[.waiting], r⟩ =
      .error (.message message) := by
  have helse : Directive.ofLine "#else".toList = .otherwise := by decide
  have hother : step ev ⟨[.waiting], r⟩ .otherwise = .ok ⟨[.live], r⟩ := rfl
  rw [visible_cons helse (by decide) hother, visible, Directive.ofLine_errorLine]
  rfl

/-- **A choice of two.**  Of two alternatives the first is left whose condition holds; if there is
none, the error stops the compiler. -/
lemma visible_choice (hfirst : ∀ l ∈ first, Directive.ofLine l = .unknown)
    (hsecond : ∀ l ∈ second, Directive.ofLine l = .unknown)
    (hback : ∀ l ∈ back, Directive.ofLine l = .unknown) (c c' : String) :
    visible ev (("#if" ++ " " ++ c).toList :: (first ++ ("#elif" ++ " " ++ c').toList ::
      (second ++ "#else".toList :: (errorLine message).toList :: (endLine label).toList ::
        (back ++ [[]])))) ⟨[], r⟩ =
      if ev.holds r.macros c then .ok (first ++ back)
      else if ev.holds r.macros c' then .ok (second ++ back)
      else .error (.message message) := by
  cases hc : ev.holds r.macros c with
  | true =>
      have hopen : step ev ⟨[], r⟩ (.opening c) = .ok ⟨[.live], r⟩ := by
        simp [step, opened, next, isLive, Fate.next, hc]
      have hfurther : step ev ⟨[.live], r⟩ (.further c') = .ok ⟨[.finished], r⟩ := rfl
      rw [visible_cons (Directive.ofLine_if c) (by simp) hopen,
        visible_append_of_isLive hfirst rfl,
        visible_cons (Directive.ofLine_elif c') (by simp) hfurther,
        visible_append_of_not_isLive hsecond rfl, visible_otherwise_of_taken hback (by decide)]
      rfl
  | false =>
      have hopen : step ev ⟨[], r⟩ (.opening c) = .ok ⟨[.waiting], r⟩ := by
        simp [step, opened, next, isLive, Fate.next, hc]
      rw [visible_cons (Directive.ofLine_if c) (by simp) hopen,
        visible_append_of_not_isLive hfirst rfl]
      cases hc' : ev.holds r.macros c' with
      | true =>
          have hfurther : step ev ⟨[.waiting], r⟩ (.further c') = .ok ⟨[.live], r⟩ := by
            simp [step, next, Fate.next, hc']
          rw [visible_cons (Directive.ofLine_elif c') (by simp) hfurther,
            visible_append_of_isLive hsecond rfl, visible_otherwise_of_taken hback (by decide)]
          rfl
      | false =>
          have hfurther : step ev ⟨[.waiting], r⟩ (.further c') = .ok ⟨[.waiting], r⟩ := by
            simp [step, next, Fate.next, hc']
          rw [visible_cons (Directive.ofLine_elif c') (by simp) hfurther,
            visible_append_of_not_isLive hsecond rfl, visible_otherwise_of_waiting]
          rfl

end Visible

end Preprocessor

namespace Storage

/-! ## The members of an overlay -/

/-- The bytes that a value of a type takes; only types of a known width have members here. -/
def byteSize (token : String) : ℕ :=
  (((Scalar.all.find? fun s => s.token == token).bind Scalar.bits).getD 0) / 8

/-- Members that follow each other from an offset on, given their sizes. -/
def placeFrom (offset : ℕ) : List (String × ℕ) → List ByteField
  | [] => []
  | (name, size) :: rest => ⟨name, offset, size⟩ :: placeFrom (offset + size) rest

/-- The members in a line of a union. -/
def lineFields (line : List Char) : List ByteField :=
  placeFrom 0 ((readLine line).flatMap fun (type, names) => names.map (·, byteSize type))

/-- The members of the overlay of a type, under the given macros. -/
def overlayFields (t : MacroTable) (float : Scalar) : Except Stop (List ByteField) :=
  (visibleLines grammar (Text.unlines (overlayLines float)) t).map (·.flatMap lineFields)

/-! ## The members of a double -/

/-- The halves that are declared with a letter: one of four bytes for each number, in the order in
which the numbers are declared. -/
def halfFields (letter : String) (o : ByteOrder) : List ByteField :=
  (halfOrder o).mapIdx fun k n => ⟨letter ++ toString n, 4 * k, 4⟩

/-- The members of the overlay of a double. -/
def doubleFields (o : ByteOrder) : List ByteField :=
  [⟨"f", 0, 8⟩, ⟨"u", 0, 8⟩, ⟨"i", 0, 8⟩] ++ halfFields "u" o ++ halfFields "i" o

/-- The text of a question for the byte order is answered like the question. -/
lemma grammar_holds_isSettled (o : ByteOrder) (t : MacroTable) :
    grammar.holds t o.isSettled.text = o.isSettled.holds t := by
  have hnames : ∀ name ∈ o.isSettled.strings, isMacroName name = true := by
    cases o <;> decide
  have hagrees : grammar.Agrees [o.isSettled] [] :=
    agrees_grammar (List.forall_mem_singleton.2 (by cases o <;> rfl)) (by simp)
      (List.forall_mem_singleton.2 hnames) (by simp)
  exact hagrees.holds_eq _ (List.mem_singleton_self _) t

/-- **Reading the overlay of a double.**  Its members are those for the order that the macros
settle; if they settle none, the compiler stops. -/
lemma overlayFields_double (t : MacroTable) :
    overlayFields t .f64 =
      match ByteOrder.all.find? fun o => o.isSettled.holds t with
      | some o => .ok (doubleFields o)
      | none => .error (.message "unsupported byte order") := by
  let front := ["struct f64_cvt_t \x7b", "    union \x7b", "        f64 f;", "        u64 u;",
    "        i64 i;"].map String.toList
  let back := ["    \x7d;", "\x7d;"].map String.toList
  let halves := fun o => (halvesOf o).map String.toList
  have hplain : ∀ l ∈ overlayLines .f64, IsPlain l := by decide
  have hlines : (overlayLines .f64).map String.toList ++ [[]] =
      front ++ ("/* [ui]0 is the most significant half */".toList ::
        ("#if" ++ " " ++ ByteOrder.big.isSettled.text).toList :: (halves .big ++
          ("#elif" ++ " " ++ ByteOrder.little.isSettled.text).toList :: (halves .little ++
            "#else".toList :: (errorLine "unsupported byte order").toList ::
              (endLine ByteOrder.settled).toList :: (back ++ [[]])))) := rfl
  have hfront : ∀ l ∈ front, Directive.ofLine l = .unknown := by decide
  have hback : ∀ l ∈ back, Directive.ofLine l = .unknown := by decide
  have hbig : ∀ l ∈ halves .big, Directive.ofLine l = .unknown := by decide
  have hlittle : ∀ l ∈ halves .little, Directive.ofLine l = .unknown := by decide
  have hcomment :
      Directive.ofLine "/* [ui]0 is the most significant half */".toList = .nothing := by
    decide
  have hfields (o : ByteOrder) :
      (front ++ (halves o ++ back)).flatMap lineFields = doubleFields o := by
    cases o <;> decide
  rw [overlayFields, visibleLines_unlines grammar hplain, hlines,
    visible_append_of_isLive hfront rfl, visible_cons hcomment (by decide) rfl,
    visible_choice hbig hlittle hback, grammar_holds_isSettled, grammar_holds_isSettled]
  cases hsettled : ByteOrder.big.isSettled.holds t with
  | true =>
      simp only [ByteOrder.all, List.find?_cons, hsettled, if_true, Except.map, hfields]
  | false =>
      cases hsettled' : ByteOrder.little.isSettled.holds t <;>
        simp [ByteOrder.all, hsettled, hsettled', Except.map, hfields]

/-! ## Use of the members -/

/-- The number in the member of a name, if there is one. -/
def readMember? (o : ByteOrder) (fields : List ByteField) (name : String) (memory : List UInt8) :
    Option ℕ :=
  (fields.find? (·.name == name)).map (·.read o memory)

/-- The memory after the member of a name is set, if there is one. -/
def writeMember? (o : ByteOrder) (fields : List ByteField) (name : String) (n : ℕ)
    (memory : List UInt8) : Option (List UInt8) :=
  (fields.find? (·.name == name)).map (·.write o n memory)

/-- What a cast makes of its arguments: it sets a member to each of them, and reads one. -/
def BitCast.run? (o : ByteOrder) (fields : List ByteField) (c : BitCast) (arguments : List ℕ)
    (memory : List UInt8) : Option ℕ := do
  let settings := (c.inputs.map (·.1)).zip arguments
  let memory ← settings.foldlM (fun memory (name, n) => writeMember? o fields name n memory) memory
  readMember? o fields c.output memory

/-! ## The halves -/

/-- The address of a half. -/
def halfOffset (o : ByteOrder) (n : ℕ) : ℕ :=
  4 * (halfOrder o).idxOf n

lemma find_half {letter : String} (h : letter ∈ ["u", "i"]) (o : ByteOrder) :
    (doubleFields o).find? (·.name == letter ++ "0") = some ⟨letter ++ "0", halfOffset o 0, 4⟩ ∧
      (doubleFields o).find? (·.name == letter ++ "1") =
        some ⟨letter ++ "1", halfOffset o 1, 4⟩ := by
  simp only [List.mem_cons, List.not_mem_nil, or_false] at h
  rcases h with rfl | rfl <;> cases o <;> decide

section Parts

variable {o : ByteOrder} {name : String} {high low : List UInt8} (hhigh : high.length = 4)
  (hlow : low.length = 4)
include hhigh hlow

lemma read_high : (ByteField.mk name (halfOffset o 0) 4).read o (o.arrange high low) =
    o.decode high := by
  have htake : high.take 4 = high := List.take_of_length_le hhigh.le
  cases o <;> simp [ByteField.read, halfOffset, halfOrder, ByteOrder.arrange, hhigh, hlow, htake]

lemma read_low : (ByteField.mk name (halfOffset o 1) 4).read o (o.arrange high low) =
    o.decode low := by
  have htake : low.take 4 = low := List.take_of_length_le hlow.le
  cases o <;> simp [ByteField.read, halfOffset, halfOrder, ByteOrder.arrange, hhigh, hlow, htake]

lemma write_high (n : ℕ) : (ByteField.mk name (halfOffset o 0) 4).write o n (o.arrange high low) =
    o.arrange (o.encode 4 n) low := by
  cases o <;> simp [ByteField.write, halfOffset, halfOrder, ByteOrder.arrange, hhigh, hlow]

lemma write_low (n : ℕ) : (ByteField.mk name (halfOffset o 1) 4).write o n (o.arrange high low) =
    o.arrange high (o.encode 4 n) := by
  cases o <;> simp [ByteField.write, halfOffset, halfOrder, ByteOrder.arrange, hhigh, hlow]

end Parts

section Halves

variable {letter : String} (h : letter ∈ ["u", "i"]) (o : ByteOrder)
include h

/-- The halves of the bytes of a double are the parts of its bits. -/
lemma readMember?_halves (pattern : UInt64) :
    readMember? o (doubleFields o) (letter ++ "0") (o.encode 8 pattern.toNat) =
        some (pattern.toNat / 2 ^ 32) ∧
      readMember? o (doubleFields o) (letter ++ "1") (o.encode 8 pattern.toNat) =
        some (pattern.toNat % 2 ^ 32) := by
  obtain ⟨hfirst, hsecond⟩ := find_half h o
  have hparts := o.encode_add 4 4 pattern.toNat
  have hhigh := o.length_encode 4 (pattern.toNat / 256 ^ 4)
  have hlow := o.length_encode 4 pattern.toNat
  have hword : 256 ^ 4 = 2 ^ 32 := by norm_num
  have hsize : pattern.toNat / 2 ^ 32 < 2 ^ 32 := by
    have := pattern.toNat_lt
    omega
  constructor
  · rw [readMember?, hfirst, hparts, Option.map_some,
      read_high hhigh hlow, o.decode_encode, hword, Nat.mod_eq_of_lt hsize]
  · rw [readMember?, hsecond, hparts, Option.map_some,
      read_low hhigh hlow, o.decode_encode, hword]

/-- Eight bytes whose halves are set are the bytes of the double with these halves. -/
lemma exists_writeMember?_halves (hi lo : UInt32) {memory : List UInt8}
    (hmemory : memory.length = 8) :
    ∃ after, (writeMember? o (doubleFields o) (letter ++ "0") hi.toNat memory).bind
        (writeMember? o (doubleFields o) (letter ++ "1") lo.toNat) = some after ∧
      after.length = 8 ∧ o.decode after = hi.toNat * 2 ^ 32 + lo.toNat := by
  obtain ⟨hfirst, hsecond⟩ := find_half h o
  obtain ⟨high, low, hhigh, hlow, rfl⟩ :=
    o.exists_arrange (hmemory.trans (by rfl : 8 = 4 + 4))
  have hhi := o.length_encode 4 hi.toNat
  have hlo := o.length_encode 4 lo.toNat
  have hword : 256 ^ 4 = 2 ^ 32 := by norm_num
  refine ⟨o.arrange (o.encode 4 hi.toNat) (o.encode 4 lo.toNat), ?_, ?_, ?_⟩
  · rw [writeMember?, hfirst, Option.map_some, Option.bind_some, writeMember?, hsecond,
      Option.map_some, write_high hhigh hlow, write_low hhi hlow]
  · rw [o.length_arrange, hhi, hlo]
  · rw [o.decode_arrange, o.decode_encode, o.decode_encode, hlo, hword,
      Nat.mod_eq_of_lt hi.toNat_lt, Nat.mod_eq_of_lt lo.toNat_lt]

end Halves

section Whole

variable (o : ByteOrder) {memory : List UInt8} (hmemory : memory.length = 8)
include hmemory

lemma writeMember?_whole (n : ℕ) :
    writeMember? o (doubleFields o) "f" n memory = some (o.encode 8 n) := by
  have hdrop : memory.drop 8 = [] := List.drop_of_length_le hmemory.le
  have hfind : (doubleFields o).find? (·.name == "f") = some ⟨"f", 0, 8⟩ := rfl
  simp [writeMember?, hfind, ByteField.write, hdrop]

lemma readMember?_whole : readMember? o (doubleFields o) "f" memory = some (o.decode memory) := by
  have htake : memory.take 8 = memory := List.take_of_length_le hmemory.le
  have hfind : (doubleFields o).find? (·.name == "f") = some ⟨"f", 0, 8⟩ := rfl
  simp [readMember?, hfind, ByteField.read, htake]

lemma run?_halves (pattern : UInt64) :
    BitCast.highHalf.run? o (doubleFields o) [pattern.toNat] memory =
        some (pattern.toNat / 2 ^ 32) ∧
      BitCast.lowHalf.run? o (doubleFields o) [pattern.toNat] memory =
        some (pattern.toNat % 2 ^ 32) := by
  have hwhole := writeMember?_whole o hmemory pattern.toNat
  have hhalves := readMember?_halves (by decide : "u" ∈ ["u", "i"]) o pattern
  constructor
  · simpa [BitCast.run?, BitCast.highHalf, hwhole] using hhalves.1
  · simpa [BitCast.run?, BitCast.lowHalf, hwhole] using hhalves.2

/-- The cast from two halves puts the double together. -/
lemma run?_ofHalves (hi lo : UInt32) :
    BitCast.ofHalves.run? o (doubleFields o) [hi.toNat, lo.toNat] memory =
      some (hi.toNat * 2 ^ 32 + lo.toNat) := by
  obtain ⟨after, hafter, hlength, hvalue⟩ :=
    exists_writeMember?_halves (by decide : "u" ∈ ["u", "i"]) o hi lo hmemory
  have hrun : BitCast.ofHalves.run? o (doubleFields o) [hi.toNat, lo.toNat] memory =
      ((writeMember? o (doubleFields o) "u0" hi.toNat memory).bind
        (writeMember? o (doubleFields o) "u1" lo.toNat)).bind
          (readMember? o (doubleFields o) "f") := by
    simp [BitCast.run?, BitCast.ofHalves]
  have hnames : ("u" ++ "0" = "u0") ∧ ("u" ++ "1" = "u1") := by decide
  rw [hnames.1, hnames.2] at hafter
  rw [hrun, hafter, Option.bind_some, readMember?_whole o hlength, hvalue]

end Whole

/-- **The halves of a double.**  For either byte order, the text of the overlay declares the halves
in it where the macros settle that order, as unsigned and as signed words.  In the bytes of a double
half zero is the high part of its bits, and half one the low part; setting both halves gives the
bytes of the double that they are parts of.  The casts between doubles and halves do so. -/
theorem halves_of_double (o : ByteOrder) :
    (∀ t : MacroTable, ByteOrder.all.find? (fun o => o.isSettled.holds t) = some o →
      overlayFields t .f64 = .ok (doubleFields o)) ∧
    (∀ letter ∈ ["u", "i"], ∀ pattern : UInt64,
      readMember? o (doubleFields o) (letter ++ "0") (o.encode 8 pattern.toNat) =
        some (pattern.toNat / 2 ^ 32) ∧
      readMember? o (doubleFields o) (letter ++ "1") (o.encode 8 pattern.toNat) =
        some (pattern.toNat % 2 ^ 32)) ∧
    (∀ letter ∈ ["u", "i"], ∀ (hi lo : UInt32) (memory : List UInt8), memory.length = 8 →
      ∃ after, (writeMember? o (doubleFields o) (letter ++ "0") hi.toNat memory).bind
          (writeMember? o (doubleFields o) (letter ++ "1") lo.toNat) = some after ∧
        after.length = 8 ∧ o.decode after = hi.toNat * 2 ^ 32 + lo.toNat) ∧
    ∀ memory : List UInt8, memory.length = 8 →
      (∀ pattern : UInt64,
        BitCast.highHalf.run? o (doubleFields o) [pattern.toNat] memory =
          some (pattern.toNat / 2 ^ 32) ∧
        BitCast.lowHalf.run? o (doubleFields o) [pattern.toNat] memory =
          some (pattern.toNat % 2 ^ 32)) ∧
      ∀ hi lo : UInt32,
        BitCast.ofHalves.run? o (doubleFields o) [hi.toNat, lo.toNat] memory =
          some (hi.toNat * 2 ^ 32 + lo.toNat) := by
  refine ⟨?_, fun letter hletter pattern => readMember?_halves hletter o pattern,
    fun letter hletter hi lo memory hmemory => exists_writeMember?_halves hletter o hi lo hmemory,
    fun memory hmemory => ⟨run?_halves o hmemory, run?_ofHalves o hmemory⟩⟩
  intro t hsettled
  rw [overlayFields_double, hsettled]

/-- The macros of a target whose bytes lie with the least significant one first. -/
def littleMacros : MacroTable :=
  .ofList [("RM_BYTE_ORDER_LITTLE_ENDIAN", 1234), ("RM_BYTE_ORDER_BIG_ENDIAN", 4321),
    ("RM_BYTE_ORDER", 1234)]

/-- The halves of the double nearest to the circle constant, where half one is declared first. -/
theorem halves_of_double_little :
    (ByteOrder.all.find? fun o => o.isSettled.holds littleMacros) = some .little ∧
      overlayFields littleMacros .f64 = .ok [⟨"f", 0, 8⟩, ⟨"u", 0, 8⟩, ⟨"i", 0, 8⟩,
        ⟨"u1", 0, 4⟩, ⟨"u0", 4, 4⟩, ⟨"i1", 0, 4⟩, ⟨"i0", 4, 4⟩] ∧
      readMember? .little (doubleFields .little) "i0"
        (ByteOrder.little.encode 8 0x400921FB54442D18) = some 0x400921FB ∧
      BitCast.ofHalves.run? .little (doubleFields .little) [0x400921FB, 0x54442D18]
        (List.replicate 8 0) = some 0x400921FB54442D18 := by
  have hsettled : (ByteOrder.all.find? fun o => o.isSettled.holds littleMacros) = some .little := by
    decide
  obtain ⟨hoverlay, hread, -, hcasts⟩ := halves_of_double .little
  have hfields := hoverlay littleMacros hsettled
  have hpattern := (hread "i" (by decide) 0x400921FB54442D18).1
  have hjoined := (hcasts (List.replicate 8 0) List.length_replicate).2 0x400921FB 0x54442D18
  exact ⟨hsettled, hfields, hpattern, hjoined⟩

end Storage

end MathHeader
