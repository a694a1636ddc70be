import MathHeader.Proofs.Preprocessor.Reading
import MathHeader.Proofs.Preprocessor.Walk

/-!
# What conditions and values mean

A block is resolved by evaluating its conditions and values as trees, and a compiler evaluates their
texts.  The two agree: `texts_mean_values`.

Only parentheses could go wrong.  A group puts them around each term that is itself a group of
several terms; a term without them is a question, a negation, or a group of one term, and so it has
no operator in it that binds less than the operator around it.  That is what the induction carries:
the text of a condition is read at `Condition.level`, and the text of each term at `termLevel`.
-/

namespace MathHeader.Preprocessor

/-! ## Well-formed conditions and values -/

def isMacroName (name : String) : Bool :=
  isIdentifier name && name != "defined"

mutual

/-- Whether no group in a condition is empty. -/
def Condition.isFilled : Condition → Bool
  | .defined _ => true
  | .equal _ _ => true
  | .not c => c.isFilled
  | .any terms => !terms.isEmpty && termsFilled terms
  | .all terms => !terms.isEmpty && termsFilled terms

/-- Whether no group in the terms of a group is empty. -/
def termsFilled : List Condition → Bool
  | [] => true
  | c :: cs => c.isFilled && termsFilled cs

end

mutual

/-- Whether no union in a value is empty, no hexadecimal number is negative, and no bit is beyond
those of positive numbers. -/
def Value.isProper : Value → Bool
  | .hex value => 0 ≤ value
  | .bit position => position ≤ 62
  | .union parts => !parts.isEmpty && partsProper parts
  | _ => true

def partsProper : List Value → Bool
  | [] => true
  | v :: vs => v.isProper && partsProper vs

end

/-! ## Values of expressions -/

/-- **Deciding.**  An expression tells whether a condition holds. -/
def Decides (e : Expression) (c : Condition) : Prop :=
  ∀ t, e.eval t = some (truth (c.holds t))

/-- **Computing.**  An expression has the number that a value stands for. -/
def Computes (e : Expression) (v : Value) : Prop :=
  ∀ t, e.eval t = some (v.eval t)

lemma truth_bne_zero (b : Bool) : (truth b != 0) = b := by
  cases b <;> decide

lemma truth_beq_zero (b : Bool) : (truth b == 0) = !b := by
  cases b <;> decide

lemma int64?_toInt (x : Int64) : int64? x.toInt = some x := by
  rw [int64?, if_pos ⟨x.le_toInt, x.toInt_lt⟩, Int64.ofInt_toInt]

/-- A group has the value that comes out when the values of its operands are put in one by one. -/
lemma Expression.eval_foldl {α β : Type} {t : MacroTable} {o : Operator} {value : α → Int64}
    (result : β → Int64) {f : β → α → β}
    (hcompute : ∀ b a, o.compute? (result b) (value a) = some (result (f b a)))
    {es : List Expression} {as : List α}
    (h : List.Forall₂ (fun e a => e.eval t = some (value a)) es as) {e : Expression} {b : β}
    (he : e.eval t = some (result b)) :
    (es.foldl (.binary o) e).eval t = some (result (as.foldl f b)) := by
  induction h generalizing e b with
  | nil => exact he
  | cons hvalue _ ih =>
      rw [List.foldl_cons, List.foldl_cons]
      refine ih ?_
      rw [Expression.eval, he, hvalue]
      exact hcompute _ _

lemma foldl_anyHolds (t : MacroTable) (cs : List Condition) (b : Bool) :
    cs.foldl (fun b c => b || c.holds t) b = (b || Condition.anyHolds t cs) := by
  induction cs generalizing b with
  | nil => simp [Condition.anyHolds]
  | cons c cs ih => rw [List.foldl_cons, ih, Condition.anyHolds, Bool.or_assoc]

lemma foldl_allHold (t : MacroTable) (cs : List Condition) (b : Bool) :
    cs.foldl (fun b c => b && c.holds t) b = (b && Condition.allHold t cs) := by
  induction cs generalizing b with
  | nil => simp [Condition.allHold]
  | cons c cs ih => rw [List.foldl_cons, ih, Condition.allHold, Bool.and_assoc]

lemma foldl_unionFrom (t : MacroTable) (vs : List Value) (seen : Int64) :
    vs.foldl (fun seen v => seen ||| v.eval t) seen = Value.unionFrom t seen vs := by
  induction vs generalizing seen with
  | nil => rw [List.foldl_nil, Value.unionFrom]
  | cons v vs ih => rw [List.foldl_cons, ih, Value.unionFrom]

section Groups

variable {e : Expression} {es : List Expression}

lemma Decides.any {c : Condition} {cs : List Condition} (he : Decides e c)
    (hes : List.Forall₂ Decides es cs) :
    Decides (es.foldl (.binary .or) e) (.any (c :: cs)) := by
  intro t
  have heval := Expression.eval_foldl truth (o := .or) (f := fun b c => b || c.holds t)
    (fun b c => by rw [Operator.compute?, truth_bne_zero, truth_bne_zero])
    (hes.imp fun _ _ h => h t) (he t)
  rw [heval, foldl_anyHolds, Condition.holds, Condition.anyHolds]

lemma Decides.all {c : Condition} {cs : List Condition} (he : Decides e c)
    (hes : List.Forall₂ Decides es cs) :
    Decides (es.foldl (.binary .and) e) (.all (c :: cs)) := by
  intro t
  have heval := Expression.eval_foldl truth (o := .and) (f := fun b c => b && c.holds t)
    (fun b c => by rw [Operator.compute?, truth_bne_zero, truth_bne_zero])
    (hes.imp fun _ _ h => h t) (he t)
  rw [heval, foldl_allHold, Condition.holds, Condition.allHold]

lemma Decides.not {c : Condition} (he : Decides e c) : Decides (.not e) (.not c) := by
  intro t
  rw [Expression.eval, he t, Option.map_some, truth_beq_zero, Condition.holds]

lemma Computes.union {v : Value} {vs : List Value} (he : Computes e v)
    (hes : List.Forall₂ Computes es vs) :
    Computes (es.foldl (.binary .bitOr) e) (.union (v :: vs)) := by
  intro t
  have heval := Expression.eval_foldl id (o := .bitOr)
    (f := fun seen v => seen ||| v.eval t) (fun _ _ => rfl) (hes.imp fun _ _ h => h t) (he t)
  rw [heval, foldl_unionFrom, Value.eval, Value.unionFrom, Int64.zero_or]
  rfl

end Groups

/-! ## Texts of conditions -/

/-- The operators that can stand in a term of a group, outside of parentheses. -/
def termLevel : List Operator :=
  [.bitOr, .equal, .shift]

/-- What is read without any operator is read as a term. -/
lemma Parses.term {text : String} {e : Expression} (h : Parses [] text e) :
    Parses termLevel text e :=
  ((h.loosen (o := .shift) (by decide)).loosen (o := .equal) (by decide)).loosen (by decide)

/-- What is read as a term is read as a whole. -/
lemma Parses.whole {text : String} {e : Expression} (h : Parses termLevel text e) :
    Parses precedence text e :=
  (h.loosen (o := .and) (by decide)).loosen (by decide)

lemma parses_operand {operand : Operand} (h : ∀ name ∈ operand.strings, isMacroName name = true) :
    ∃ e, Parses [] operand.text e ∧ ∀ t, e.eval t = some (operand.eval t) := by
  cases operand with
  | named name =>
      obtain ⟨hname, hne⟩ := by
        simpa [isMacroName] using h name (List.mem_singleton_self name)
      exact ⟨.named name, .of_operand (spells_name hname hne), fun t => rfl⟩
  | int value =>
      exact ⟨.number value.toInt, .of_operand (spells_int value.toInt),
        fun t => int64?_toInt value⟩

/-- The operators that can stand in a condition, outside of parentheses. -/
def Condition.level (c : Condition) : List Operator :=
  if c.isGroup then precedence else termLevel

lemma Condition.level_any (terms : List Condition) :
    (any terms).level = if 1 < terms.length then precedence else termLevel := by
  simp [level, isGroup]

lemma Condition.level_all (terms : List Condition) :
    (all terms).level = if 1 < terms.length then precedence else termLevel := by
  simp [level, isGroup]

lemma length_termTexts (cs : List Condition) : (Condition.termTexts cs).length = cs.length := by
  induction cs with
  | nil => simp [Condition.termTexts]
  | cons c cs ih => simp [Condition.termTexts, ih]

/-- A group of terms is read with its operator between them; a single term is read as one. -/
lemma Parses.group {o : Operator} (ho : o = .or ∨ o = .and) {terms : List Condition}
    {e : Expression} {es : List Expression}
    (h : List.Forall₂ (Parses termLevel) (Condition.termTexts terms) (e :: es)) :
    Parses (if 1 < terms.length then precedence else termLevel)
      (o.separator.intercalate (Condition.termTexts terms)) (es.foldl (.binary o) e) := by
  rw [← length_termTexts]
  generalize Condition.termTexts terms = texts at h ⊢
  cases h with
  | cons hparses hparsess =>
      cases hparsess with
      | nil => simpa using hparses
      | cons hparses' hparsess' =>
          have hall := List.Forall₂.cons hparses (.cons hparses' hparsess')
          rw [if_pos (by simp)]
          rcases ho with rfl | rfl
          · exact .join (by decide) (hall.imp fun _ _ h => h.loosen (by decide))
          · exact (Parses.join (by decide) hall).loosen (by decide)

lemma Parses.of_level {c : Condition} {text : String} {e : Expression}
    (h : Parses c.level text e) : Parses precedence text e := by
  unfold Condition.level at h
  split at h
  · exact h
  · exact h.whole

lemma parses_defined {name : String} (h : isMacroName name = true) :
    Parses [] (Condition.defined name).text (.defined name) := by
  obtain ⟨hname, hne⟩ := by simpa [isMacroName] using h
  rw [Condition.text]
  exact .of_operand (spells_defined hname hne)

/-- Only the question whether a macro is defined is negated without parentheses. -/
lemma parses_undefined {name : String} (h : isMacroName name = true) :
    Parses [] (Condition.undefined name).text (.not (.defined name)) := by
  have htext : (Condition.undefined name).text = "!" ++ (Condition.defined name).text := by
    rw [Condition.undefined, Condition.text, Condition.text, ← String.append_assoc]
    rfl
  have hfront : (Condition.defined name).text.toList =
      'd' :: ("efined" ++ parenthesized name).toList := by
    simp [Condition.text]
  rw [htext]
  exact (parses_defined h).not hfront (by decide)

mutual

lemma Condition.parses : (c : Condition) → c.isFilled = true →
    (∀ name ∈ c.strings, isMacroName name = true) →
      ∃ e, Parses c.level c.text e ∧ Decides e c
  | .defined name, _, hnames =>
      ⟨.defined name, (parses_defined (hnames name (List.mem_singleton_self name))).term,
        fun t => by rw [Expression.eval, Condition.holds]⟩
  | .equal left right, _, hnames => by
      rw [Condition.strings, List.forall_mem_append] at hnames
      obtain ⟨el, hleft, hevall⟩ := parses_operand hnames.1
      obtain ⟨er, hright, hevalr⟩ := parses_operand hnames.2
      refine ⟨.binary .equal el er, ?_, fun t => ?_⟩
      · have hjoin : Parses [.equal, .shift] _ (.binary .equal el er) := .join (by decide)
          (.cons (hleft.loosen (by decide)) (.cons (hright.loosen (by decide)) .nil))
        rw [Condition.text]
        exact hjoin.loosen (by decide)
      · rw [Expression.eval, hevall, hevalr]
        rfl
  | .not c, hfilled, hnames => by
      rw [Condition.isFilled] at hfilled
      rw [Condition.strings] at hnames
      obtain ⟨e, hparses, hdecides⟩ := Condition.parses c hfilled hnames
      cases c with
      | defined name =>
          have hname := hnames name (List.mem_singleton_self name)
          refine ⟨.not (.defined name), (parses_undefined hname).term, fun t => ?_⟩
          simp [Expression.eval, Condition.holds, truth_beq_zero]
      | _ =>
          refine ⟨.not e, ?_, hdecides.not⟩
          rw [Condition.text]
          · exact (hparses.of_level.parenthesized.not (toList_parenthesized _) (by decide)).term
          · exact fun _ heq => nomatch heq
  | .any terms, hfilled, hnames => by
      rw [Condition.isFilled, Bool.and_eq_true] at hfilled
      rw [Condition.strings] at hnames
      obtain ⟨es, hparses, hdecides⟩ := terms_parse terms hfilled.2 hnames
      cases hdecides with
      | nil => simp at hfilled
      | cons hdecides hdecidess =>
          refine ⟨_, ?_, hdecides.any hdecidess⟩
          rw [Condition.text, Condition.level_any]
          exact Parses.group (.inl rfl) hparses
  | .all terms, hfilled, hnames => by
      rw [Condition.isFilled, Bool.and_eq_true] at hfilled
      rw [Condition.strings] at hnames
      obtain ⟨es, hparses, hdecides⟩ := terms_parse terms hfilled.2 hnames
      cases hdecides with
      | nil => simp at hfilled
      | cons hdecides hdecidess =>
          refine ⟨_, ?_, hdecides.all hdecidess⟩
          rw [Condition.text, Condition.level_all]
          exact Parses.group (.inr rfl) hparses

lemma terms_parse : (cs : List Condition) → termsFilled cs = true →
    (∀ name ∈ termStrings cs, isMacroName name = true) →
      ∃ es, List.Forall₂ (Parses termLevel) (Condition.termTexts cs) es ∧
        List.Forall₂ Decides es cs
  | [], _, _ => ⟨[], .nil, .nil⟩
  | c :: cs, hfilled, hnames => by
      rw [termsFilled, Bool.and_eq_true] at hfilled
      rw [termStrings, List.forall_mem_append] at hnames
      obtain ⟨e, hparses, hdecides⟩ := Condition.parses c hfilled.1 hnames.1
      obtain ⟨es, hparsess, hdecidess⟩ := terms_parse cs hfilled.2 hnames.2
      refine ⟨e :: es, .cons ?_ hparsess, .cons hdecides hdecidess⟩
      split
      next hgroup =>
        rw [Condition.level, if_pos hgroup] at hparses
        exact hparses.parenthesized.term
      next hgroup => rwa [Condition.level, if_neg hgroup] at hparses

end

/-! ## Texts of values -/

/-- A hexadecimal number that is not negative shows its digits. -/
lemma toNat_toUInt64 {x : Int64} (h : 0 ≤ x) : (x.toUInt64.toNat : Int) = x.toInt := by
  have hpos : 0 ≤ x.toInt := by simpa [Int64.le_iff_toInt_le] using h
  rw [Int64.toNat_toUInt64_of_le h]
  exact Int.toNat_of_nonneg hpos

lemma computes_bit {position : Nat} (h : position ≤ 62) :
    Computes (.binary .shift (.number 1) (.number position)) (.bit position) := by
  have hsize : (position : Int) < 2 ^ 63 := by omega
  have htoInt : (Int64.ofInt position).toInt = position :=
    Int64.toInt_ofInt_of_le (by omega) hsize
  have hleft : int64? 1 = some 1 := by decide
  have hright : int64? position = some (.ofInt position) := if_pos ⟨by omega, hsize⟩
  have hrange : (0 : Int64) ≤ 1 ∧ 0 ≤ Int64.ofInt position ∧ Int64.ofInt position < 64 := by
    rw [Int64.le_iff_toInt_le, Int64.le_iff_toInt_le, Int64.lt_iff_toInt_lt, htoInt]
    simp
    omega
  intro t
  rw [Expression.eval, Expression.eval, Expression.eval, hleft, hright, Value.eval,
    ← int64?_toInt (1 <<< Int64.ofNat position), toInt_bit h]
  simp only [Option.bind_eq_bind, Option.bind_some, Operator.compute?]
  rw [if_pos hrange, htoInt]
  simp

mutual

lemma Value.parses : (v : Value) → v.isProper = true →
    (∀ name ∈ v.strings, isMacroName name = true) →
      ∃ e, Parses [] v.text e ∧ Computes e v
  | .flag, _, _ => by
      refine ⟨.number 1, ?_, fun t => ?_⟩
      · rw [Value.text]
        exact .of_operand (spells_nat 1)
      · rw [Value.eval, Expression.eval]
        decide
  | .int value, _, _ => by
      refine ⟨.number value.toInt, ?_, fun t => ?_⟩
      · rw [Value.text]
        exact .of_operand (spells_int value.toInt)
      · rw [Value.eval, Expression.eval, int64?_toInt]
  | .hex value, hproper, _ => by
      have hvalue : 0 ≤ value := by simpa [Value.isProper] using hproper
      refine ⟨.number value.toUInt64.toNat, ?_, fun t => ?_⟩
      · rw [Value.text]
        exact .of_operand (spells_hex _)
      · rw [Value.eval, Expression.eval, toNat_toUInt64 hvalue, int64?_toInt]
  | .bit position, hproper, _ => by
      have hrange : position ≤ 62 := by simpa [Value.isProper] using hproper
      refine ⟨_, ?_, computes_bit hrange⟩
      have hone : Parses [] "1" (.number 1) := .of_operand (spells_nat 1)
      have hposition : Parses [] (toString position) (.number position) :=
        .of_operand (spells_nat position)
      have hjoin : Parses [.shift] _ (.binary .shift (.number 1) (.number position)) :=
        .join (by decide) (.cons hone (.cons hposition .nil))
      have hterm : Parses termLevel ("1 << " ++ toString position) _ :=
        (hjoin.loosen (o := .equal) (by decide)).loosen (by decide)
      rw [Value.text]
      exact hterm.whole.parenthesized
  | .named name, _, hnames => by
      obtain ⟨hname, hne⟩ := by
        simpa [isMacroName] using hnames name (by simp [Value.strings])
      refine ⟨.named name, ?_, fun t => ?_⟩
      · rw [Value.text]
        exact .of_operand (spells_name hname hne)
      · rw [Value.eval, Expression.eval]
  | .union parts, hproper, hnames => by
      rw [Value.isProper, Bool.and_eq_true] at hproper
      rw [Value.strings] at hnames
      obtain ⟨es, hparses, hcomputes⟩ := parts_parse parts hproper.2 hnames
      -- A proper union has a part that the others are joined to.
      cases hcomputes with
      | nil => simp at hproper
      | cons hcomputes hcomputess =>
          refine ⟨_, ?_, hcomputes.union hcomputess⟩
          have hjoin : Parses termLevel _ _ := Parses.join (o := .bitOr) (by decide)
            (hparses.imp fun _ _ h => (h.loosen (o := .shift) (by decide)).loosen (by decide))
          rw [Value.text]
          exact hjoin.whole.parenthesized

lemma parts_parse : (vs : List Value) → partsProper vs = true →
    (∀ name ∈ partStrings vs, isMacroName name = true) →
      ∃ es, List.Forall₂ (Parses []) (Value.partTexts vs) es ∧ List.Forall₂ Computes es vs
  | [], _, _ => ⟨[], .nil, .nil⟩
  | v :: vs, hproper, hnames => by
      rw [partsProper, Bool.and_eq_true] at hproper
      rw [partStrings, List.forall_mem_append] at hnames
      obtain ⟨e, hparses, hcomputes⟩ := Value.parses v hproper.1 hnames.1
      obtain ⟨es, hparsess, hcomputess⟩ := parts_parse vs hproper.2 hnames.2
      exact ⟨e :: es, .cons hparses hparsess, .cons hcomputes hcomputess⟩

end

/-! ## What the texts mean -/

/-- **Texts mean what is evaluated.**  By the expression grammar, the text of a condition without
empty groups is an expression, and for every table of macros it has a value, which is not zero
exactly if the condition holds.  The text of a proper value is an expression too, and has the number
that the value stands for. -/
theorem texts_mean_values :
    (∀ c : Condition, c.isFilled = true → (∀ name ∈ c.strings, isMacroName name = true) →
      ∃ e, read? c.text = some e ∧
        ∀ t, ∃ x, e.eval t = some x ∧ (x ≠ 0 ↔ c.holds t = true)) ∧
    (∀ v : Value, v.isProper = true → (∀ name ∈ v.strings, isMacroName name = true) →
      ∃ e, read? v.text = some e ∧ ∀ t, e.eval t = some (v.eval t)) := by
  constructor
  · intro c hfilled hnames
    obtain ⟨e, hparses, hdecides⟩ := c.parses hfilled hnames
    refine ⟨e, hparses.of_level.read?, fun t => ⟨_, hdecides t, ?_⟩⟩
    cases c.holds t <;> simp [truth]
  · intro v hproper hnames
    obtain ⟨e, hparses, hcomputes⟩ := v.parses hproper hnames
    exact ⟨e, hparses.term.whole.read?, hcomputes⟩

example : (read? "!defined(A) && B == 2 || C").bind (·.eval (.ofList [("B", 2)])) = some 1 := by
  decide

/-- A condition with groups in groups, of which some have a single term. -/
def nestedCondition : Condition :=
  .any [.not (.all [.defined "A", .equal (.named "B") (.int (-2))]),
    .all [.any [.undefined "C"], .any [.macroIs "D" 10, .all [.defined "A", .defined "B"]]]]

/-- A value with a union in a union. -/
def nestedValue : Value :=
  .union [.named "A", .bit 62, .union [.int (-1), .hex 255, .flag]]

/-- The texts of the two, for every table. -/
theorem texts_mean_values_nested :
    nestedCondition.isFilled = true ∧ nestedValue.isProper = true ∧
      (∀ name ∈ nestedCondition.strings ++ nestedValue.strings, isMacroName name = true) ∧
      (∃ e, read? nestedCondition.text = some e ∧
        ∀ t, ∃ x, e.eval t = some x ∧ (x ≠ 0 ↔ nestedCondition.holds t = true)) ∧
      ∃ e, read? nestedValue.text = some e ∧ ∀ t, e.eval t = some (nestedValue.eval t) :=
  ⟨by decide, by decide, by decide, texts_mean_values.1 nestedCondition (by decide) (by decide),
    texts_mean_values.2 nestedValue (by decide) (by decide)⟩

end MathHeader.Preprocessor
