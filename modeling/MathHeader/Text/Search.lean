/-!
# Searching in a text

Two searches are needed: whether a pattern occurs in a line, and where a separator first stands.
Both are structural recursions over the characters.
-/

namespace MathHeader.Text

/-! ## Occurrence -/

/-- Whether a pattern stands somewhere in the characters; the empty pattern stands everywhere. -/
def occursIn (pattern : List Char) : List Char → Bool
  | [] => pattern.isEmpty
  | c :: cs => pattern.isPrefixOf (c :: cs) || occursIn pattern cs

def contains (text pattern : String) : Bool :=
  occursIn pattern.toList text.toList

theorem occursIn_iff {pattern cs : List Char} :
    occursIn pattern cs = true ↔ pattern <:+: cs := by
  induction cs with
  | nil => cases pattern <;> simp [occursIn]
  | cons c cs ih =>
    rw [occursIn, Bool.or_eq_true, ih, List.isPrefixOf_iff_prefix, List.infix_cons_iff]

/-! ## The first separator -/

/-- The parts of a text before and after the first `sep`, if there is one. -/
def splitAtFirst (sep : Char) : List Char → Option (List Char × List Char)
  | [] => none
  | c :: cs =>
    if c = sep then some ([], cs)
    else (splitAtFirst sep cs).map fun (before, after) => (c :: before, after)

theorem splitAtFirst_eq_some_iff {sep : Char} {cs before after : List Char} :
    splitAtFirst sep cs = some (before, after) ↔ sep ∉ before ∧ cs = before ++ sep :: after := by
  induction cs generalizing before with
  | nil => simp [splitAtFirst]
  | cons c cs ih =>
    by_cases h : c = sep
    · subst h
      cases before <;> simp [splitAtFirst]
      intro h₁ _ h₂
      exact absurd h₂ h₁
    · cases before with
      | nil => simp [splitAtFirst, h]
      | cons b before =>
        simp only [splitAtFirst, if_neg h, Option.map_eq_some_iff, Prod.exists, Prod.mk.injEq,
          List.cons.injEq, List.mem_cons, not_or, List.cons_append]
        constructor
        · rintro ⟨x, y, hxy, ⟨rfl, rfl⟩, rfl⟩
          obtain ⟨hx, rfl⟩ := ih.1 hxy
          exact ⟨⟨fun e => h e.symm, hx⟩, rfl, rfl⟩
        · rintro ⟨⟨_, hb⟩, rfl, rfl⟩
          exact ⟨before, after, ih.2 ⟨hb, rfl⟩, ⟨rfl, rfl⟩, rfl⟩

theorem splitAtFirst_eq_none_iff {sep : Char} {cs : List Char} :
    splitAtFirst sep cs = none ↔ sep ∉ cs := by
  induction cs with
  | nil => simp [splitAtFirst]
  | cons c cs ih =>
    by_cases h : c = sep
    · simp [splitAtFirst, h]
    · simp only [splitAtFirst, if_neg h, Option.map_eq_none_iff, ih, List.mem_cons, not_or]
      exact ⟨fun hc => ⟨fun e => h e.symm, hc⟩, fun hc => hc.2⟩

end MathHeader.Text
