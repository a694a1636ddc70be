import MathHeader.Proofs.Template.Closing
import Mathlib.Data.List.TakeWhile

/-!
# The cut of a template into lexemes

`lexemes` scans a text once, from the left, and every decision is made at the front of what is left.
`lexemes_induction` is that scan as an induction principle: a fact about a text and its lexemes is
shown for the lexeme at the front and the text after it.  Nothing is lost on the way, since a lexeme
knows the characters that it was cut from: `flatMap_chars_lexemes`.

What opens a mark is said by `OpensMark` without looking at the scan, and `Lexeme.ofBrace_cases`
lists what the scan makes of a brace.  A text in which no brace opens a mark is a literal
(`IsLiteral`).

The scan looks ahead, for a name and for the end of a group, so a text may be read in another way
when more text follows it.  That happens only if something is open where the texts meet: a group, or
a brace with nothing but a name behind it.  Otherwise the lexemes of both texts follow one another:
`lexemes_append`.
-/

namespace MathHeader

/-! ## Braces that are part of the text -/

/-- **What opens a mark.**  A brace opens a mark if the sign of an expansion follows it, or a name
and a closing brace. -/
def OpensMark (rest : List Char) : Prop :=
  rest.head? = some '@' ∨
    ∃ name tail, name ≠ [] ∧ name.all isWordChar = true ∧ rest = name ++ '}' :: tail

/-- A text in which no brace opens a mark. -/
def IsLiteral (cs : List Char) : Prop :=
  ∀ rest, '{' :: rest <:+ cs → ¬OpensMark rest

/-- What opens a mark does so in a longer text too. -/
lemma OpensMark.append {rest : List Char} (h : OpensMark rest) (more : List Char) :
    OpensMark (rest ++ more) := by
  rcases h with h | ⟨name, tail, hne, hname, rfl⟩
  · exact .inl (by rw [List.head?_append, h]; rfl)
  · exact .inr ⟨name, tail ++ more, hne, hname, by rw [List.append_assoc]; rfl⟩

/-- Whether a mark is opened is decided by the first character that is in no name. -/
lemma OpensMark.of_append {rest more : List Char} (h : OpensMark (rest ++ more))
    (hrest : rest.all isWordChar = false) : OpensMark rest := by
  rcases h with h | ⟨name, tail, hne, hname, heq⟩
  · cases rest with
    | nil => cases hrest
    | cons c rest => exact .inl h
  · rcases List.append_eq_append_iff.1 heq with ⟨back, rfl, -⟩ | ⟨back, rfl, hback⟩
    · -- The name would go on behind the text.
      rw [List.all_append, hrest] at hname
      cases hname
    · cases back with
      | nil => rw [List.append_nil, hname] at hrest; cases hrest
      | cons c back =>
          cases hback
          exact .inr ⟨name, back, hne, hname, rfl⟩

lemma isLiteral_nil : IsLiteral [] := by
  intro rest h
  cases List.suffix_nil.1 h

lemma isLiteral_cons {c : Char} {cs : List Char} :
    IsLiteral (c :: cs) ↔ (c = '{' → ¬OpensMark cs) ∧ IsLiteral cs := by
  simp only [IsLiteral, List.suffix_cons_iff, List.cons.injEq]
  constructor
  · intro h
    exact ⟨fun hc => h cs (.inl ⟨hc.symm, rfl⟩), fun rest hrest => h rest (.inr hrest)⟩
  · rintro ⟨hhead, htail⟩ rest (⟨hc, rfl⟩ | hrest)
    · exact hhead hc.symm
    · exact htail rest hrest

/-! ## What a brace can be -/

namespace Lexeme

/-- A name that is closed is what stands in front of the first character that is no part of it. -/
lemma takeWhile_name {name : List Char} (hname : name.all isWordChar = true) (tail : List Char) :
    (name ++ '}' :: tail).takeWhile isWordChar = name := by
  rw [List.takeWhile_append_of_pos (List.all_eq_true.1 hname),
    List.takeWhile_cons_of_neg (by decide), List.append_nil]

/-- **What a brace can be.**  With what follows it, a brace makes a group, the front of a group that
is never closed, or a name between braces; if it opens no mark, it is a character. -/
lemma ofBrace_cases (rest : List Char) :
    (∃ inner tail, rest = '@' :: (inner ++ '}' :: tail) ∧ ofBrace rest = group inner) ∨
      (∃ tail, rest = '@' :: tail ∧ ofBrace rest = opened) ∨
      (∃ name tail, name ≠ [] ∧ name.all isWordChar = true ∧ rest = name ++ '}' :: tail ∧
        ofBrace rest = named name) ∨
      ¬OpensMark rest ∧ ofBrace rest = char '{' := by
  unfold ofBrace
  split
  next cs =>
    cases hclose : closingIndex 0 ('@' :: cs) with
    | none => exact .inr (.inl ⟨cs, rfl, rfl⟩)
    | some k =>
        obtain ⟨front, tail, heq, rfl⟩ := exists_of_closingIndex hclose
        cases front with
        | nil => cases heq
        | cons c inner =>
            cases heq
            exact .inl ⟨inner, tail, rfl, by simp⟩
  next hsign =>
    have hsplit := List.takeWhile_append_dropWhile (p := isWordChar) (l := rest)
    generalize hname : rest.takeWhile isWordChar = name at hsplit ⊢
    generalize rest.dropWhile isWordChar = more at hsplit
    subst hsplit
    have hword : name.all isWordChar = true := by
      rw [← hname]
      exact List.all_takeWhile
    dsimp only
    rw [List.drop_left]
    right
    right
    by_cases hmark : (!name.isEmpty && more.head? == some '}') = true
    · rw [if_pos hmark]
      rw [Bool.and_eq_true, beq_iff_eq, List.head?_eq_some_iff] at hmark
      obtain ⟨hne, tail, rfl⟩ := hmark
      exact .inl ⟨name, tail, by simpa using hne, hword, rfl, rfl⟩
    · rw [if_neg hmark]
      refine .inr ⟨?_, rfl⟩
      rintro (hhead | ⟨name', tail, hne, hname', heq⟩)
      · obtain ⟨tail, htail⟩ := List.head?_eq_some_iff.1 hhead
        exact hsign tail htail
      · rw [heq, takeWhile_name hname' tail] at hname
        subst hname
        rw [List.append_cancel_left heq] at hmark
        simp [hne] at hmark

/-- A name between braces is seen as one. -/
lemma ofBrace_named {name : List Char} (hne : name ≠ []) (hname : name.all isWordChar = true)
    (tail : List Char) : ofBrace (name ++ '}' :: tail) = named name := by
  have hopens : OpensMark (name ++ '}' :: tail) := .inr ⟨name, tail, hne, hname, rfl⟩
  have hsign (cs : List Char) : name ++ '}' :: tail ≠ '@' :: cs := by
    obtain ⟨c, name, rfl⟩ := List.exists_cons_of_ne_nil hne
    rintro heq
    cases heq
    cases (Bool.and_eq_true_iff.1 hname).1
  rcases ofBrace_cases (name ++ '}' :: tail) with ⟨inner, back, heq, -⟩ | ⟨back, heq, -⟩ |
    ⟨name', back, -, hname', heq, h⟩ | ⟨hnot, -⟩
  · exact absurd heq (hsign _)
  · exact absurd heq (hsign _)
  · rw [h, ← takeWhile_name hname tail, heq, takeWhile_name hname' back]
  · exact absurd hopens hnot

lemma ofBrace_char {rest : List Char} (h : ¬OpensMark rest) : ofBrace rest = char '{' := by
  rcases ofBrace_cases rest with ⟨inner, tail, rfl, -⟩ | ⟨tail, rfl, -⟩ |
    ⟨name, tail, hne, hname, rfl, -⟩ | ⟨-, hchar⟩
  · exact absurd (.inl rfl) h
  · exact absurd (.inl rfl) h
  · exact absurd (.inr ⟨name, tail, hne, hname, rfl⟩) h
  · exact hchar

/-- What opens a mark is seen by the scan. -/
lemma opensMark_iff (rest : List Char) : OpensMark rest ↔ ofBrace rest ≠ char '{' := by
  refine ⟨fun hopens hchar => ?_, fun h => of_not_not fun hopens => h (ofBrace_char hopens)⟩
  rcases ofBrace_cases rest with ⟨inner, tail, -, h⟩ | ⟨tail, -, h⟩ | ⟨name, tail, -, -, -, h⟩ |
    ⟨hnot, -⟩
  · rw [h] at hchar; cases hchar
  · rw [h] at hchar; cases hchar
  · rw [h] at hchar; cases hchar
  · exact hnot hopens

lemma ofBrace_sign (cs : List Char) :
    ofBrace ('@' :: cs) =
      match closingIndex 0 ('@' :: cs) with
      | some k => group ((('@' :: cs).take k).drop 1)
      | none => opened := rfl

/-- A group ends where it is closed. -/
lemma ofBrace_group {inner tail : List Char}
    (h : closingIndex 0 ('@' :: (inner ++ '}' :: tail)) = some (inner.length + 1)) :
    ofBrace ('@' :: (inner ++ '}' :: tail)) = group inner := by
  rw [ofBrace_sign, h]
  simp

/-- A lexeme was cut from the front of the text, and is not empty. -/
lemma exists_of_atFront (c : Char) (cs : List Char) :
    ∃ rest, c :: cs = (atFront c cs).chars ++ rest ∧ (atFront c cs).chars ≠ [] := by
  unfold atFront
  split
  next hc =>
    subst hc
    rcases ofBrace_cases cs with ⟨inner, tail, rfl, h⟩ | ⟨tail, rfl, h⟩ |
      ⟨name, tail, -, -, rfl, h⟩ | ⟨-, h⟩
    · exact ⟨tail, by simp [h, chars], by simp [h, chars]⟩
    · exact ⟨tail, by simp [h, chars], by simp [h, chars]⟩
    · exact ⟨tail, by simp [h, chars], by simp [h, chars]⟩
    · exact ⟨cs, by simp [h, chars], by simp [h, chars]⟩
  next => exact ⟨cs, rfl, by simp [chars]⟩

end Lexeme

instance (rest : List Char) : Decidable (OpensMark rest) :=
  decidable_of_iff _ (Lexeme.opensMark_iff rest).symm

instance decidableIsLiteral : (cs : List Char) → Decidable (IsLiteral cs)
  | [] => .isTrue isLiteral_nil
  | _ :: cs =>
    have := decidableIsLiteral cs
    decidable_of_iff _ isLiteral_cons.symm

/-! ## The scan -/

lemma lexemesFrom_eq (skip : Nat) (cs : List Char) :
    lexemesFrom skip cs = lexemes (cs.drop skip) := by
  induction skip generalizing cs with
  | zero => rfl
  | succ skip ih =>
      cases cs with
      | nil => rfl
      | cons c cs => rw [lexemesFrom, ih, List.drop_succ_cons]

/-- After the lexeme at the front the scan goes on behind it. -/
lemma lexemes_cons {c : Char} {cs rest : List Char}
    (h : c :: cs = (Lexeme.atFront c cs).chars ++ rest) :
    lexemes (c :: cs) = Lexeme.atFront c cs :: lexemes rest := by
  obtain ⟨-, -, hne⟩ := Lexeme.exists_of_atFront c cs
  obtain ⟨d, chars, hchars⟩ := List.exists_cons_of_ne_nil hne
  have hrest : cs.drop ((Lexeme.atFront c cs).chars.length - 1) = rest := by
    rw [hchars] at h ⊢
    rw [(List.cons.inj h).2]
    exact List.drop_left
  rw [lexemes, lexemesFrom, lexemesFrom_eq, hrest]

/-- **The scan as an induction.**  What holds of the empty text, and of a text as soon as it holds
of the text behind the lexeme at the front, holds of every text and its lexemes. -/
theorem lexemes_induction {motive : List Char → List Lexeme → Prop} (nil : motive [] [])
    (cons : ∀ c cs rest, c :: cs = (Lexeme.atFront c cs).chars ++ rest →
      motive rest (lexemes rest) → motive (c :: cs) (Lexeme.atFront c cs :: lexemes rest))
    (cs : List Char) : motive cs (lexemes cs) := by
  induction hlength : cs.length using Nat.strongRecOn generalizing cs with
  | ind n ih =>
      cases cs with
      | nil => exact nil
      | cons c cs =>
          obtain ⟨rest, hrest, hne⟩ := Lexeme.exists_of_atFront c cs
          have hshorter : rest.length < n := by
            have hlengths := congrArg List.length hrest
            have hpos := List.length_pos_of_ne_nil hne
            rw [List.length_append] at hlengths
            omega
          rw [lexemes_cons hrest]
          exact cons c cs rest hrest (ih rest.length hshorter rest rfl)

/-- **Nothing is lost.**  The lexemes of a text, one after the other, are the text. -/
theorem flatMap_chars_lexemes (cs : List Char) : (lexemes cs).flatMap Lexeme.chars = cs := by
  refine lexemes_induction (motive := fun cs ls => ls.flatMap Lexeme.chars = cs) rfl ?_ cs
  intro c cs rest hrest ih
  rw [List.flatMap_cons, ih, hrest]

lemma chars_subset_of_mem_lexemes {cs : List Char} {l : Lexeme} (h : l ∈ lexemes cs) :
    l.chars ⊆ cs := by
  intro c hc
  rw [← flatMap_chars_lexemes cs]
  exact List.mem_flatMap.2 ⟨l, h, hc⟩

/-! ## Texts side by side -/

/-- **Texts that are apart.**  What is open at the end of the first text, a brace with nothing but a
name behind it, does not become a mark by the second text. -/
def Apart (cs ds : List Char) : Prop :=
  ∀ name, name.all isWordChar = true → '{' :: name <:+ cs → ¬OpensMark (name ++ ds)

/-- A text that ends open: at its end stands a brace with nothing but a name behind it. -/
def EndsOpen (cs : List Char) : Prop :=
  ∃ name, name.all isWordChar = true ∧ '{' :: name <:+ cs

/-- A text that does not end open is apart from everything. -/
lemma apart_of_not_endsOpen {cs : List Char} (h : ¬EndsOpen cs) (ds : List Char) : Apart cs ds :=
  fun name hname hopen => absurd ⟨name, hname, hopen⟩ h

/-- A character that is in no name closes the end of a text. -/
lemma not_endsOpen_concat {c : Char} (hbrace : c ≠ '{') (hword : isWordChar c = false)
    (cs : List Char) : ¬EndsOpen (cs ++ [c]) := by
  rintro ⟨name, hname, hsuffix⟩
  obtain ⟨front, heq, -⟩ := (List.suffix_concat_iff.1 hsuffix).resolve_left (List.cons_ne_nil _ _)
  cases front with
  | nil =>
      cases heq
      exact hbrace rfl
  | cons d front =>
      rw [List.cons_append, List.cons.injEq] at heq
      rw [heq.2, List.all_append, List.all_cons, hword, Bool.false_and, Bool.and_false] at hname
      cases hname

lemma Apart.of_suffix {cs front ds : List Char} (h : Apart cs ds) (hfront : front <:+ cs) :
    Apart front ds :=
  fun name hname hopen => h name hname (hopen.trans hfront)

namespace Lexeme

/-- A brace makes the same lexeme when more text follows, unless it opens a group that is not
closed, or a mark is only opened by what follows. -/
lemma ofBrace_append {cs ds : List Char} (hclosed : ofBrace cs ≠ opened)
    (hword : cs.all isWordChar = true → ¬OpensMark (cs ++ ds)) :
    ofBrace (cs ++ ds) = ofBrace cs := by
  rcases ofBrace_cases cs with ⟨inner, tail, rfl, h⟩ | ⟨tail, rfl, h⟩ |
    ⟨name, tail, hne, hname, rfl, h⟩ | ⟨hopens, h⟩
  · cases hclose : closingIndex 0 ('@' :: (inner ++ '}' :: tail)) with
    | none =>
        rw [ofBrace_sign, hclose] at hclosed
        exact absurd rfl hclosed
    | some k =>
        obtain ⟨front, back, heq, rfl⟩ := exists_of_closingIndex hclose
        cases front with
        | nil => cases heq
        | cons c front =>
            rw [List.cons_append, List.cons.injEq] at heq
            obtain ⟨rfl, heq⟩ := heq
            rw [heq] at hclose ⊢
            have hmore := closingIndex_append hclose ds
            rw [List.cons_append, List.append_assoc, List.cons_append] at hmore ⊢
            rw [ofBrace_group hmore, ofBrace_group hclose]
  · exact absurd h hclosed
  · rw [h, List.append_assoc, List.cons_append, ofBrace_named hne hname]
  · rw [h]
    refine ofBrace_char fun hmore => ?_
    cases hcs : cs.all isWordChar with
    | true => exact hword hcs hmore
    | false => exact hopens (hmore.of_append hcs)

/-- The lexeme at the front of a text is the same when a text follows that is apart from it. -/
lemma atFront_append {c : Char} {cs ds : List Char} (hclosed : atFront c cs ≠ opened)
    (hapart : Apart (c :: cs) ds) : atFront c (cs ++ ds) = atFront c cs := by
  unfold atFront at hclosed ⊢
  split at hclosed
  next hc =>
    subst hc
    rw [if_pos rfl, if_pos rfl]
    exact ofBrace_append hclosed fun hword => hapart cs hword List.suffix_rfl
  next hc => rw [if_neg hc, if_neg hc]

end Lexeme

/-- **Texts side by side.**  The lexemes of two texts that are apart follow one another, if every
group of the first text is closed. -/
theorem lexemes_append {cs ds : List Char} (hclosed : .opened ∉ lexemes cs)
    (hapart : Apart cs ds) : lexemes (cs ++ ds) = lexemes cs ++ lexemes ds := by
  revert hclosed hapart
  refine lexemes_induction (motive := fun cs ls => .opened ∉ ls → Apart cs ds →
    lexemes (cs ++ ds) = ls ++ lexemes ds) (fun _ _ => rfl) ?_ cs
  intro c cs rest hrest ih hclosed hapart
  rw [List.mem_cons, not_or] at hclosed
  have hfront := Lexeme.atFront_append (Ne.symm hclosed.1) hapart
  have hmore : c :: (cs ++ ds) = (Lexeme.atFront c (cs ++ ds)).chars ++ (rest ++ ds) := by
    rw [hfront, ← List.append_assoc, ← hrest, List.cons_append]
  have hsuffix : rest <:+ c :: cs := ⟨_, hrest.symm⟩
  rw [List.cons_append, lexemes_cons hmore, hfront, ih hclosed.2 (hapart.of_suffix hsuffix),
    List.cons_append]

/-! ## Groups -/

def Lexeme.opensGroup : Lexeme → Bool
  | group _ | opened => true
  | char _ | named _ => false

/-- What starts with a brace does not start in front of one. -/
lemma infix_of_brace_notMem {front rest cs : List Char} (hfront : '{' ∉ front)
    (h : '{' :: cs <:+: front ++ rest) : '{' :: cs <:+: rest := by
  induction front with
  | nil => exact h
  | cons c front ih =>
      rw [List.mem_cons, not_or] at hfront
      rw [List.cons_append, List.infix_cons_iff] at h
      rcases h with ⟨tail, htail⟩ | h
      · exact absurd (List.cons.inj htail).1 hfront.1
      · exact ih hfront.2 h

lemma brace_notMem_word {word : List Char} (h : word.all isWordChar = true) : '{' ∉ word :=
  fun hmem => absurd (List.all_eq_true.1 h '{' hmem) (by decide)

/-- A lexeme that opens no group is not cut from the sign of one, and has no brace after its first
character. -/
lemma Lexeme.exists_of_opensGroup_eq_false {c : Char} {cs : List Char}
    (h : (atFront c cs).opensGroup = false) :
    ¬['{', '@'] <+: c :: cs ∧ ∃ more, (atFront c cs).chars = c :: more ∧ '{' ∉ more := by
  unfold atFront at h ⊢
  split
  next hc =>
    rw [if_pos hc] at h
    subst hc
    have hsign (hsigns : ['{', '@'] <+: '{' :: cs) : OpensMark cs := by
      obtain ⟨tail, htail⟩ := hsigns
      exact .inl (by rw [← (List.cons.inj htail).2]; rfl)
    rcases ofBrace_cases cs with ⟨inner, tail, -, hbrace⟩ | ⟨tail, -, hbrace⟩ |
      ⟨name, tail, hne, hname, rfl, hbrace⟩ | ⟨hopens, hbrace⟩ <;> rw [hbrace] at h ⊢
    · cases h
    · cases h
    · refine ⟨?_, name ++ ['}'], rfl, ?_⟩
      · obtain ⟨d, name, rfl⟩ := List.exists_cons_of_ne_nil hne
        rintro ⟨tail', htail⟩
        rw [List.all_cons, ← (List.cons.inj (List.cons.inj htail).2).1] at hname
        exact absurd hname (by simp [isWordChar])
      · rw [List.mem_append, not_or]
        exact ⟨brace_notMem_word hname, by decide⟩
    · exact ⟨fun hsigns => hopens (hsign hsigns), [], rfl, List.not_mem_nil⟩
  next hc =>
    refine ⟨?_, [], rfl, List.not_mem_nil⟩
    rintro ⟨tail, htail⟩
    exact hc (List.cons.inj htail).1.symm

/-- A text whose lexemes open no group does not have the sign of one in it. -/
lemma not_sign_infix {cs : List Char} (h : ∀ l ∈ lexemes cs, l.opensGroup = false) :
    ¬['{', '@'] <:+: cs := by
  revert h
  refine lexemes_induction (motive := fun cs ls => (∀ l ∈ ls, l.opensGroup = false) →
    ¬['{', '@'] <:+: cs) (fun _ h => absurd (List.infix_nil.1 h) (List.cons_ne_nil _ _)) ?_ cs
  intro c cs rest hrest ih h hinfix
  obtain ⟨hfront, hgroups⟩ := List.forall_mem_cons.1 h
  obtain ⟨hsign, more, hchars, hmore⟩ := Lexeme.exists_of_opensGroup_eq_false hfront
  rw [hchars] at hrest
  rw [List.infix_cons_iff, (List.cons.inj hrest).2] at hinfix
  rcases hinfix with hprefix | hinfix
  · rw [hrest] at hsign
    exact hsign hprefix
  · exact ih hgroups (infix_of_brace_notMem hmore hinfix)

end MathHeader
