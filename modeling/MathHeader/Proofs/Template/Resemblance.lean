import MathHeader.Proofs.Names.Token
import MathHeader.Proofs.Template.Reading

/-!
# Bodies that look like templates

Filling a template in leaves no mark behind, but the body may still look as if one had been left.
The braces of a template that open no mark are copied, and they may come to stand before a text
that was not there when the template was read: the suffix of literals of `f64` is empty, so that a
brace before it meets what follows, and a chain of calls starts with the name of its function, which
may be anything.  `{{L}T}` becomes `{T}` for `f64`.

These are the only two ways.  All other values, and the calls and operators of an expansion, have a
character in them that is in no mark, and so what is before them and what is after them stay apart
(`Separates`).  Hence the *outline* of a template, in which blanks stand for the values, looks like
a template exactly if the body does.  For a source without a *seam*, which is a brace right before
one of the two kinds of marks with nothing but a name between them, neither does.
`Template.looksMarked_render` says both.
-/

namespace MathHeader

/-! ## Texts that look like templates -/

/-- The signs of marks: what opens an expansion, and every placeholder as it is written. -/
def markSigns : List (List Char) :=
  ['{', '@'] :: Placeholder.all.map Placeholder.chars

/-- A text that looks like a template: the sign of a mark stands in it. -/
def LooksMarked (cs : List Char) : Prop :=
  ∃ sign ∈ markSigns, sign <:+: cs

instance (cs : List Char) : Decidable (LooksMarked cs) :=
  inferInstanceAs (Decidable (∃ sign ∈ markSigns, sign <:+: cs))

/-- A sign opens an expansion, or is a name between braces. -/
lemma markSigns_cases {sign : List Char} (h : sign ∈ markSigns) :
    sign = ['{', '@'] ∨ ∃ p : Placeholder, sign = '{' :: p.name.toList ++ ['}'] := by
  rcases List.mem_cons.1 h with rfl | h
  · exact .inl rfl
  · obtain ⟨p, -, rfl⟩ := List.mem_map.1 h
    exact .inr ⟨p, rfl⟩

/-- A sign is a brace and more, and the more ends in a character that ends a mark or opens an
expansion. -/
lemma exists_of_mem_markSigns {sign : List Char} (h : sign ∈ markSigns) :
    ∃ name last, sign = '{' :: name ++ [last] ∧ name.all isWordChar = true ∧
      (last = '}' ∨ last = '@') := by
  rcases markSigns_cases h with rfl | ⟨p, rfl⟩
  · exact ⟨[], '@', rfl, rfl, .inr rfl⟩
  · exact ⟨p.name.toList, '}', rfl, p.name_word.2, .inl rfl⟩

lemma LooksMarked.append_left {cs : List Char} (h : LooksMarked cs) (front : List Char) :
    LooksMarked (front ++ cs) := by
  obtain ⟨sign, hsign, hwithin⟩ := h
  exact ⟨sign, hsign, List.infix_append_of_infix_right hwithin⟩

lemma LooksMarked.append_right {cs : List Char} (h : LooksMarked cs) (rest : List Char) :
    LooksMarked (cs ++ rest) := by
  obtain ⟨sign, hsign, hwithin⟩ := h
  exact ⟨sign, hsign, List.infix_append_of_infix_left hwithin⟩

lemma not_looksMarked_nil : ¬LooksMarked [] := by
  decide

/-- Braces that open no mark make no sign of one. -/
lemma not_looksMarked_of_isLiteral {cs : List Char} (h : IsLiteral cs) : ¬LooksMarked cs := by
  rintro ⟨sign, hsign, front, rest, rfl⟩
  rcases markSigns_cases hsign with rfl | ⟨p, rfl⟩
  · refine h ('@' :: rest) ⟨front, ?_⟩ (.inl rfl)
    simp
  · obtain ⟨hne, hname⟩ := p.name_word
    refine h (p.name.toList ++ '}' :: rest) ⟨front, ?_⟩ (.inr ⟨_, rest, hne, hname, rfl⟩)
    simp

/-! ## Contexts -/

/-- **A text that separates.**  What is before it and what is after it make no sign together, nor
with it. -/
def Separates (cs : List Char) : Prop :=
  ∀ front rest, LooksMarked (front ++ cs ++ rest) ↔ LooksMarked front ∨ LooksMarked rest

/-- **Texts that are alike.**  In every context both or neither of them look like a template. -/
def Alike (cs ds : List Char) : Prop :=
  ∀ front rest, LooksMarked (front ++ cs ++ rest) ↔ LooksMarked (front ++ ds ++ rest)

/-- Whether a character is in no sign. -/
def isForeign (c : Char) : Bool :=
  markSigns.all (!·.contains c)

/-- Whether a character neither opens nor ends a sign. -/
def isInner (c : Char) : Bool :=
  c != '{' && c != '}' && c != '@'

/-- Whether a text can be seen to separate: it has a character that is in no sign, and none that
opens or ends one. -/
def isSeparator (cs : List Char) : Bool :=
  cs.any isForeign && cs.all isInner

/-- A character that is in no sign separates. -/
lemma looksMarked_append_cons {c : Char} (hc : isForeign c = true) {front rest : List Char} :
    LooksMarked (front ++ c :: rest) ↔ LooksMarked front ∨ LooksMarked rest := by
  have hforeign : ∀ sign ∈ markSigns, c ∉ sign := by
    simpa [isForeign] using hc
  constructor
  · rintro ⟨sign, hsign, hwithin⟩
    have hempty {cs : List Char} (hcs : cs <+: c :: rest) (hsub : cs ⊆ sign) : cs = [] := by
      cases cs with
      | nil => rfl
      | cons d cs =>
          obtain ⟨tail, htail⟩ := hcs
          cases htail
          exact absurd (hsub List.mem_cons_self) (hforeign sign hsign)
    rcases List.infix_append_iff.1 hwithin with h | h | ⟨l₁, l₂, rfl, h₁, h₂⟩
    · exact .inl ⟨sign, hsign, h⟩
    · rcases List.infix_cons_iff.1 h with h | h
      · rw [hempty h (List.Subset.refl _)] at hsign
        exact absurd hsign (by decide)
      · exact .inr ⟨sign, hsign, h⟩
    · rw [hempty h₂ (List.subset_append_right _ _), List.append_nil] at hsign
      exact .inl ⟨l₁, hsign, h₁.isInfix⟩
  · rintro (h | h)
    · exact h.append_right _
    · exact (h.append_left [c]).append_left front

/-- What follows a text without an end of a sign does not make one with it. -/
lemma looksMarked_append_of_inner {cs front : List Char} (hcs : cs.all isInner = true) :
    LooksMarked (front ++ cs) ↔ LooksMarked front := by
  refine ⟨?_, fun h => h.append_right cs⟩
  rintro ⟨sign, hsign, hwithin⟩
  obtain ⟨name, last, rfl, -, hlast⟩ := exists_of_mem_markSigns hsign
  have hnotMem : last ∉ cs := by
    intro hmem
    have hinner := List.all_eq_true.1 hcs last hmem
    rcases hlast with rfl | rfl <;> cases hinner
  rcases List.infix_append_iff_ne_nil.1 hwithin with h | h | ⟨l₁, l₂, -, hne, heq, -, h₂⟩
  · exact ⟨_, hsign, h⟩
  · exact absurd (h.subset (List.mem_append_right _ (List.mem_singleton_self last))) hnotMem
  · have hmem : last ∈ l₂ := by
      have hgetLast := congrArg List.getLast? heq
      rw [List.getLast?_append_of_ne_nil _ hne, List.getLast?_concat] at hgetLast
      exact List.mem_of_getLast? hgetLast.symm
    exact absurd (h₂.subset hmem) hnotMem

lemma looksMarked_inner_append {cs rest : List Char} (hcs : cs.all isInner = true) :
    LooksMarked (cs ++ rest) ↔ LooksMarked rest := by
  refine ⟨?_, fun h => h.append_left cs⟩
  rintro ⟨sign, hsign, hwithin⟩
  obtain ⟨name, last, rfl, -, -⟩ := exists_of_mem_markSigns hsign
  have hnotMem : '{' ∉ cs := fun hmem => by cases List.all_eq_true.1 hcs '{' hmem
  exact ⟨_, hsign, infix_of_brace_notMem hnotMem hwithin⟩

lemma separates_of_isSeparator {cs : List Char} (h : isSeparator cs = true) : Separates cs := by
  rw [isSeparator, Bool.and_eq_true, List.any_eq_true] at h
  obtain ⟨⟨c, hmem, hc⟩, hinner⟩ := h
  obtain ⟨as, bs, rfl⟩ := List.append_of_mem hmem
  rw [List.all_append, List.all_cons, Bool.and_eq_true, Bool.and_eq_true] at hinner
  intro front rest
  have happend : front ++ (as ++ c :: bs) ++ rest = (front ++ as) ++ c :: (bs ++ rest) := by simp
  rw [happend, looksMarked_append_cons hc, looksMarked_append_of_inner hinner.1,
    looksMarked_inner_append hinner.2.2]

lemma separates_blank : Separates [' '] :=
  separates_of_isSeparator (by decide)

section Alike

variable {cs cs' ds ds' : List Char}

lemma Separates.alike (hcs : Separates cs) (hds : Separates ds) : Alike cs ds :=
  fun front rest => (hcs front rest).trans (hds front rest).symm

lemma Alike.refl (cs : List Char) : Alike cs cs :=
  fun _ _ => Iff.rfl

lemma Alike.append (h : Alike cs ds) (h' : Alike cs' ds') : Alike (cs ++ cs') (ds ++ ds') := by
  intro front rest
  have hcs := h front (cs' ++ rest)
  have hds := h' (front ++ ds) rest
  simp only [List.append_assoc] at hcs hds ⊢
  exact hcs.trans hds

lemma Alike.looksMarked_iff (h : Alike cs ds) : LooksMarked cs ↔ LooksMarked ds := by
  simpa using h [] []

lemma Alike.looksMarked_append_iff (h : Alike cs ds) (front : List Char) :
    LooksMarked (front ++ cs) ↔ LooksMarked (front ++ ds) := by
  simpa using h front []

end Alike

/-! ## Blanks for values -/

/-- What is left of a placeholder in an outline: a blank, unless its value is empty. -/
def Placeholder.outline (t : ShapedType) (p : Placeholder) : List Char :=
  if p = .suffix ∧ t.element = .f64 then [] else [' ']

/-- A phrase with blanks for its values. -/
def Phrase.outline (t : ShapedType) (phrase : Phrase) : List Char :=
  Piece.written (Placeholder.outline t) phrase

/-- What is left of a mark in an outline.  Of an expansion there are the function, and the
expression between blanks. -/
def Mark.outline (t : ShapedType) : Mark → List Char
  | hole p => p.outline t
  | expand _ func expr => Phrase.outline t func ++ ' ' :: Phrase.outline t expr ++ [' ']

/-- **The outline of a template.**  The text that it has beside the values.  Of the type it depends
on whether the suffix of literals is empty, and on nothing else. -/
def Template.outline (template : Template) (t : ShapedType) : List Char :=
  Piece.written (Mark.outline t) template.pieces

/-! ## Values separate -/

lemma isSeparator_append {cs ds : List Char} (hcs : isSeparator cs = true)
    (hds : ds.all isInner = true) : isSeparator (cs ++ ds) = true := by
  rw [isSeparator, Bool.and_eq_true] at hcs ⊢
  rw [List.any_append, List.all_append, hcs.1, hcs.2, hds]
  exact ⟨rfl, rfl⟩

lemma ShapedType.isSeparator_token (t : ShapedType) : isSeparator t.token.toList = true := by
  have helement : ∀ s ∈ Scalar.all, isSeparator s.token.toList = true := by decide
  have hsuffix : ∀ s ∈ Shape.all, s.suffix.toList.all isInner = true := by decide
  rw [toList_token]
  exact isSeparator_append (helement _ t.element.mem_all) (hsuffix _ t.shape.mem_all)

lemma ShapedType.isSeparator_constructorName (t : ShapedType) :
    isSeparator t.constructorName.toList = true := by
  have htoken := t.isSeparator_token
  rw [isSeparator, Bool.and_eq_true] at htoken
  rw [constructorName, String.toList_append]
  exact isSeparator_append (by decide) htoken.2

/-- What placeholders take from the elements. -/
lemma Scalar.isSeparator_spelling : ∀ e ∈ Scalar.all,
    ∀ s ∈ e.token :: e.upperToken :: (e.signedTwin.map token).toList ++ e.exactThreshold.toList,
      isSeparator s.toList = true := by
  decide

lemma Scalar.isSeparator_literalSuffix : ∀ e ∈ Scalar.all, ∀ s ∈ e.literalSuffix,
    e = .f64 ∧ s = "" ∨ e ≠ .f64 ∧ isSeparator s.toList = true := by
  decide

/-- The value of a placeholder separates, unless it is the empty suffix. -/
lemma Placeholder.alike_outline {p : Placeholder} {t : ShapedType} {component : Option Nat}
    {s : String} (h : p.value? t component = some s) : Alike s.toList (p.outline t) := by
  have hblank (hp : p ≠ .suffix) (hs : isSeparator s.toList = true) :
      Alike s.toList (p.outline t) := by
    rw [outline, if_neg fun hboth => hp hboth.1]
    exact (separates_of_isSeparator hs).alike separates_blank
  have htoken {type : Option ShapedType} (h : type.map ShapedType.token = some s) :
      isSeparator s.toList = true := by
    obtain ⟨ty, -, rfl⟩ := Option.map_eq_some_iff.1 h
    exact ty.isSeparator_token
  obtain ⟨e, shape⟩ := t
  have hspelling := Scalar.isSeparator_spelling e e.mem_all s
  cases p with
  | element | upper | signedTwin | threshold =>
      dsimp only [value?] at h
      exact hblank (by decide) (hspelling (by simp_all))
  | suffix =>
      rcases Scalar.isSeparator_literalSuffix e e.mem_all s h with ⟨rfl, rfl⟩ | ⟨he, hs⟩
      · exact Alike.refl []
      · rw [outline, if_neg fun hboth => he hboth.2]
        exact (separates_of_isSeparator hs).alike separates_blank
  | operand =>
      cases h
      exact hblank (by decide) (ShapedType.isSeparator_token _)
  | column | transposed => exact hblank (by decide) (htoken h)
  | rows | cols =>
      have hdigits : ∀ w ∈ Width.all, isSeparator w.digits.toList = true := by decide
      cases shape with
      | matrix r c =>
          cases h
          exact hblank (by decide) (hdigits _ (Width.mem_all _))
      | _ => cases h
  | component =>
      have hpositional : ∀ name ∈ positional, isSeparator name.toList = true := by decide
      obtain ⟨w, -, h⟩ := Option.bind_eq_some_iff.1 h
      obtain ⟨k, -, h⟩ := Option.bind_eq_some_iff.1 h
      exact hblank (by decide)
        (hpositional s (List.mem_of_mem_take (List.mem_of_getElem? h)))

/-! ## Calls and operators -/

/-- Joined texts look like a template exactly if one of them does. -/
lemma looksMarked_intercalate {separator : List Char} (h : Separates separator)
    (items : List (List Char)) :
    LooksMarked (separator.intercalate items) ↔ ∃ item ∈ items, LooksMarked item := by
  induction items with
  | nil => simp [not_looksMarked_nil]
  | cons item items ih =>
      cases items with
      | nil => simp
      | cons next items =>
          rw [List.intercalate_cons_cons, h item, ih]
          exact (List.exists_mem_cons_iff ..).symm

/-- A call keeps its arguments apart, and the last of them from what follows; but its function may
come to stand after something. -/
lemma looksMarked_call (func : List Char) (args : List (List Char)) (front rest : List Char) :
    LooksMarked (front ++ call func args ++ rest) ↔
      LooksMarked (front ++ func) ∨ (∃ arg ∈ args, LooksMarked arg) ∨ LooksMarked rest := by
  have hcomma : Separates [',', ' '] := separates_of_isSeparator (by decide)
  have happend : front ++ call func args ++ rest =
      (front ++ func) ++ '(' :: ([',', ' '].intercalate args ++ ')' :: rest) := by simp [call]
  rw [happend, looksMarked_append_cons (by decide), looksMarked_append_cons (by decide),
    looksMarked_intercalate hcomma]

lemma nestedCalls_concat {func : List Char} {items : List (List Char)} (h : items ≠ [])
    (item : List Char) :
    nestedCalls func (items ++ [item]) = call func [nestedCalls func items, item] := by
  obtain ⟨first, items, rfl⟩ := List.exists_cons_of_ne_nil h
  rw [List.cons_append, nestedCalls, nestedCalls, List.foldl_concat]
  simp [call]

lemma looksMarked_nestedCalls (func : List Char) (items : List (List Char)) :
    LooksMarked func ∨ LooksMarked (nestedCalls func items) ↔
      LooksMarked func ∨ ∃ item ∈ items, LooksMarked item := by
  induction items using List.reverseRecOn with
  | nil => simp [nestedCalls, not_looksMarked_nil]
  | append_singleton items item ih =>
      by_cases hne : items = []
      · subst hne
        simp [nestedCalls]
      · have hcall := looksMarked_call func [nestedCalls func items, item] [] []
        rw [nestedCalls_concat hne]
        simp only [List.nil_append, List.append_nil, List.mem_cons, List.not_mem_nil,
          or_false, exists_eq_or_imp, exists_eq_left, not_looksMarked_nil] at hcall
        simp only [List.mem_append, List.mem_singleton, or_and_right, exists_or, exists_eq_left]
        rw [hcall, or_self_left, ← or_assoc, ih, or_assoc]

/-- **The results of an expansion.**  Joined results keep the items apart, and only the function of
a chain meets what is in front of it. -/
lemma Join.looksMarked_combine {j : Join} {func : List Char} (hchain : j ≠ .chain → func = [])
    {items : List (List Char)} (hlength : 2 ≤ items.length) (t : ShapedType)
    (front rest : List Char) :
    LooksMarked (front ++ j.combine t func items ++ rest) ↔
      LooksMarked (front ++ func) ∨ (∃ item ∈ items, LooksMarked item) ∨ LooksMarked rest := by
  have hconstructor (t : ShapedType) :
      LooksMarked (front ++ t.constructorName.toList) ↔ LooksMarked front := by
    have h := separates_of_isSeparator t.isSeparator_constructorName front []
    rwa [List.append_nil, or_iff_left not_looksMarked_nil] at h
  have hoperators {separator : List Char} (h : isSeparator separator = true) :
      (∃ arg ∈ [separator.intercalate items], LooksMarked arg) ↔
        ∃ item ∈ items, LooksMarked item := by
    simp only [List.mem_singleton, exists_eq_left]
    exact looksMarked_intercalate (separates_of_isSeparator h) items
  cases j with
  | vector | boolVector =>
      rw [combine, looksMarked_call, hconstructor, hchain (by decide), List.append_nil]
  | any | all | sum =>
      rw [combine, looksMarked_call, hoperators (by decide), hchain (by decide)]
  | chain =>
      obtain rfl | ⟨inner, last, rfl⟩ := List.eq_nil_or_concat' items
      · cases hlength
      have hinner : inner ≠ [] := by
        rintro rfl
        exact absurd (Nat.le_of_succ_le_succ hlength) (Nat.not_succ_le_zero 0)
      rw [combine, nestedCalls_concat hinner, looksMarked_call]
      by_cases hfront : LooksMarked (front ++ func)
      · simp only [hfront, true_or]
      · have hnested := looksMarked_nestedCalls func inner
        rw [or_iff_right fun h => hfront (h.append_left front),
          or_iff_right fun h => hfront (h.append_left front)] at hnested
        simp only [List.mem_append, List.mem_cons, List.not_mem_nil, or_false, or_and_right,
          exists_or, exists_eq_left, hnested]

/-! ## Bodies and outlines -/

section Outlines

variable {t : ShapedType}

lemma alike_of_fillAll {μ : Type} {fill : μ → Except Missing (List Char)} {out : μ → List Char}
    {ps : List (Piece μ)} {cs : List Char} (h : Piece.fillAll fill ps = .ok cs)
    (hfill : ∀ m, .mark m ∈ ps → ∀ cs, fill m = .ok cs → Alike cs (out m)) :
    Alike cs (Piece.written out ps) := by
  obtain ⟨parts, hparts, rfl⟩ := map_eq_ok_iff.1 h
  rw [mapM_eq_ok_iff] at hparts
  clear h
  induction hparts with
  | nil => exact .refl []
  | @cons p part ps parts hpart _ ih =>
      have hp : Alike part (p.chars out) := by
        cases p with
        | text cs =>
            cases hpart
            exact .refl _
        | mark m => exact hfill m List.mem_cons_self part hpart
      exact hp.append (ih fun m hm => hfill m (List.mem_cons_of_mem _ hm))

lemma Placeholder.alike_of_fill {component : Option Nat} (p : Placeholder) (cs : List Char)
    (h : p.fill t component = .ok cs) : Alike cs (p.outline t) := by
  unfold fill at h
  split at h
  next s hs =>
    cases h
    exact alike_outline hs
  next => cases h

lemma Phrase.alike_of_fillAll {component : Option Nat} {phrase : Phrase} {cs : List Char}
    (h : Piece.fillAll (Placeholder.fill t component) phrase = .ok cs) :
    Alike cs (phrase.outline t) :=
  MathHeader.alike_of_fillAll h fun p _ value hvalue => p.alike_of_fill value hvalue

/-- Joined results are alike the outline of their expansion, if the function and the items are alike
those of the outline. -/
lemma Join.alike_combine {j : Join} {called func expr : List Char} {items : List (List Char)}
    (hchain : j ≠ .chain → called = []) (hlength : 2 ≤ items.length) (hcalled : Alike called func)
    (hitems : ∀ item ∈ items, Alike item expr) :
    Alike (j.combine t called items) (func ++ ' ' :: expr ++ [' ']) := by
  have hexists : (∃ item ∈ items, LooksMarked item) ↔ LooksMarked expr := by
    constructor
    · rintro ⟨item, hmem, h⟩
      exact (hitems item hmem).looksMarked_iff.1 h
    · intro h
      obtain ⟨item, hmem⟩ :=
        List.exists_mem_of_length_pos (Nat.lt_of_lt_of_le Nat.two_pos hlength)
      exact ⟨item, hmem, (hitems item hmem).looksMarked_iff.2 h⟩
  intro front rest
  have happend : front ++ (func ++ ' ' :: expr ++ [' ']) ++ rest =
      (front ++ func) ++ ' ' :: (expr ++ ' ' :: rest) := by
    simp
  rw [looksMarked_combine hchain hlength, happend, looksMarked_append_cons (by decide),
    looksMarked_append_cons (by decide), hexists, hcalled.looksMarked_append_iff]

lemma Mark.alike_of_fill {m : Mark} (hm : m.WellFormed) {cs : List Char}
    (h : m.fill t = .ok cs) : Alike cs (m.outline t) := by
  cases m with
  | hole p => exact p.alike_of_fill cs h
  | expand j func expr =>
      rw [fill] at h
      cases hw : t.shape.width? with
      | none =>
          rw [hw] at h
          cases h
      | some w =>
          rw [hw] at h
          obtain ⟨items, hitems, h⟩ := bind_eq_ok_iff.1 h
          obtain ⟨called, hcalled, h⟩ := bind_eq_ok_iff.1 h
          cases h
          rw [mapM_eq_ok_iff] at hitems
          have hlength : 2 ≤ items.length := by
            rw [← hitems.length_eq, List.length_range]
            cases w <;> decide
          have hchain : j ≠ .chain → called = [] := fun hne => by
            rw [hm.func_eq_nil hne] at hcalled
            cases hcalled
            rfl
          refine Join.alike_combine hchain hlength (Phrase.alike_of_fillAll hcalled) ?_
          intro item hmem
          obtain ⟨k, -, hk⟩ := exists_of_forall₂_of_mem hitems hmem
          exact Phrase.alike_of_fillAll hk

/-- **Bodies and outlines.**  A body is alike the outline of its template. -/
lemma Template.alike_of_render {template : Template}
    (hmarks : ∀ m, .mark m ∈ template.pieces → m.WellFormed) {body : String}
    (h : template.render t = .ok body) : Alike body.toList (template.outline t) := by
  unfold render at h
  split at h
  next cs hcs =>
    cases h
    rw [String.toList_ofList]
    exact alike_of_fillAll hcs fun m hm cs hfill => m.alike_of_fill (hmarks m hm) hfill
  next => cases h

end Outlines

/-! ## Sources without a seam -/

/-- The fronts of marks that may be filled in without a character that separates: the suffix of
literals, and a chain of calls. -/
def seamMarks : List (List Char) :=
  [Placeholder.suffix.chars, '{' :: '@' :: Join.chain.name.toList ++ [':']]

/-- **A source without a seam.**  No brace stands before a suffix of literals or a chain of calls
with nothing but a name between. -/
def Seamless (source : List Char) : Prop :=
  ∀ name, name.all isWordChar = true → ∀ front ∈ seamMarks, ¬ '{' :: name ++ front <:+: source

lemma Seamless.of_infix {cs source : List Char} (h : Seamless source) (hcs : cs <:+: source) :
    Seamless cs :=
  fun name hname front hfront hwithin => h name hname front hfront (hwithin.trans hcs)

/-- A literal text that does not end open makes no sign with what follows. -/
lemma looksMarked_of_isLiteral_append {cs rest : List Char} (hcs : IsLiteral cs)
    (hend : ¬EndsOpen cs) (h : LooksMarked (cs ++ rest)) : LooksMarked rest := by
  obtain ⟨sign, hsign, hwithin⟩ := h
  rcases List.infix_append_iff_ne_nil.1 hwithin with h | h | ⟨l₁, l₂, hne₁, hne₂, heq, h₁, -⟩
  · exact absurd ⟨sign, hsign, h⟩ (not_looksMarked_of_isLiteral hcs)
  · exact ⟨sign, hsign, h⟩
  · -- The front part of the sign is a brace with a name behind it.
    obtain ⟨name, last, rfl, hname, -⟩ := exists_of_mem_markSigns hsign
    obtain ⟨more, d, rfl⟩ := (List.eq_nil_or_concat' l₂).resolve_left hne₂
    rw [← List.append_assoc] at heq
    obtain ⟨c, l₁, rfl⟩ := List.exists_cons_of_ne_nil hne₁
    have hfront : '{' :: name = c :: (l₁ ++ more) := List.append_inj_left' heq rfl
    cases hfront
    rw [List.all_append, Bool.and_eq_true] at hname
    exact absurd ⟨l₁, hname.1, h₁⟩ hend

/-- **A mark that is muted by its outline.**  The outline starts with a blank, unless the mark is
one of those that make a seam, and for a mark without a seam it adds no sign to what follows. -/
structure IsMuted (mark outline : List Char) : Prop where
  start : (∃ rest, outline = ' ' :: rest) ∨ ∃ front ∈ seamMarks, front <+: mark
  silent : Seamless mark → ∀ rest, LooksMarked (outline ++ rest) → LooksMarked rest

/-- A literal text does not make a sign with the outline of a mark behind it. -/
lemma IsMuted.not_looksMarked_append {mark outline : List Char} (h : IsMuted mark outline)
    {cs more rest : List Char} (hcs : IsLiteral cs) (hseam : Seamless (cs ++ (mark ++ more)))
    (hrest : ¬LooksMarked (outline ++ rest)) : ¬LooksMarked (cs ++ (outline ++ rest)) := by
  intro hlooks
  rcases h.start with ⟨tail, rfl⟩ | ⟨front, hfront, tail, rfl⟩
  · rw [List.cons_append, looksMarked_append_cons (by decide)] at hlooks
    exact hlooks.elim (not_looksMarked_of_isLiteral hcs) fun h => hrest (h.append_left [' '])
  · -- A brace at the end of the text would be a seam.
    refine hrest (looksMarked_of_isLiteral_append hcs ?_ hlooks)
    rintro ⟨name, hname, before, rfl⟩
    exact hseam name hname front hfront ⟨before, tail ++ more, by simp⟩

/-- Outlines of pieces without a seam do not look like a template. -/
lemma not_looksMarked_written {μ : Type} {write out : μ → List Char} {ps : List (Piece μ)}
    (htidy : Piece.Tidy ps) (hseam : Seamless (Piece.written write ps))
    (hmuted : ∀ m, .mark m ∈ ps → IsMuted (write m) (out m)) :
    ¬LooksMarked (Piece.written out ps) := by
  induction ps with
  | nil => exact not_looksMarked_nil
  | cons p ps ih =>
      have hrest : ¬LooksMarked (Piece.written out ps) :=
        ih htidy.tail (hseam.of_infix (List.suffix_append _ _).isInfix)
          fun m hm => hmuted m (List.mem_cons_of_mem _ hm)
      cases p with
      | mark m =>
          exact fun h => hrest ((hmuted m List.mem_cons_self).silent
            (hseam.of_infix (List.prefix_append _ _).isInfix) _ h)
      | text cs =>
          have hcs : IsLiteral cs := (htidy.texts cs List.mem_cons_self).2
          cases ps with
          | nil =>
              have hwritten : Piece.written out [.text cs] = cs := List.append_nil cs
              rw [hwritten]
              exact not_looksMarked_of_isLiteral hcs
          | cons q ps =>
              cases q with
              | text ds =>
                  exact absurd ⟨rfl, rfl⟩ ((List.isChain_cons.1 htidy.apart).1 (.text ds) rfl)
              | mark m =>
                  have hm := hmuted m (List.mem_cons_of_mem _ List.mem_cons_self)
                  exact hm.not_looksMarked_append hcs hseam hrest

section Seamless

variable {t : ShapedType}

lemma Placeholder.outline_cases (t : ShapedType) (p : Placeholder) :
    p.outline t = [' '] ∨ p = .suffix ∧ p.outline t = [] := by
  unfold outline
  split
  next h => exact .inr ⟨h.1, rfl⟩
  next => exact .inl rfl

lemma Placeholder.isMuted_outline (t : ShapedType) (p : Placeholder) :
    IsMuted p.chars (p.outline t) := by
  rcases p.outline_cases t with h | ⟨rfl, h⟩
  · refine ⟨.inl ⟨[], h⟩, fun _ rest hrest => ?_⟩
    rw [h, ← List.nil_append ([' '] ++ rest), List.singleton_append,
      looksMarked_append_cons (by decide), or_iff_right not_looksMarked_nil] at hrest
    exact hrest
  · refine ⟨.inr ⟨_, List.mem_cons_self, List.prefix_rfl⟩, fun _ rest hrest => ?_⟩
    rwa [h, List.nil_append] at hrest

lemma Phrase.not_looksMarked_outline {phrase : Phrase} (h : phrase.WellFormed)
    (hseam : Seamless phrase.chars) : ¬LooksMarked (phrase.outline t) :=
  not_looksMarked_written h.tidy hseam fun p _ => p.isMuted_outline t

section Expansion

variable {j : Join} {func expr : Phrase}

lemma func_infix_chars (h : WellFormedExpansion j func expr) :
    func.chars <:+: (Mark.expand j func expr).chars := by
  by_cases hchain : j = .chain
  · subst hchain
    exact ⟨'{' :: '@' :: Join.chain.name.toList ++ [':'], ':' :: expr.chars ++ ['}'],
      by simp [Mark.chars, expansionChars]⟩
  · rw [h.func_eq_nil hchain]
    exact List.nil_infix

lemma expr_infix_chars (j : Join) (func expr : Phrase) :
    expr.chars <:+: (Mark.expand j func expr).chars := by
  by_cases hchain : j = .chain
  · subst hchain
    exact ⟨'{' :: '@' :: Join.chain.name.toList ++ ':' :: func.chars ++ [':'], ['}'],
      by simp [Mark.chars, expansionChars]⟩
  · exact ⟨'{' :: '@' :: j.name.toList ++ [':'], ['}'],
      by simp [Mark.chars, expansionChars_of_ne hchain]⟩

end Expansion

lemma Mark.isMuted_outline {m : Mark} (hm : m.WellFormed) (t : ShapedType) :
    IsMuted m.chars (m.outline t) := by
  cases m with
  | hole p => exact p.isMuted_outline t
  | expand j func expr =>
      constructor
      · by_cases hchain : j = .chain
        · subst hchain
          refine .inr ⟨_, List.mem_cons_of_mem _ List.mem_cons_self, ?_⟩
          exact ⟨func.chars ++ ':' :: expr.chars ++ ['}'], by simp [chars, expansionChars]⟩
        · exact .inl ⟨expr.outline t ++ [' '], by rw [outline, hm.func_eq_nil hchain]; rfl⟩
      · intro hseam rest hrest
        have hfunc : Seamless func.chars := hseam.of_infix (func_infix_chars hm)
        have hexpr : Seamless expr.chars := hseam.of_infix (expr_infix_chars j func expr)
        have happend : (Mark.expand j func expr).outline t ++ rest =
            func.outline t ++ ' ' :: (expr.outline t ++ ' ' :: rest) := by
          simp [outline]
        rw [happend, looksMarked_append_cons (by decide), looksMarked_append_cons (by decide),
          or_iff_right (Phrase.not_looksMarked_outline hm.wellFormed_func hfunc),
          or_iff_right (Phrase.not_looksMarked_outline hm.wellFormed_expr hexpr)] at hrest
        exact hrest

end Seamless

/-! ## Both together -/

namespace Template

/-- **Bodies that look like templates.**  The body that a template gives for a type looks like a
template, in that the sign of an expansion or a placeholder stands in it, exactly if the outline of
the template does.  It does not if the source has no seam. -/
theorem looksMarked_render {op source : String} {template : Template} {t : ShapedType}
    {body : String} (hparse : parse op source = .ok template)
    (hrender : template.render t = .ok body) :
    (LooksMarked body.toList ↔ LooksMarked (template.outline t)) ∧
      (Seamless source.toList → ¬LooksMarked body.toList) := by
  obtain ⟨hwritten, htidy, hmarks⟩ := readPieces_spec (parse_eq_ok_iff.1 hparse).2
  have hbody : LooksMarked body.toList ↔ LooksMarked (template.outline t) :=
    (alike_of_render hmarks hrender).looksMarked_iff
  refine ⟨hbody, fun hseam => ?_⟩
  rw [hbody]
  exact not_looksMarked_written htidy (hwritten.symm ▸ hseam) fun m hm =>
    Mark.isMuted_outline (hmarks m hm) t

/-- The braces of a block are no seam. -/
theorem looksMarked_render_block :
    ∃ template, parse "copy" "{ {V} r = a; }" = .ok template ∧
      template.render ⟨.f64, .vector .two⟩ = .ok "{ f64x2 r = a; }" ∧
      Seamless "{ {V} r = a; }".toList ∧ ¬LooksMarked "{ f64x2 r = a; }".toList := by
  have hparse : parse "copy" "{ {V} r = a; }" =
      .ok ⟨"copy", [.text ['{', ' '], .mark (.hole .operand), .text " r = a; \x7d".toList]⟩ := by
    decide
  have hrender : Template.render
      ⟨"copy", [.text ['{', ' '], .mark (.hole .operand), .text " r = a; \x7d".toList]⟩
      ⟨.f64, .vector .two⟩ = .ok "{ f64x2 r = a; }" := by
    decide
  have hseam : Seamless "{ {V} r = a; }".toList := by
    intro name _ front hfront hwithin
    have hnone : ∀ front ∈ seamMarks, ¬front <:+: "{ {V} r = a; }".toList := by decide
    exact hnone front hfront ((List.suffix_append _ _).isInfix.trans hwithin)
  exact ⟨_, hparse, hrender, hseam, (looksMarked_render hparse hrender).2 hseam⟩

/-- Some bodies do look like templates: where the suffix of literals is empty, a brace before it
meets the name behind it. -/
theorem not_forall_not_looksMarked_render :
    ¬∀ op source template t body, parse op source = .ok template →
      template.render t = .ok body → ¬LooksMarked body.toList := by
  intro h
  have hparse : parse "f" "{{L}T}" =
      .ok ⟨"f", [.text ['{'], .mark (.hole .suffix), .text ['T', '}']]⟩ := by
    decide
  have hrender : Template.render
      ⟨"f", [.text ['{'], .mark (.hole .suffix), .text ['T', '}']]⟩ ⟨.f64, .scalar⟩ =
        .ok "{T}" := by
    decide
  exact h _ _ _ _ _ hparse hrender (by decide)

end Template

end MathHeader
