import MathHeader.Proofs.Names.Token
import MathHeader.Proofs.Text.Words
import MathHeader.Proofs.Traversal
import MathHeader.Template.Render
import Mathlib.Data.List.Flatten

/-!
# Bodies before their type is known

What a template gives for a type is a text in which some characters stand in the template and others
are the values of its marks.  A list of `Glyph`s keeps the two apart: it is the body for all element
types at once, and depends on the type through the count of components only.  Filling it in gives
the text: `Template.written_of_render`.

The words of a filled-in text can be found in the glyphs.  Characters of the template that belong to
no word cut the glyphs into *segments*, and every word of the text stands in one of them:
`exists_segment_of_wordIn`.  A segment of word glyphs is a single word.  A word that starts like a
name of the library needs an `r`, which no value has, so that most segments have no such word:
`isHarmless`.
-/

namespace MathHeader

/-! ## Glyphs and their text -/

/-- A character of a body, or something in it that the type decides. -/
inductive Glyph where
  | char (c : Char)
  /-- The value of a placeholder, with a position if it is the component of an expansion. -/
  | hole (placeholder : Placeholder) (component : Option Nat)
  /-- The token of the `bool` vector as wide as the operand. -/
  | boolVector
deriving DecidableEq

namespace Glyph

/-- What a glyph stands for. -/
def chars (t : ShapedType) : Glyph → List Char
  | char c => [c]
  | hole p component => ((p.value? t component).getD "").toList
  | boolVector => (ShapedType.mk .bool t.shape).token.toList

/-- The text of some glyphs for a type. -/
def written (t : ShapedType) (gs : List Glyph) : List Char :=
  gs.flatMap (chars t)

/-- A text in which nothing is open. -/
def ofText (s : String) : List Glyph :=
  s.toList.map char

variable {t : ShapedType}

@[simp] lemma written_nil : written t [] = [] := rfl

@[simp] lemma written_cons (g : Glyph) (gs : List Glyph) :
    written t (g :: gs) = g.chars t ++ written t gs := rfl

@[simp] lemma written_append (gs hs : List Glyph) :
    written t (gs ++ hs) = written t gs ++ written t hs :=
  List.flatMap_append

@[simp] lemma written_map_char (cs : List Char) : written t (cs.map char) = cs := by
  rw [written, List.flatMap_map]
  exact List.flatMap_singleton' cs

@[simp] lemma written_ofText (s : String) : written t (ofText s) = s.toList :=
  written_map_char _

lemma written_intercalate (separator : List Glyph) (parts : List (List Glyph)) :
    written t (separator.intercalate parts) =
      (written t separator).intercalate (parts.map (written t)) := by
  induction parts with
  | nil => rfl
  | cons part parts ih =>
      cases parts with
      | nil => simp
      | cons next parts =>
          rw [List.intercalate_cons_cons, written_append, written_append, ih, List.map_cons,
            List.map_cons, List.map_cons, List.intercalate_cons_cons]

/-! ## Templates -/

def call (func : List Glyph) (args : List (List Glyph)) : List Glyph :=
  func ++ char '(' :: (ofText ", ").intercalate args ++ [char ')']

def nestedCalls (func : List Glyph) : List (List Glyph) → List Glyph
  | [] => []
  | first :: rest => rest.foldl (fun inner arg => call func [inner, arg]) first

lemma written_call (func : List Glyph) (args : List (List Glyph)) :
    written t (call func args) = MathHeader.call (written t func) (args.map (written t)) := by
  rw [call, MathHeader.call, List.append_assoc, written_append, List.cons_append, written_cons,
    written_append, written_intercalate, List.append_assoc]
  rfl

lemma written_nestedCalls (func : List Glyph) (args : List (List Glyph)) :
    written t (nestedCalls func args) =
      MathHeader.nestedCalls (written t func) (args.map (written t)) := by
  cases args with
  | nil => rfl
  | cons first rest =>
      rw [nestedCalls, List.map_cons, MathHeader.nestedCalls]
      induction rest generalizing first with
      | nil => rfl
      | cons arg rest ih =>
          rw [List.foldl_cons, ih, List.map_cons, List.foldl_cons, written_call]
          simp [MathHeader.call]

end Glyph

open Glyph

/-- The results of an expansion joined, as glyphs. -/
def Join.glyphs (j : Join) (func : List Glyph) (items : List (List Glyph)) : List Glyph :=
  match j with
  | vector => Glyph.call (ofText "rm_" ++ [.hole .operand none]) items
  | boolVector => Glyph.call (ofText "rm_" ++ [.boolVector]) items
  | any => Glyph.call [] [(ofText " || ").intercalate items]
  | all => Glyph.call [] [(ofText " && ").intercalate items]
  | sum => Glyph.call [] [(ofText " + ").intercalate items]
  | chain => Glyph.nestedCalls func items

/-- A part of a text with its mark given as glyphs. -/
def Piece.glyphs {μ : Type} (glyphs : μ → List Glyph) : Piece μ → List Glyph
  | text cs => cs.map .char
  | mark m => glyphs m

/-- A placeholder at a component, which makes a difference to the component only. -/
def Placeholder.glyph (component : Option Nat) (p : Placeholder) : Glyph :=
  .hole p (if p.isPerComponent then component else none)

def Phrase.glyphs (component : Option Nat) (phrase : Phrase) : List Glyph :=
  phrase.flatMap (Piece.glyphs fun p => [p.glyph component])

/-- A mark of a template for the types of a shape. -/
def Mark.glyphs (shape : Shape) : Mark → List Glyph
  | hole p => [.hole p none]
  | expand j func expr =>
    match shape.width? with
    | none => []
    | some w =>
      j.glyphs (Phrase.glyphs none func)
        ((List.range w.toNat).map fun k => Phrase.glyphs (some k) expr)

/-- The body that a template gives for the types of a shape. -/
def Template.glyphs (template : Template) (shape : Shape) : List Glyph :=
  template.pieces.flatMap (Piece.glyphs (Mark.glyphs shape))

lemma Join.written_glyphs {t : ShapedType} (j : Join) (func : List Glyph)
    (items : List (List Glyph)) :
    written t (j.glyphs func items) = j.combine t (written t func) (items.map (written t)) := by
  cases j with
  | vector =>
      rw [Join.glyphs, written_call]
      simp [Join.combine, ShapedType.constructorName, Glyph.chars, Placeholder.value?]
  | boolVector =>
      rw [Join.glyphs, written_call]
      simp [Join.combine, ShapedType.constructorName, Glyph.chars]
  | chain => exact written_nestedCalls func items
  | any | all | sum => simp [Join.glyphs, Join.combine, written_call, written_intercalate]

lemma written_of_fillAll {μ : Type} {t : ShapedType} {fill : μ → Except Missing (List Char)}
    {glyphs : μ → List Glyph} (hfill : ∀ m cs, fill m = .ok cs → cs = written t (glyphs m))
    {ps : List (Piece μ)} {cs : List Char} (h : Piece.fillAll fill ps = .ok cs) :
    cs = written t (ps.flatMap (Piece.glyphs glyphs)) := by
  obtain ⟨parts, hparts, rfl⟩ := map_eq_ok_iff.1 h
  rw [mapM_eq_ok_iff] at hparts
  induction hparts with
  | nil => rfl
  | @cons p part ps parts hpart _ ih =>
      have hp : part = written t (p.glyphs glyphs) := by
        cases p with
        | text cs =>
            cases hpart
            exact (written_map_char _).symm
        | mark m => exact hfill m part hpart
      rw [List.flatten_cons, List.flatMap_cons, written_append, ← ih, hp]
      exact map_eq_ok_iff.2 ⟨parts, mapM_eq_ok_iff.2 ‹_›, rfl⟩

lemma Placeholder.written_of_fill {t : ShapedType} {component : Option Nat} (p : Placeholder)
    (cs : List Char) (h : p.fill t component = .ok cs) : cs = written t [p.glyph component] := by
  have hvalue : p.value? t (if p.isPerComponent then component else none) =
      p.value? t component := by
    cases p <;> rfl
  unfold fill at h
  split at h
  next s hs =>
    cases h
    rw [written_cons, written_nil, List.append_nil, glyph, Glyph.chars, hvalue, hs]
    rfl
  next => cases h

lemma Mark.written_of_fill {t : ShapedType} (m : Mark) (cs : List Char)
    (h : m.fill t = .ok cs) : cs = written t (m.glyphs t.shape) := by
  cases m with
  | hole p =>
      have hp := p.written_of_fill cs h
      rwa [Placeholder.glyph, ite_self] at hp
  | expand j func expr =>
      rw [Mark.fill] at h
      rw [Mark.glyphs]
      cases hw : t.shape.width? with
      | none =>
          rw [hw] at h
          cases h
      | some w =>
          rw [hw] at h
          obtain ⟨items, hitems, h⟩ := bind_eq_ok_iff.1 h
          obtain ⟨called, hcalled, h⟩ := bind_eq_ok_iff.1 h
          cases h
          have hfunc : called = written t (Phrase.glyphs none func) :=
            written_of_fillAll Placeholder.written_of_fill hcalled
          have hexprs : items = ((List.range w.toNat).map fun k =>
              Phrase.glyphs (some k) expr).map (written t) := by
            rw [List.map_map, ← List.forall₂_eq_eq_eq, List.forall₂_map_right_iff]
            exact List.Forall₂.flip ((mapM_eq_ok_iff.1 hitems).imp fun k item hitem =>
              written_of_fillAll Placeholder.written_of_fill hitem)
          rw [Join.written_glyphs, ← hexprs, ← hfunc]

/-- **Templates and their glyphs.**  A body is the text of the glyphs of its template. -/
theorem Template.written_of_render {template : Template} {t : ShapedType} {body : String}
    (h : template.render t = .ok body) : body.toList = written t (template.glyphs t.shape) := by
  unfold Template.render at h
  split at h
  next cs hcs =>
    cases h
    rw [String.toList_ofList]
    exact written_of_fillAll Mark.written_of_fill hcs
  next => cases h

/-! ## Words -/

namespace Glyph

open Text (WordIn wordIn_append_cons)

/-- Whether a glyph is a character that belongs to no word. -/
def separates : Glyph → Bool
  | char c => !isWordChar c
  | _ => false

/-- The glyphs between separators. -/
def segments (gs : List Glyph) : List (List Glyph) :=
  gs.splitOnP separates

variable {t : ShapedType} {w : List Char}

/-- A word of a text stands in one of the segments of its glyphs, the first of which starts with the
glyphs `front` that have been scanned without a separator. -/
lemma exists_segment_of_wordIn_append {gs front : List Glyph}
    (hfront : ∀ g ∈ front, g.separates = false) (h : WordIn w (written t (front ++ gs))) :
    ∃ seg ∈ segments (front ++ gs),
      (∀ g ∈ seg, g.separates = false) ∧ WordIn w (written t seg) := by
  induction gs generalizing front with
  | nil =>
      rw [List.append_nil] at h ⊢
      rw [segments, List.splitOnP_eq_singleton hfront]
      exact ⟨front, List.mem_singleton_self front, hfront, h⟩
  | cons g gs ih =>
      cases hg : g.separates with
      | false =>
          have hfront' : ∀ g' ∈ front ++ [g], g'.separates = false :=
            List.forall_mem_append.2 ⟨hfront, List.forall_mem_singleton.2 hg⟩
          have hshift : front ++ g :: gs = front ++ [g] ++ gs := by simp
          rw [hshift] at h ⊢
          exact ih hfront' h
      | true =>
          obtain ⟨c, rfl⟩ : ∃ c, g = char c := by
            cases g with
            | char c => exact ⟨c, rfl⟩
            | hole p component => cases hg
            | boolVector => cases hg
          rw [segments, List.splitOnP_append_cons_of_forall_mem hfront _ hg]
          have hc : isWordChar c = false := by simpa [separates] using hg
          rw [written_append, written_cons, chars, List.singleton_append] at h
          rcases wordIn_append_cons hc h with h | h
          · exact ⟨front, List.mem_cons_self, hfront, h⟩
          · have hnil : ∀ g ∈ ([] : List Glyph), g.separates = false := List.forall_mem_nil _
            obtain ⟨seg, hmem, hseg⟩ := ih hnil h
            exact ⟨seg, List.mem_cons_of_mem _ hmem, hseg⟩

/-- **Words and segments.**  A word of a text stands in one of the segments of its glyphs. -/
theorem exists_segment_of_wordIn {gs : List Glyph} (h : WordIn w (written t gs)) :
    ∃ seg ∈ segments gs, (∀ g ∈ seg, g.separates = false) ∧ WordIn w (written t seg) := by
  have hnil : ∀ g ∈ ([] : List Glyph), g.separates = false := List.forall_mem_nil _
  exact exists_segment_of_wordIn_append hnil h

/-! ## Segments without a name of the library -/

end Glyph

/-- No token has an `r` in it. -/
lemma ShapedType.r_notMem_token (t : ShapedType) : 'r' ∉ t.token.toList := by
  have helement : ∀ s ∈ Scalar.all, 'r' ∉ s.token.toList := by decide
  have hsuffix : ∀ s ∈ Shape.all, 'r' ∉ s.suffix.toList := by decide
  rw [toList_token, List.mem_append, not_or]
  exact ⟨helement _ t.element.mem_all, hsuffix _ t.shape.mem_all⟩

/-- What placeholders take from the elements. -/
lemma Scalar.r_notMem_spelling : ∀ e ∈ Scalar.all,
    ∀ s ∈ e.token :: e.upperToken :: (e.signedTwin.map token).toList ++ e.literalSuffix.toList ++
      e.exactThreshold.toList, 'r' ∉ s.toList := by
  decide

/-- No value of a placeholder has an `r` in it. -/
lemma Placeholder.r_notMem_value {p : Placeholder} {t : ShapedType} {component : Option Nat}
    {s : String} (h : p.value? t component = some s) : 'r' ∉ s.toList := by
  obtain ⟨e, shape⟩ := t
  have hspelling := Scalar.r_notMem_spelling e e.mem_all s
  have htoken {type : Option ShapedType} (h : type.map ShapedType.token = some s) :
      'r' ∉ s.toList := by
    obtain ⟨ty, -, rfl⟩ := Option.map_eq_some_iff.1 h
    exact ty.r_notMem_token
  cases p with
  | element | upper | signedTwin | suffix | threshold =>
      dsimp only [value?] at h
      exact hspelling (by simp_all)
  | operand =>
      cases h
      exact ShapedType.r_notMem_token _
  | column | transposed => exact htoken h
  | rows | cols =>
      have hdigits : ∀ w ∈ Width.all, 'r' ∉ w.digits.toList := by decide
      cases shape with
      | matrix r c =>
          cases h
          exact hdigits _ (Width.mem_all _)
      | _ => cases h
  | component =>
      have hpositional : ∀ name ∈ positional, 'r' ∉ name.toList := by decide
      obtain ⟨w, -, h⟩ := Option.bind_eq_some_iff.1 h
      obtain ⟨k, -, h⟩ := Option.bind_eq_some_iff.1 h
      exact hpositional s (List.mem_of_mem_take (List.mem_of_getElem? h))

namespace Glyph

open Text (WordIn)

variable {t : ShapedType} {w : List Char}

def isChar : Glyph → Bool
  | char _ => true
  | _ => false

/-- Whether a segment can be seen to hold no word that starts with `r` and `rest`: it has no `r`, or
it has no values and does not start so. -/
def isHarmless (rest : List Char) (seg : List Glyph) : Bool :=
  !seg.contains (char 'r') || seg.all isChar && !(('r' :: rest).map char).isPrefixOf seg

lemma r_notMem_chars {g : Glyph} (hg : g ≠ char 'r') : 'r' ∉ g.chars t := by
  cases g with
  | char c =>
      rw [chars, List.mem_singleton]
      exact fun heq => hg (heq ▸ rfl)
  | boolVector => exact ShapedType.r_notMem_token _
  | hole p component =>
      rw [chars]
      cases hs : p.value? t component with
      | none => exact List.not_mem_nil
      | some s => exact p.r_notMem_value hs

lemma exists_chars_of_isChar {seg : List Glyph} (h : ∀ g ∈ seg, g.isChar = true) :
    ∃ cs : List Char, seg = cs.map char := by
  induction seg with
  | nil => exact ⟨[], rfl⟩
  | cons g seg ih =>
      obtain ⟨hg, hseg⟩ := List.forall_mem_cons.1 h
      obtain ⟨cs, rfl⟩ := ih hseg
      cases g with
      | char c => exact ⟨c :: cs, rfl⟩
      | hole p component => cases hg
      | boolVector => cases hg

/-- **Harmless segments.**  No word in them starts like a name of the library. -/
lemma not_prefix_of_isHarmless {rest : List Char} {seg : List Glyph}
    (hseg : ∀ g ∈ seg, g.separates = false) (hharmless : isHarmless rest seg = true)
    (h : WordIn w (written t seg)) : ¬ 'r' :: rest <+: w := by
  rintro ⟨more, rfl⟩
  rw [isHarmless, Bool.or_eq_true, Bool.and_eq_true, Bool.not_eq_true', Bool.not_eq_true',
    List.all_eq_true] at hharmless
  rcases hharmless with hnone | ⟨hchars, hprefix⟩
  · obtain ⟨g, hg, hmem⟩ := List.mem_flatMap.1 (h.subset List.mem_cons_self)
    refine r_notMem_chars (fun heq => ?_) hmem
    rw [heq] at hg
    rw [List.contains_iff_mem.2 hg] at hnone
    cases hnone
  · obtain ⟨cs, rfl⟩ := exists_chars_of_isChar hchars
    rw [written_map_char] at h
    have hall : ∀ c ∈ cs, isWordChar c = true := by
      intro c hc
      simpa [separates] using hseg (char c) (List.mem_map_of_mem hc)
    rw [← h.eq_of_all hall, List.map_append, List.isPrefixOf_iff_prefix.2 (List.prefix_append _ _)]
      at hprefix
    cases hprefix

end Glyph

end MathHeader
