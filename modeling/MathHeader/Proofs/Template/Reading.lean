import MathHeader.Proofs.Template.Lexemes
import MathHeader.Proofs.Traversal
import MathHeader.Template.Render
import Mathlib.Data.List.Chain

/-!
# Templates that are read

A template that can be read is written down again as its source, character for character, so that
reading loses nothing and no two sources give one template.  What is read is *well formed*
(`Template.WellFormed`): texts are merged and hold no mark, expressions are not empty, the component
stands in expressions only, and no expansion stands inside another one.

The last point needs a word about the functions of chains.  They are read where expansions are not
known, although a template as a whole may have them; but a function ends at the first colon, and
without a colon no group is an expansion.  So it makes no difference to read a function as a
template: `ofChars_inTemplate_of_colon_notMem`.

All three places are read alike.  `Reads` is what they have in common, and `ofChars_spec` is the
consequence for a whole text; `Template.wellFormed_of_parse` is the one for a whole template.
-/

namespace MathHeader

variable {μ ν : Type}

/-! ## Tidy pieces -/

def Piece.isText : Piece μ → Bool
  | text _ => true
  | mark _ => false

/-- **Tidy pieces.**  No text is empty, no brace in a text opens a mark, and no two texts are
neighbours. -/
structure Piece.Tidy (ps : List (Piece μ)) : Prop where
  texts : ∀ cs, .text cs ∈ ps → cs ≠ [] ∧ IsLiteral cs
  apart : ps.IsChain fun p q => ¬(p.isText = true ∧ q.isText = true)

/-- The pieces as they are written, their marks being written by `write`. -/
def Piece.written (write : μ → List Char) (ps : List (Piece μ)) : List Char :=
  ps.flatMap (Piece.chars write)

namespace Piece

lemma mergeTexts_cons (p : Piece μ) (ps : List (Piece μ)) :
    mergeTexts (p :: ps) = p.attach (mergeTexts ps) := rfl

lemma written_attach (write : μ → List Char) (p : Piece μ) (ps : List (Piece μ)) :
    written write (p.attach ps) = p.chars write ++ written write ps := by
  unfold attach
  split
  next => simp [written, chars]
  next => rfl

lemma mark_mem_attach {p : Piece μ} {ps : List (Piece μ)} {m : μ} :
    mark m ∈ p.attach ps ↔ mark m ∈ p :: ps := by
  unfold attach
  split
  next => simp
  next => rfl

lemma mark_mem_mergeTexts {ps : List (Piece μ)} {m : μ} :
    mark m ∈ mergeTexts ps ↔ mark m ∈ ps := by
  induction ps with
  | nil => rfl
  | cons p ps ih => rw [mergeTexts_cons, mark_mem_attach, List.mem_cons, List.mem_cons, ih]

namespace Tidy

lemma nil : Tidy ([] : List (Piece μ)) :=
  ⟨fun _ h => absurd h List.not_mem_nil, .nil⟩

lemma tail {p : Piece μ} {ps : List (Piece μ)} (h : Tidy (p :: ps)) : Tidy ps :=
  ⟨fun cs hcs => h.texts cs (List.mem_cons_of_mem _ hcs), (List.isChain_cons.1 h.apart).2⟩

lemma attach_mark {ps : List (Piece μ)} (h : Tidy ps) (m : μ) : Tidy ((mark m).attach ps) := by
  refine ⟨fun cs hcs => ?_, ?_⟩
  · rcases List.mem_cons.1 hcs with heq | hcs
    · cases heq
    · exact h.texts cs hcs
  · exact List.isChain_cons.2 ⟨fun _ _ hboth => Bool.false_ne_true hboth.1, h.apart⟩

/-- A brace that opens no mark with what follows it in the text can join the text. -/
lemma attach_text {ps : List (Piece μ)} (h : Tidy ps) {write : μ → List Char} {c : Char}
    (hc : c = '{' → ¬OpensMark (written write ps)) : Tidy ((text [c]).attach ps) := by
  have hliteral {cs : List Char} (hcs : IsLiteral cs) {rest : List Char}
      (hrest : written write ps = cs ++ rest) : IsLiteral (c :: cs) :=
    isLiteral_cons.2 ⟨fun hbrace hopens => hc hbrace (hrest ▸ hopens.append rest), hcs⟩
  cases ps with
  | nil =>
      refine ⟨fun cs hcs => ?_, List.isChain_singleton _⟩
      cases List.mem_singleton.1 hcs
      exact ⟨List.cons_ne_nil _ _, hliteral isLiteral_nil rfl⟩
  | cons p ps =>
      obtain ⟨hhead, htail⟩ := List.isChain_cons.1 h.apart
      cases p with
      | text ds =>
          refine ⟨fun cs hcs => ?_, List.isChain_cons.2 ⟨hhead, htail⟩⟩
          rcases List.mem_cons.1 hcs with heq | hcs
          · cases heq
            exact ⟨List.cons_ne_nil _ _, hliteral (h.texts ds List.mem_cons_self).2 rfl⟩
          · exact h.texts cs (List.mem_cons_of_mem _ hcs)
      | mark m =>
          refine ⟨fun cs hcs => ?_, List.isChain_cons.2 ⟨fun q hq hboth => ?_, h.apart⟩⟩
          · rcases List.mem_cons.1 hcs with heq | hcs
            · cases heq
              exact ⟨List.cons_ne_nil _ _, hliteral isLiteral_nil rfl⟩
            · exact h.texts cs hcs
          · cases hq
            exact Bool.false_ne_true hboth.2

end Tidy

end Piece

/-! ## A text that is read -/

/-- **A way to read lexemes.**  A piece is written as the lexeme that it was read from, and only a
character gives a text. -/
structure Reads (read : Lexeme → Except TemplateFault (Piece μ)) (write : μ → List Char) :
    Prop where
  chars_eq : ∀ {l p}, read l = .ok p → p.chars write = l.chars
  text_eq : ∀ {l cs}, read l = .ok (.text cs) → ∃ c, l = .char c ∧ cs = [c]

/-- To read alike, it is enough to read characters as they are and all else as marks. -/
lemma Reads.of_marks {read : Lexeme → Except TemplateFault (Piece μ)} {write : μ → List Char}
    (hchar : ∀ c, read (.char c) = .ok (.text [c]))
    (hmark : ∀ l p, (∀ c, l ≠ .char c) → read l = .ok p → ∃ m, p = .mark m ∧ write m = l.chars) :
    Reads read write := by
  constructor
  · intro l p h
    by_cases hl : ∃ c, l = .char c
    · obtain ⟨c, rfl⟩ := hl
      rw [hchar] at h
      cases h
      rfl
    · obtain ⟨m, rfl, hm⟩ := hmark l p (fun c hc => hl ⟨c, hc⟩) h
      exact hm
  · intro l cs h
    by_cases hl : ∃ c, l = .char c
    · obtain ⟨c, rfl⟩ := hl
      rw [hchar] at h
      cases h
      exact ⟨c, rfl, rfl⟩
    · obtain ⟨m, hm, -⟩ := hmark l _ (fun c hc => hl ⟨c, hc⟩) h
      cases hm

lemma Lexeme.not_opensMark_of_atFront {c d : Char} {cs : List Char} (h : atFront c cs = char d) :
    d = c ∧ (c = '{' → ¬OpensMark cs) := by
  unfold atFront at h
  split at h
  next hc =>
    rcases ofBrace_cases cs with ⟨inner, tail, -, hbrace⟩ | ⟨tail, -, hbrace⟩ |
      ⟨name, tail, -, -, -, hbrace⟩ | ⟨hopens, hbrace⟩ <;> rw [hbrace] at h <;> cases h
    exact ⟨hc.symm, fun _ => hopens⟩
  next hc =>
    cases h
    exact ⟨rfl, fun hbrace => absurd hbrace hc⟩

/-- Merged pieces grow at the front as the text does. -/
lemma written_mergeTexts {read : Lexeme → Except TemplateFault (Piece μ)}
    {write : μ → List Char} (hread : Reads read write) (cs : List Char) :
    ∀ qs, (lexemes cs).mapM read = .ok qs →
      Piece.written write (Piece.mergeTexts qs) = cs ∧ Piece.Tidy (Piece.mergeTexts qs) := by
  refine lexemes_induction (motive := fun cs ls => ∀ qs, ls.mapM read = .ok qs →
    Piece.written write (Piece.mergeTexts qs) = cs ∧ Piece.Tidy (Piece.mergeTexts qs)) ?_ ?_ cs
  · intro qs hqs
    cases mapM_eq_ok_iff.1 hqs
    exact ⟨rfl, .nil⟩
  · intro c cs rest hrest ih qs hqs
    obtain ⟨q, qs, hq, hqs', rfl⟩ := List.forall₂_cons_left_iff.1 (mapM_eq_ok_iff.1 hqs)
    obtain ⟨hwritten, htidy⟩ := ih qs (mapM_eq_ok_iff.2 hqs')
    rw [Piece.mergeTexts_cons]
    refine ⟨by rw [Piece.written_attach, hread.chars_eq hq, hwritten, hrest], ?_⟩
    cases q with
    | mark m => exact htidy.attach_mark m
    | text ds =>
        obtain ⟨d, hd, rfl⟩ := hread.text_eq hq
        obtain ⟨rfl, hopens⟩ := Lexeme.not_opensMark_of_atFront hd
        rw [hd] at hrest
        cases hrest
        exact htidy.attach_text (hwritten.symm ▸ hopens)

/-- **A text that is read.**  The pieces are written as the text, they are tidy, and each mark is
read from a lexeme. -/
theorem ofChars_spec {read : Lexeme → Except TemplateFault (Piece μ)} {write : μ → List Char}
    (hread : Reads read write) {cs : List Char} {ps : List (Piece μ)}
    (h : Piece.ofChars read cs = .ok ps) :
    Piece.written write ps = cs ∧ Piece.Tidy ps ∧
      ∀ m, .mark m ∈ ps → ∃ l ∈ lexemes cs, read l = .ok (.mark m) := by
  obtain ⟨qs, hqs, rfl⟩ := map_eq_ok_iff.1 h
  obtain ⟨hwritten, htidy⟩ := written_mergeTexts hread cs qs hqs
  refine ⟨hwritten, htidy, fun m hm => ?_⟩
  exact exists_of_forall₂_of_mem (mapM_eq_ok_iff.1 hqs) (Piece.mark_mem_mergeTexts.1 hm)

/-- Where a group that is never closed cannot be read, the pieces of two texts that are apart are
read one after the other. -/
lemma mapM_lexemes_append {read : Lexeme → Except TemplateFault (Piece μ)}
    (hopened : ∀ p, read .opened ≠ .ok p) {cs ds : List Char} {qs : List (Piece μ)}
    (h : (lexemes cs).mapM read = .ok qs) (hapart : Apart cs ds) :
    (lexemes (cs ++ ds)).mapM read = (qs ++ ·) <$> (lexemes ds).mapM read := by
  have hclosed : .opened ∉ lexemes cs := by
    intro hmem
    obtain ⟨p, hp⟩ := exists_mapM_eq_ok_iff.1 ⟨qs, h⟩ _ hmem
    exact hopened p hp
  rw [lexemes_append hclosed hapart, List.mapM_append, h]
  rfl

/-! ## The three places -/

namespace Placeholder

lemma name_word (p : Placeholder) :
    p.name.toList ≠ [] ∧ p.name.toList.all isWordChar = true := by
  cases p <;> decide

lemma isPerComponent_eq_false_iff {p : Placeholder} :
    p.isPerComponent = false ↔ p ≠ .component := by
  cases p <;> decide

end Placeholder

lemma readPlaceholder_eq_ok {name : List Char} {p : Placeholder}
    (h : readPlaceholder name = .ok p) : p.chars = (Lexeme.named name).chars := by
  unfold readPlaceholder at h
  split at h
  next hp =>
    cases h
    rw [Placeholder.chars, Placeholder.name_of_ofName? hp, String.toList_ofList]
    rfl
  next => cases h

lemma reads_inExpression : Reads Lexeme.inExpression Placeholder.chars := by
  refine .of_marks (fun _ => rfl) fun l p hl h => ?_
  cases l with
  | char c => exact absurd rfl (hl c)
  | named name =>
      obtain ⟨q, hq, rfl⟩ := map_eq_ok_iff.1 h
      exact ⟨q, rfl, readPlaceholder_eq_ok hq⟩
  | group inner => cases h
  | opened => cases h

/-- What can be read in the function of a chain: characters, and placeholders that are no
component. -/
lemma inFunction_eq_ok {l : Lexeme} {p : Piece Placeholder} (h : l.inFunction = .ok p) :
    (∃ c, l = .char c ∧ p = .text [c]) ∨
      ∃ name q, l = .named name ∧ p = .mark q ∧ readPlaceholder name = .ok q ∧
        q.isPerComponent = false := by
  cases l with
  | char c =>
      cases h
      exact .inl ⟨c, rfl, rfl⟩
  | named name =>
      obtain ⟨q, hq, h⟩ := bind_eq_ok_iff.1 h
      split at h
      next => cases h
      next hcomponent =>
        cases h
        exact .inr ⟨name, q, rfl, rfl, hq, Bool.eq_false_iff.2 hcomponent⟩
  | group inner => cases h
  | opened => cases h

lemma reads_inFunction : Reads Lexeme.inFunction Placeholder.chars := by
  refine .of_marks (fun _ => rfl) fun l p hl h => ?_
  rcases inFunction_eq_ok h with ⟨c, rfl, -⟩ | ⟨name, q, rfl, rfl, hq, -⟩
  · exact absurd rfl (hl c)
  · exact ⟨q, rfl, readPlaceholder_eq_ok hq⟩

lemma expansionChars_of_ne {j : Join} (h : j ≠ .chain) (func expr : Phrase) :
    expansionChars j func expr = j.name.toList ++ ':' :: Phrase.chars expr := by
  unfold expansionChars
  split
  next => exact absurd rfl h
  next => rfl

/-- **An expansion that is read.**  Its expression is not empty and was read as an expression, its
function was read as a function and has no colon, and only a chain has one. -/
lemma readExpansion_eq_ok {inner : List Char} {m : Mark} (h : readExpansion inner = .ok m) :
    ∃ j func expr, m = .expand j func expr ∧ inner = expansionChars j func expr ∧ expr ≠ [] ∧
      (∃ cs, Piece.ofChars Lexeme.inExpression cs = .ok expr) ∧
      (∃ cs, ':' ∉ cs ∧ Piece.ofChars Lexeme.inFunction cs = .ok func) ∧
      (j ≠ .chain → func = []) := by
  unfold readExpansion at h
  cases hword : Text.splitAtFirst ':' inner with
  | none =>
      rw [hword] at h
      cases h
  | some parts =>
  obtain ⟨word, body⟩ := parts
  obtain ⟨-, rfl⟩ := Text.splitAtFirst_eq_some_iff.1 hword
  rw [hword] at h
  dsimp only at h
  cases hjoin : Join.ofName? (String.ofList word) with
  | none =>
      rw [hjoin] at h
      cases h
  | some j =>
  have hname := Join.name_of_ofName? hjoin
  rw [hjoin] at h
  dsimp only at h
  have hfinish {func expr : Phrase} (h : (if expr.isEmpty then .error (.emptyExpression j)
      else .ok (.expand j func expr) : Except TemplateFault Mark) = .ok m) :
      m = .expand j func expr ∧ expr ≠ [] := by
    split at h
    next => cases h
    next hempty =>
      cases h
      exact ⟨rfl, by simpa using hempty⟩
  have hwritten {cs : List Char} {expr : Phrase}
      (h : Piece.ofChars Lexeme.inExpression cs = .ok expr) : Phrase.chars expr = cs :=
    (ofChars_spec reads_inExpression h).1
  -- Only a chain has a function in front of its expression.
  split at h
  next =>
    split at h
    next funcChars exprChars hfunction =>
      obtain ⟨hcolon, rfl⟩ := Text.splitAtFirst_eq_some_iff.1 hfunction
      obtain ⟨func, hfunc, h⟩ := bind_eq_ok_iff.1 h
      obtain ⟨expr, hexpr, h⟩ := bind_eq_ok_iff.1 h
      obtain ⟨rfl, hne⟩ := hfinish h
      refine ⟨_, func, expr, rfl, ?_, hne, ⟨_, hexpr⟩, ⟨_, hcolon, hfunc⟩, absurd rfl⟩
      have hfuncWritten : Phrase.chars func = funcChars := (ofChars_spec reads_inFunction hfunc).1
      rw [expansionChars, hfuncWritten, hwritten hexpr, hname, String.toList_ofList,
        List.append_assoc]
      rfl
    next => cases h
  next hchain =>
    obtain ⟨expr, hexpr, h⟩ := bind_eq_ok_iff.1 h
    obtain ⟨rfl, hne⟩ := hfinish h
    refine ⟨j, [], expr, rfl, ?_, hne, ⟨_, hexpr⟩, ⟨[], List.not_mem_nil, rfl⟩, fun _ => rfl⟩
    rw [expansionChars_of_ne hchain, hwritten hexpr, hname, String.toList_ofList]

/-! ## Functions as templates -/

/-- A piece with another mark. -/
def Piece.map (f : μ → ν) : Piece μ → Piece ν
  | text cs => text cs
  | mark m => mark (f m)

lemma Piece.map_attach (f : μ → ν) (p : Piece μ) (ps : List (Piece μ)) :
    (p.attach ps).map (Piece.map f) = (p.map f).attach (ps.map (Piece.map f)) := by
  cases p with
  | mark m => rfl
  | text cs =>
      cases ps with
      | nil => rfl
      | cons q ps => cases q <;> rfl

lemma Piece.map_mergeTexts (f : μ → ν) (ps : List (Piece μ)) :
    (mergeTexts ps).map (Piece.map f) = mergeTexts (ps.map (Piece.map f)) := by
  induction ps with
  | nil => rfl
  | cons p ps ih =>
      rw [List.map_cons, mergeTexts_cons, mergeTexts_cons, map_attach, ih]

/-- Without a colon no group is an expansion. -/
lemma inTemplate_of_colon_notMem {l : Lexeme} (h : ':' ∉ l.chars) :
    l.inTemplate = Piece.map Mark.hole <$> l.inFunction := by
  cases l with
  | char c => rfl
  | named name =>
      rw [Lexeme.inTemplate, Lexeme.inFunction]
      cases readPlaceholder name with
      | error fault => rfl
      | ok p =>
          cases hp : p.isPerComponent <;>
            simp [bind, Except.bind, hp, Functor.map, Except.map, Piece.map]
  | group inner =>
      have hinner : ':' ∉ inner := by simpa [Lexeme.chars] using h
      rw [Lexeme.inTemplate, readExpansion, Text.splitAtFirst_eq_none_iff.2 hinner]
      rfl
  | opened => rfl

/-- **Functions as templates.**  A text without a colon is read as a template in the same way as it
is read as a function: it gives the same pieces or the same fault. -/
theorem ofChars_inTemplate_of_colon_notMem {cs : List Char} (h : ':' ∉ cs) :
    Piece.ofChars Lexeme.inTemplate cs =
      List.map (Piece.map Mark.hole) <$> Piece.ofChars Lexeme.inFunction cs := by
  have hlexemes : ∀ l ∈ lexemes cs, l.inTemplate = Piece.map Mark.hole <$> l.inFunction :=
    fun l hl => inTemplate_of_colon_notMem fun hmem => h (chars_subset_of_mem_lexemes hl hmem)
  rw [Piece.ofChars, Piece.ofChars, mapM_eq_map_mapM hlexemes]
  cases (lexemes cs).mapM Lexeme.inFunction with
  | error fault => rfl
  | ok ps => exact congrArg Except.ok (Piece.map_mergeTexts Mark.hole ps).symm

/-! ## Whole templates -/

/-- **A well-formed phrase.**  Its pieces are tidy, and the sign of an expansion is nowhere in it,
not even across pieces. -/
structure Phrase.WellFormed (phrase : Phrase) : Prop where
  tidy : Piece.Tidy phrase
  noExpansion : ¬['{', '@'] <:+: Phrase.chars phrase

/-- **A well-formed expansion.**  The expression is not empty, only a chain has a function, and the
component does not stand in it.  Neither of the two has an expansion in it, although the function is
a template of its own. -/
structure WellFormedExpansion (join : Join) (func expr : Phrase) : Prop where
  expr_ne_nil : expr ≠ []
  func_eq_nil : join ≠ .chain → func = []
  wellFormed_expr : Phrase.WellFormed expr
  wellFormed_func : Phrase.WellFormed func
  component : ∀ p, .mark p ∈ func → p ≠ .component
  readPieces_func : Template.readPieces (String.ofList (Phrase.chars func)) =
    .ok (func.map (Piece.map Mark.hole))

/-- A placeholder outside of expansions is not the component. -/
def Mark.WellFormed : Mark → Prop
  | hole p => p ≠ .component
  | expand j func expr => WellFormedExpansion j func expr

/-- **A well-formed template.** -/
structure Template.WellFormed (t : Template) : Prop where
  tidy : Piece.Tidy t.pieces
  marks : ∀ m, .mark m ∈ t.pieces → m.WellFormed

/-- Where no group can be read, there is no expansion. -/
lemma wellFormed_of_ofChars {read : Lexeme → Except TemplateFault (Piece Placeholder)}
    (hread : Reads read Placeholder.chars)
    (hgroup : ∀ {l p}, read l = .ok p → l.opensGroup = false) {cs : List Char} {phrase : Phrase}
    (h : Piece.ofChars read cs = .ok phrase) : Phrase.WellFormed phrase := by
  obtain ⟨hwritten, htidy, -⟩ := ofChars_spec hread h
  obtain ⟨qs, hqs, -⟩ := map_eq_ok_iff.1 h
  refine ⟨htidy, ?_⟩
  have hchars : Phrase.chars phrase = cs := hwritten
  rw [hchars]
  refine not_sign_infix fun l hl => ?_
  obtain ⟨p, hp⟩ := exists_mapM_eq_ok_iff.1 ⟨qs, hqs⟩ l hl
  exact hgroup hp

lemma wellFormed_expression {cs : List Char} {expr : Phrase}
    (h : Piece.ofChars Lexeme.inExpression cs = .ok expr) : Phrase.WellFormed expr := by
  refine wellFormed_of_ofChars reads_inExpression (fun {l p} hl => ?_) h
  cases l with
  | char c => rfl
  | named name => rfl
  | group inner => cases hl
  | opened => cases hl

lemma wellFormed_function {cs : List Char} {func : Phrase}
    (h : Piece.ofChars Lexeme.inFunction cs = .ok func) : Phrase.WellFormed func := by
  refine wellFormed_of_ofChars reads_inFunction (fun {l p} hl => ?_) h
  rcases inFunction_eq_ok hl with ⟨c, rfl, -⟩ | ⟨name, q, rfl, -⟩ <;> rfl

lemma component_notMem_function {cs : List Char} {func : Phrase}
    (h : Piece.ofChars Lexeme.inFunction cs = .ok func) :
    ∀ p, .mark p ∈ func → p ≠ .component := by
  intro p hp
  obtain ⟨l, -, hl⟩ := (ofChars_spec reads_inFunction h).2.2 p hp
  rcases inFunction_eq_ok hl with ⟨c, -, heq⟩ | ⟨name, q, -, heq, -, hcomponent⟩
  · cases heq
  · cases heq
    exact Placeholder.isPerComponent_eq_false_iff.1 hcomponent

lemma readPieces_function {cs : List Char} (hcolon : ':' ∉ cs) {func : Phrase}
    (h : Piece.ofChars Lexeme.inFunction cs = .ok func) :
    Template.readPieces (String.ofList (Phrase.chars func)) =
      .ok (func.map (Piece.map Mark.hole)) := by
  have hchars : Phrase.chars func = cs := (ofChars_spec reads_inFunction h).1
  rw [hchars, Template.readPieces, String.toList_ofList,
    ofChars_inTemplate_of_colon_notMem hcolon, h]
  rfl

/-- What can be read in a template: characters, placeholders that are no component, and
expansions. -/
lemma inTemplate_eq_ok {l : Lexeme} {p : Piece Mark} (h : l.inTemplate = .ok p) :
    (∃ c, l = .char c ∧ p = .text [c]) ∨
      ∃ m : Mark, p = .mark m ∧ m.chars = l.chars ∧ m.WellFormed := by
  cases l with
  | char c =>
      cases h
      exact .inl ⟨c, rfl, rfl⟩
  | named name =>
      obtain ⟨q, hq, h⟩ := bind_eq_ok_iff.1 h
      split at h
      next => cases h
      next hcomponent =>
        cases h
        exact .inr ⟨.hole q, rfl, readPlaceholder_eq_ok hq,
          Placeholder.isPerComponent_eq_false_iff.1 (Bool.eq_false_iff.2 hcomponent)⟩
  | group inner =>
      obtain ⟨m, hm, rfl⟩ := map_eq_ok_iff.1 h
      obtain ⟨j, func, expr, rfl, rfl, hne, ⟨exprChars, hexpr⟩, ⟨funcChars, hcolon, hfunc⟩,
        hchain⟩ := readExpansion_eq_ok hm
      exact .inr ⟨_, rfl, rfl, hne, hchain, wellFormed_expression hexpr, wellFormed_function hfunc,
        component_notMem_function hfunc, readPieces_function hcolon hfunc⟩
  | opened => cases h

lemma reads_inTemplate : Reads Lexeme.inTemplate Mark.chars := by
  refine .of_marks (fun _ => rfl) fun l p hl h => ?_
  rcases inTemplate_eq_ok h with ⟨c, rfl, -⟩ | ⟨m, rfl, hm, -⟩
  · exact absurd rfl (hl c)
  · exact ⟨m, rfl, hm⟩

namespace Template

lemma parse_eq_ok_iff {op source : String} {t : Template} :
    parse op source = .ok t ↔ t.op = op ∧ readPieces source = .ok t.pieces := by
  unfold parse
  cases readPieces source with
  | error fault => simp
  | ok pieces =>
      simp only [Except.ok.injEq]
      constructor
      · rintro rfl
        exact ⟨rfl, rfl⟩
      · rintro ⟨rfl, rfl⟩
        rfl

/-- The pieces of a template that can be read. -/
lemma readPieces_spec {source : String} {ps : List (Piece Mark)} (h : readPieces source = .ok ps) :
    Piece.written Mark.chars ps = source.toList ∧ Piece.Tidy ps ∧
      ∀ m, .mark m ∈ ps → m.WellFormed := by
  obtain ⟨hwritten, htidy, hmarks⟩ := ofChars_spec reads_inTemplate h
  refine ⟨hwritten, htidy, fun m hm => ?_⟩
  obtain ⟨l, -, hl⟩ := hmarks m hm
  rcases inTemplate_eq_ok hl with ⟨c, -, heq⟩ | ⟨m', heq, -, hm'⟩
  · cases heq
  · cases heq
    exact hm'

/-- **Reading loses nothing.**  A template that can be read belongs to its operation and is written
as its source, so that no other source gives it, and it is well formed. -/
theorem wellFormed_of_parse {op source : String} {t : Template} (h : parse op source = .ok t) :
    t.op = op ∧ t.source = source ∧ t.WellFormed ∧
      ∀ op' source', parse op' source' = .ok t → source' = source := by
  have hsource {op source : String} (h : parse op source = .ok t) : t.source = source := by
    have hwritten := (readPieces_spec (parse_eq_ok_iff.1 h).2).1
    rw [Template.source, ← String.toList_inj, String.toList_ofList]
    exact hwritten
  obtain ⟨hop, hpieces⟩ := parse_eq_ok_iff.1 h
  obtain ⟨-, htidy, hmarks⟩ := readPieces_spec hpieces
  refine ⟨hop, hsource h, ⟨htidy, hmarks⟩, fun op' source' h' => ?_⟩
  rw [← hsource h', hsource h]

/-- The pieces of a body in braces of its own, which holds a chain of calls. -/
def blockPieces : List (Piece Mark) :=
  [ .text ['{', ' '], .mark (.hole .operand), .text [' ', 'r', ' ', '=', ' '],
    .mark (.expand .chain
      [.text ['m', 'i', 'n', '_'], .mark .element] [.text ['v', '.'], .mark .component]),
    .text [';', ' ', '}'] ]

/-- The braces of a block stay in the texts around the marks. -/
theorem wellFormed_of_parse_block :
    parse "lowest" "{ {V} r = {@chain:min_{T}:v.{c}}; }" = .ok ⟨"lowest", blockPieces⟩ ∧
      (⟨"lowest", blockPieces⟩ : Template).WellFormed :=
  have h : parse "lowest" "{ {V} r = {@chain:min_{T}:v.{c}}; }" = .ok ⟨"lowest", blockPieces⟩ := by
    decide
  ⟨h, (wellFormed_of_parse h).2.2.1⟩

end Template

end MathHeader
