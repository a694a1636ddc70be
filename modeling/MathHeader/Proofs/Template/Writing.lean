import MathHeader.Proofs.Template.Reading

/-!
# Templates that are written

A template that is written down is read back as it was, provided that its texts cannot be mistaken
for something else.  That asks for little in the template itself: no brace of a text may open a mark
within the text.  What stands next to the text does no harm, since a mark starts with a brace and
no name has one in it; so a text may end in a brace, or in a brace and a name, right before a mark.
Inside an expansion braces are counted to find its end, so the texts there have none, and the
function of a chain has no colon, since it ends at the first one.

The proof follows the writing.  A mark is written as one lexeme, and a literal text as its
characters; so the lexemes of what is written are those of the pieces one after the other, and
merging the characters of a text gives the text again: `Template.parse_source`.
-/

namespace MathHeader

variable {μ : Type}

/-! ## Balanced texts -/

/-- **A balanced text.**  A group that is open before the text is open after it, and closed where it
would be closed without the text. -/
def Balanced (cs : List Char) : Prop :=
  ∀ inner rest, closingIndex inner (cs ++ rest) = (closingIndex inner rest).map (· + cs.length)

lemma balanced_nil : Balanced [] := by
  intro inner rest
  simp

lemma Balanced.append {cs ds : List Char} (hcs : Balanced cs) (hds : Balanced ds) :
    Balanced (cs ++ ds) := by
  intro inner rest
  rw [List.append_assoc, hcs, hds, Option.map_map, List.length_append]
  congr 1
  funext k
  simp only [Function.comp_apply]
  omega

/-- A character that is no brace. -/
lemma Balanced.cons {c : Char} {cs : List Char} (hopen : c ≠ '{') (hclose : c ≠ '}')
    (hcs : Balanced cs) : Balanced (c :: cs) := by
  intro inner rest
  rw [List.cons_append, closingIndex.eq_def]
  dsimp only
  rw [if_neg hopen, if_neg hclose, hcs, Option.map_map]
  rfl

lemma balanced_of_notMem {cs : List Char} (hopen : '{' ∉ cs) (hclose : '}' ∉ cs) :
    Balanced cs := by
  induction cs with
  | nil => exact balanced_nil
  | cons c cs ih =>
      rw [List.mem_cons, not_or] at hopen hclose
      exact (ih hopen.2 hclose.2).cons (Ne.symm hopen.1) (Ne.symm hclose.1)

/-- A brace that is opened before a balanced text is closed right behind it. -/
lemma Balanced.braced {cs : List Char} (hcs : Balanced cs) : Balanced ('{' :: cs ++ ['}']) := by
  intro inner rest
  have hclose : closingIndex (inner + 1) ('}' :: rest) =
      (closingIndex inner rest).map (· + 1) := rfl
  have hopen : closingIndex inner ('{' :: (cs ++ '}' :: rest)) =
      (closingIndex (inner + 1) (cs ++ '}' :: rest)).map (· + 1) := rfl
  rw [List.cons_append, List.cons_append, List.append_assoc, List.singleton_append, hopen, hcs,
    hclose, Option.map_map, Option.map_map]
  congr 1
  funext k
  simp only [Function.comp_apply, List.length_cons, List.length_append, List.length_nil]
  omega

/-- The group of a balanced text ends behind it. -/
lemma Balanced.closingIndex_eq {cs : List Char} (hcs : Balanced cs) (rest : List Char) :
    closingIndex 0 (cs ++ '}' :: rest) = some cs.length := by
  have hclose : closingIndex 0 ('}' :: rest) = some 0 := rfl
  rw [hcs, hclose, Option.map_some, Nat.zero_add]

lemma balanced_placeholder (p : Placeholder) : Balanced p.chars := by
  refine Balanced.braced (balanced_of_notMem ?_ ?_) <;> cases p <;> decide

/-! ## Texts and marks side by side -/

/-- A brace with nothing but a name behind it does not become a mark by another brace. -/
lemma not_opensMark_of_brace {name : List Char} (hname : name.all isWordChar = true)
    (rest : List Char) : ¬OpensMark (name ++ '{' :: rest) := by
  have hbrace : (name ++ ['{']).all isWordChar = false := by
    rw [List.all_append, hname]
    rfl
  intro h
  rw [← List.singleton_append, ← List.append_assoc] at h
  rcases h.of_append hbrace with hhead | ⟨name', tail, -, -, heq⟩
  · cases name with
    | nil => cases hhead
    | cons c name =>
        cases hhead
        cases hname
  · have hmem : '}' ∈ name ++ ['{'] := heq ▸ List.mem_append_right _ List.mem_cons_self
    rcases List.mem_append.1 hmem with hmem | hmem
    · cases List.all_eq_true.1 hname _ hmem
    · cases List.mem_singleton.1 hmem

/-- A literal text is apart from a mark. -/
lemma IsLiteral.apart {cs ds : List Char} (hcs : IsLiteral cs)
    (hds : ds = [] ∨ ∃ rest, ds = '{' :: rest) : Apart cs ds := by
  intro name hname hopen
  rcases hds with rfl | ⟨rest, rfl⟩
  · rw [List.append_nil]
    exact hcs name hopen
  · exact not_opensMark_of_brace hname rest

lemma lexemes_of_isLiteral {cs : List Char} (h : IsLiteral cs) : lexemes cs = cs.map .char := by
  induction cs with
  | nil => rfl
  | cons c cs ih =>
      obtain ⟨hc, hcs⟩ := isLiteral_cons.1 h
      have hfront : Lexeme.atFront c cs = .char c := by
        unfold Lexeme.atFront
        split
        next hbrace => rw [Lexeme.ofBrace_char (hc hbrace), hbrace]
        next => rfl
      have hchars : c :: cs = (Lexeme.atFront c cs).chars ++ cs := by
        rw [hfront]
        rfl
      rw [lexemes_cons hchars, hfront, ih hcs, List.map_cons]

/-- A text that is all of its first lexeme. -/
lemma lexemes_eq_singleton {c : Char} {cs : List Char}
    (h : (Lexeme.atFront c cs).chars = c :: cs) : lexemes (c :: cs) = [Lexeme.atFront c cs] :=
  lexemes_cons (by rw [h, List.append_nil])

lemma lexemes_named {name : List Char} (hne : name ≠ []) (hname : name.all isWordChar = true) :
    lexemes ('{' :: name ++ ['}']) = [.named name] := by
  have hfront : Lexeme.atFront '{' (name ++ ['}']) = .named name :=
    Lexeme.ofBrace_named hne hname []
  rw [List.cons_append, lexemes_eq_singleton (by rw [hfront]; rfl), hfront]

lemma lexemes_group {inner : List Char} (h : Balanced inner) :
    lexemes ('{' :: '@' :: inner ++ ['}']) = [.group inner] := by
  have hclose : closingIndex 0 ('@' :: (inner ++ ['}'])) = some (inner.length + 1) :=
    (h.cons (by decide) (by decide)).closingIndex_eq []
  have hfront : Lexeme.atFront '{' ('@' :: (inner ++ ['}'])) = .group inner :=
    Lexeme.ofBrace_group hclose
  rw [List.cons_append, List.cons_append, lexemes_eq_singleton (by rw [hfront]; rfl), hfront]

/-! ## Pieces that are read back -/

/-- **A mark that is read back.**  It is written between braces, as one lexeme, and that lexeme is
read as the mark. -/
structure ReadsBack (read : Lexeme → Except TemplateFault (Piece μ)) (write : μ → List Char)
    (m : μ) : Prop where
  braced : ∃ inner, write m = '{' :: inner ++ ['}']
  lexeme : ∃ l, lexemes (write m) = [l] ∧ read l = .ok (.mark m)

lemma Piece.attach_chars {cs : List Char} (hne : cs ≠ []) {ps : List (Piece μ)}
    (hps : ∀ p ∈ ps.head?, p.isText = false) :
    (cs.map fun c => text [c]).foldr attach ps = text cs :: ps := by
  induction cs with
  | nil => exact absurd rfl hne
  | cons c cs ih =>
      rw [List.map_cons, List.foldr_cons]
      cases cs with
      | nil =>
          cases ps with
          | nil => rfl
          | cons p ps =>
              cases p with
              | text ds => cases hps _ rfl
              | mark m => rfl
      | cons d cs =>
          rw [ih (List.cons_ne_nil _ _)]
          rfl

section

variable {read : Lexeme → Except TemplateFault (Piece μ)} {write : μ → List Char}

/-- What is written starts with a brace, unless there is nothing or a text comes first. -/
lemma written_starts {ps : List (Piece μ)} (hps : ∀ p ∈ ps.head?, p.isText = false)
    (hmarks : ∀ m, .mark m ∈ ps → ReadsBack read write m) :
    Piece.written write ps = [] ∨ ∃ rest, Piece.written write ps = '{' :: rest := by
  cases ps with
  | nil => exact .inl rfl
  | cons p ps =>
      cases p with
      | text cs => cases hps _ rfl
      | mark m =>
          obtain ⟨inner, hinner⟩ := (hmarks m List.mem_cons_self).braced
          refine .inr ⟨inner ++ ['}'] ++ Piece.written write ps, ?_⟩
          rw [Piece.written, List.flatMap_cons, Piece.chars, hinner]
          rfl

lemma mapM_read_chars (hchar : ∀ c, read (.char c) = .ok (.text [c])) (cs : List Char) :
    (cs.map Lexeme.char).mapM read = .ok (cs.map fun c => .text [c]) := by
  rw [mapM_eq_ok_iff, List.forall₂_map_left_iff, List.forall₂_map_right_iff, List.forall₂_same]
  exact fun c _ => hchar c

/-- A literal text is read back in front of what does not start with a text. -/
lemma ofChars_text_append (hchar : ∀ c, read (.char c) = .ok (.text [c]))
    (hopened : ∀ p, read .opened ≠ .ok p) {cs rest : List Char} {ps : List (Piece μ)}
    (hne : cs ≠ []) (hcs : IsLiteral cs) (hapart : Apart cs rest)
    (hhead : ∀ p ∈ ps.head?, p.isText = false) (hrest : Piece.ofChars read rest = .ok ps) :
    Piece.ofChars read (cs ++ rest) = .ok (.text cs :: ps) := by
  obtain ⟨qs, hqs, rfl⟩ := map_eq_ok_iff.1 hrest
  have hfront : (lexemes cs).mapM read = .ok (cs.map fun c => .text [c]) := by
    rw [lexemes_of_isLiteral hcs, mapM_read_chars hchar]
  have hmerge : Piece.mergeTexts ((cs.map fun c => .text [c]) ++ qs) =
      .text cs :: Piece.mergeTexts qs := by
    rw [Piece.mergeTexts, List.foldr_append]
    exact Piece.attach_chars hne hhead
  rw [Piece.ofChars, mapM_lexemes_append hopened hfront hapart, hqs]
  exact congrArg Except.ok hmerge

/-- A mark is read back in front of anything, since it ends with a brace. -/
lemma ofChars_mark_append (hopened : ∀ p, read .opened ≠ .ok p) {m : μ}
    (hm : ReadsBack read write m) {rest : List Char} {ps : List (Piece μ)}
    (hrest : Piece.ofChars read rest = .ok ps) :
    Piece.ofChars read (write m ++ rest) = .ok (.mark m :: ps) := by
  obtain ⟨⟨inner, hinner⟩, l, hl, hread⟩ := hm
  obtain ⟨qs, hqs, rfl⟩ := map_eq_ok_iff.1 hrest
  have hfront : (lexemes (write m)).mapM read = .ok [.mark m] := by
    rw [hl, mapM_eq_ok_iff, List.forall₂_cons, List.forall₂_nil_left_iff]
    exact ⟨hread, rfl⟩
  have hend : ¬EndsOpen (write m) :=
    hinner ▸ not_endsOpen_concat (by decide) (by decide) ('{' :: inner)
  rw [Piece.ofChars, mapM_lexemes_append hopened hfront (apart_of_not_endsOpen hend _), hqs]
  rfl

/-- **Pieces that are read back.**  Tidy pieces whose marks are read back are read from what is
written of them. -/
theorem ofChars_written (hchar : ∀ c, read (.char c) = .ok (.text [c]))
    (hopened : ∀ p, read .opened ≠ .ok p) {ps : List (Piece μ)} (htidy : Piece.Tidy ps)
    (hmarks : ∀ m, .mark m ∈ ps → ReadsBack read write m) :
    Piece.ofChars read (Piece.written write ps) = .ok ps := by
  induction ps with
  | nil => rfl
  | cons p ps ih =>
      have htail : ∀ m, .mark m ∈ ps → ReadsBack read write m :=
        fun m hm => hmarks m (List.mem_cons_of_mem _ hm)
      have hrest : Piece.ofChars read (Piece.written write ps) = .ok ps := ih htidy.tail htail
      have hwritten : Piece.written write (p :: ps) = p.chars write ++ Piece.written write ps := rfl
      rw [hwritten]
      cases p with
      | text cs =>
          obtain ⟨hne, hcs⟩ := htidy.texts cs List.mem_cons_self
          have hhead : ∀ p ∈ ps.head?, p.isText = false := fun p hp =>
            Bool.eq_false_iff.2 fun h => (List.isChain_cons.1 htidy.apart).1 p hp ⟨rfl, h⟩
          have hapart : Apart cs (Piece.written write ps) :=
            IsLiteral.apart hcs (written_starts hhead htail)
          exact ofChars_text_append hchar hopened hne hcs hapart hhead hrest
      | mark m => exact ofChars_mark_append hopened (hmarks m List.mem_cons_self) hrest

end

/-! ## The three places -/

lemma readPlaceholder_name (p : Placeholder) : readPlaceholder p.name.toList = .ok p := by
  rw [readPlaceholder, String.ofList_toList, Placeholder.ofName?_name]

/-- A mark that is written as a placeholder is read back where the name of the placeholder is
understood as the mark. -/
lemma readsBack_of_named {read : Lexeme → Except TemplateFault (Piece μ)} {write : μ → List Char}
    {m : μ} {p : Placeholder} (hwrite : write m = p.chars)
    (hread : read (.named p.name.toList) = .ok (.mark m)) : ReadsBack read write m := by
  obtain ⟨hne, hname⟩ := p.name_word
  exact ⟨⟨p.name.toList, hwrite⟩, _, hwrite ▸ lexemes_named hne hname, hread⟩

lemma readsBack_inExpression (p : Placeholder) :
    ReadsBack Lexeme.inExpression Placeholder.chars p := by
  refine readsBack_of_named rfl ?_
  rw [Lexeme.inExpression, readPlaceholder_name]
  rfl

lemma readsBack_inFunction {p : Placeholder} (hp : p ≠ .component) :
    ReadsBack Lexeme.inFunction Placeholder.chars p := by
  refine readsBack_of_named rfl ?_
  have hread : Lexeme.inFunction (.named p.name.toList) =
      readPlaceholder p.name.toList >>= fun p =>
        if p.isPerComponent then .error (.outsideExpansion p) else .ok (.mark p) := rfl
  rw [hread, readPlaceholder_name]
  exact if_neg (Bool.eq_false_iff.1 (Placeholder.isPerComponent_eq_false_iff.2 hp))

lemma readsBack_hole {p : Placeholder} (hp : p ≠ .component) :
    ReadsBack Lexeme.inTemplate Mark.chars (.hole p) := by
  refine readsBack_of_named rfl ?_
  have hread : Lexeme.inTemplate (.named p.name.toList) =
      readPlaceholder p.name.toList >>= fun p =>
        if p.isPerComponent then .error (.outsideExpansion p) else .ok (.mark (.hole p)) := rfl
  rw [hread, readPlaceholder_name]
  exact if_neg (Bool.eq_false_iff.1 (Placeholder.isPerComponent_eq_false_iff.2 hp))

/-- **A phrase that can be written.**  No text is empty or has a brace in it, and no two texts are
neighbours. -/
structure Phrase.Writable (phrase : Phrase) : Prop where
  texts : ∀ cs, .text cs ∈ phrase → cs ≠ [] ∧ '{' ∉ cs ∧ '}' ∉ cs
  apart : phrase.IsChain fun p q => ¬(p.isText = true ∧ q.isText = true)

/-- **An expansion that can be written.**  The expression is not empty, only a chain has a function,
and neither a colon nor the component stands in it.  Expansions inside of expansions are left out by
the types. -/
structure WritableExpansion (join : Join) (func expr : Phrase) : Prop where
  expr_ne_nil : expr ≠ []
  func_eq_nil : join ≠ .chain → func = []
  writable_expr : Phrase.Writable expr
  writable_func : Phrase.Writable func
  colon : ∀ cs, .text cs ∈ func → ':' ∉ cs
  component : ∀ p, .mark p ∈ func → p ≠ .component

namespace Phrase.Writable

variable {phrase : Phrase}

lemma tidy (h : phrase.Writable) : Piece.Tidy phrase := by
  refine ⟨fun cs hcs => ⟨(h.texts cs hcs).1, fun rest hrest => ?_⟩, h.apart⟩
  exact absurd (hrest.subset List.mem_cons_self) (h.texts cs hcs).2.1

lemma balanced (h : phrase.Writable) : Balanced phrase.chars := by
  have hpiece : ∀ p ∈ phrase, Balanced (p.chars Placeholder.chars) := by
    rintro (cs | p) hp
    · obtain ⟨-, hopen, hclose⟩ := h.texts cs hp
      exact balanced_of_notMem hopen hclose
    · exact balanced_placeholder p
  clear h
  induction phrase with
  | nil => exact balanced_nil
  | cons p phrase ih =>
      obtain ⟨hp, hphrase⟩ := List.forall_mem_cons.1 hpiece
      exact hp.append (ih hphrase)

lemma ofChars_expression (h : phrase.Writable) :
    Piece.ofChars Lexeme.inExpression phrase.chars = .ok phrase :=
  ofChars_written (fun _ => rfl) (fun _ hp => by cases hp) h.tidy fun p _ =>
    readsBack_inExpression p

lemma ofChars_function (h : phrase.Writable) (hcomponent : ∀ p, .mark p ∈ phrase → p ≠ .component) :
    Piece.ofChars Lexeme.inFunction phrase.chars = .ok phrase :=
  ofChars_written (fun _ => rfl) (fun _ hp => by cases hp) h.tidy fun p hp =>
    readsBack_inFunction (hcomponent p hp)

end Phrase.Writable

lemma Join.name_plain (j : Join) :
    ':' ∉ j.name.toList ∧ '{' ∉ j.name.toList ∧ '}' ∉ j.name.toList := by
  cases j <;> decide

namespace WritableExpansion

variable {j : Join} {func expr : Phrase}

lemma colon_notMem_func (h : WritableExpansion j func expr) : ':' ∉ func.chars := by
  intro hmem
  obtain ⟨p, hp, hmem⟩ := List.mem_flatMap.1 hmem
  cases p with
  | text cs => exact h.colon cs hp hmem
  | mark p =>
      have hname : ':' ∉ p.chars := by cases p <;> decide
      exact hname hmem

lemma balanced (h : WritableExpansion j func expr) : Balanced (expansionChars j func expr) := by
  have hcolon {cs : List Char} (hcs : Balanced cs) : Balanced (':' :: cs) :=
    hcs.cons (by decide) (by decide)
  have hname : Balanced j.name.toList := balanced_of_notMem j.name_plain.2.1 j.name_plain.2.2
  by_cases hchain : j = .chain
  · subst hchain
    exact (hname.append (hcolon h.writable_func.balanced)).append (hcolon h.writable_expr.balanced)
  · rw [expansionChars_of_ne hchain]
    exact hname.append (hcolon h.writable_expr.balanced)

lemma readExpansion_eq (h : WritableExpansion j func expr) :
    readExpansion (expansionChars j func expr) = .ok (.expand j func expr) := by
  have hword (body : List Char) : Text.splitAtFirst ':' (j.name.toList ++ ':' :: body) =
      some (j.name.toList, body) := Text.splitAtFirst_eq_some_iff.2 ⟨j.name_plain.1, rfl⟩
  have hfunction : Text.splitAtFirst ':' (func.chars ++ ':' :: expr.chars) =
      some (func.chars, expr.chars) := Text.splitAtFirst_eq_some_iff.2 ⟨h.colon_notMem_func, rfl⟩
  have hempty : expr.isEmpty = false := List.isEmpty_eq_false_iff.2 h.expr_ne_nil
  by_cases hchain : j = .chain
  · subst hchain
    rw [expansionChars, List.append_assoc, List.cons_append, readExpansion, hword]
    dsimp only
    rw [String.ofList_toList, Join.ofName?_name]
    dsimp only
    rw [hfunction]
    dsimp only
    rw [h.writable_func.ofChars_function h.component, h.writable_expr.ofChars_expression]
    exact if_neg (Bool.eq_false_iff.1 hempty)
  · rw [expansionChars_of_ne hchain, h.func_eq_nil hchain, readExpansion, hword]
    dsimp only
    rw [String.ofList_toList, Join.ofName?_name, h.writable_expr.ofChars_expression]
    cases j with
    | chain => exact absurd rfl hchain
    | _ => exact if_neg (Bool.eq_false_iff.1 hempty)

end WritableExpansion

/-! ## Whole templates -/

/-- Whether a mark of a template can be written: a placeholder outside of expansions is not the
component. -/
def Mark.Writable : Mark → Prop
  | hole p => p ≠ .component
  | expand j func expr => WritableExpansion j func expr

/-- **A template that can be written.**  No text is empty, no two texts are neighbours, no brace in
a text opens a mark within the text, and the marks can be written. -/
structure Template.Writable (t : Template) : Prop where
  tidy : Piece.Tidy t.pieces
  marks : ∀ m, .mark m ∈ t.pieces → m.Writable

lemma Mark.Writable.readsBack {m : Mark} (h : m.Writable) :
    ReadsBack Lexeme.inTemplate Mark.chars m := by
  cases m with
  | hole p => exact readsBack_hole h
  | expand j func expr =>
      refine ⟨⟨'@' :: expansionChars j func expr, rfl⟩, _, lexemes_group h.balanced, ?_⟩
      rw [Lexeme.inTemplate, h.readExpansion_eq]
      rfl

namespace Template

/-- **Writing is undone by reading.**  A template that can be written is read from its source. -/
theorem parse_source {t : Template} (h : t.Writable) : parse t.op t.source = .ok t := by
  have hpieces : readPieces t.source = .ok t.pieces := by
    rw [readPieces, source, String.toList_ofList]
    exact ofChars_written (fun _ => rfl) (fun _ hp => by cases hp) h.tidy fun m hm =>
      (h.marks m hm).readsBack
  exact parse_eq_ok_iff.2 ⟨rfl, hpieces⟩

/-- A template whose texts have braces that touch marks, with nothing or a name between. -/
def touching : Template :=
  ⟨"least",
    [ .text ['{', 'a', 'b'],
      .mark (.expand .chain [.text ['m', 'i', 'n', '_'], .mark .element]
        [.text ['a', '.'], .mark .component, .text [':']]),
      .text ['}', ' ', '{'], .mark (.hole .operand), .text ['{', 'c'] ]⟩

/-- Braces that touch marks stay in their texts. -/
theorem parse_source_touching :
    touching.source = "\x7bab{@chain:min_{T}:a.{c}:}\x7d \x7b{V}\x7bc" ∧ touching.Writable ∧
      parse "least" "\x7bab{@chain:min_{T}:a.{c}:}\x7d \x7b{V}\x7bc" = .ok touching := by
  have hsource : touching.source = "\x7bab{@chain:min_{T}:a.{c}:}\x7d \x7b{V}\x7bc" := by
    decide
  have hexpansion : WritableExpansion .chain [.text ['m', 'i', 'n', '_'], .mark .element]
      [.text ['a', '.'], .mark .component, .text [':']] := by
    refine ⟨by decide, by decide, ⟨?_, by decide⟩, ⟨?_, by decide⟩, ?_, ?_⟩ <;>
      simp +contextual
  have hwritable : touching.Writable := by
    refine ⟨⟨?_, by decide⟩, ?_⟩
    · simp [touching]
      decide
    · simp [touching, Mark.Writable, hexpansion]
  exact ⟨hsource, hwritable, hsource ▸ parse_source hwritable⟩

end Template

end MathHeader
