import MathHeader.Preprocessor.Value
import MathHeader.Proofs.Preprocessor.Expression
import MathHeader.Proofs.Text.Words
import Mathlib.Data.List.Forall2

/-!
# Reading expressions

How a text is read must not depend on where it stands, or the texts of terms could not be put
together.  `Spells` says that a text adds certain parts to those in front of it, whatever is in
front and whichever parentheses are open; behind it may stand anything that does not go on with its
last word.

`Parses` adds what the parts come to.  It follows the levels of the grammar: a text that is read
with the operators `os` is read the same with one more operator that binds less
(`Parses.loosen`), several such texts are joined by that operator (`Parses.join`), and parentheses
lead back to a text without operators (`Parses.parenthesized`).
-/

namespace MathHeader.Preprocessor

open Text (toDigits_ne_nil)

/-! ## The scan -/

/-- What stands after a text when the last word of the text does not go on. -/
def Separated (rest : List Char) : Prop :=
  ∀ c ∈ rest.head?, isWordChar c = false

lemma tokensFrom_eq (skip : Nat) (cs : List Char) :
    tokensFrom skip cs = tokens (cs.drop skip) := by
  induction skip generalizing cs with
  | zero => rfl
  | succ skip ih =>
      cases cs with
      | nil => rfl
      | cons c cs => rw [tokensFrom, ih, List.drop_succ_cons]

/-- After the token at the front the scan goes on behind it. -/
lemma tokens_cons (c : Char) (cs : List Char) :
    tokens (c :: cs) = (Token.atFront c cs).1.toList ++
      tokens (cs.drop ((Token.atFront c cs).2 - 1)) := by
  rw [tokens, tokensFrom, tokensFrom_eq]

lemma tokens_word {word rest : List Char} (hne : word ≠ [])
    (hword : ∀ c ∈ word, isWordChar c = true) (hrest : Separated rest) :
    tokens (word ++ rest) = Token.ofWord word :: tokens rest := by
  obtain ⟨c, cs, rfl⟩ := List.exists_cons_of_ne_nil hne
  rw [List.forall_mem_cons] at hword
  rw [List.cons_append, tokens_cons, Token.atFront, if_pos hword.1,
    takeWhile_word_append hword.2 hrest]
  simp

/-- What stands between the operands of an operator. -/
def Operator.separator : Operator → String
  | or => " || "
  | and => " && "
  | bitOr => " | "
  | equal => " == "
  | shift => " << "

lemma tokens_separator (o : Operator) (cs : List Char) :
    tokens (o.separator.toList ++ cs) = .operator o :: tokens cs := by
  cases o <;> rfl

lemma tokens_opening (cs : List Char) : tokens ('(' :: cs) = .opening :: tokens cs := rfl

lemma tokens_closing (cs : List Char) : tokens (')' :: cs) = .closing :: tokens cs := rfl

lemma tokens_minus (cs : List Char) : tokens ('-' :: cs) = .minus :: tokens cs := rfl

lemma tokens_not {c : Char} (hc : c ≠ '=') (cs : List Char) :
    tokens ('!' :: c :: cs) = .not :: tokens (c :: cs) := by
  have hfront : Token.atFront '!' (c :: cs) = (some .not, 1) := by
    rw [Token.atFront, if_neg (by decide), Token.ofSign]
    simpa using hc
  rw [tokens_cons, hfront]
  rfl

/-! ## Words -/

lemma ofWord_name {name : String} (h : isIdentifier name = true) (hne : name ≠ "defined") :
    Token.ofWord name.toList = .name name := by
  rw [Token.ofWord, if_neg (mt String.toList_inj.1 hne), if_pos (isWord_of_isIdentifier h),
    String.ofList_toList]

lemma ofWord_literal {d : Nat} (hd : d < 10) {cs : List Char} {n : Nat}
    (hliteral : literal? (d.digitChar :: cs) = some n) :
    Token.ofWord (d.digitChar :: cs) = .number n := by
  have hstart : ∀ d < 10, isWordStart d.digitChar = false := by decide
  have hword : isWord (d.digitChar :: cs) = false := by
    rw [isWord, hstart d hd, Bool.false_and]
  have hdefined : d.digitChar :: cs ≠ "defined".toList := by
    intro heq
    rw [heq] at hword
    exact absurd hword (by decide)
  rw [Token.ofWord, if_neg hdefined, if_neg (by simp [hword]), hliteral]

lemma isWordChar_of_mem_toDigits {b : Nat} (hlow : 1 < b) (hhigh : b ≤ 16) {n : Nat} :
    ∀ c ∈ Nat.toDigits b n, isWordChar c = true := by
  have hall : ∀ d < 16, isWordChar d.digitChar = true := by decide
  intro c hc
  obtain ⟨d, hd, rfl⟩ := Text.exists_digit_of_mem_toDigits hlow hc
  exact hall d (by omega)

lemma literal?_toDigits (n : Nat) : literal? (Nat.toDigits 10 n) = some n := by
  rcases Nat.eq_zero_or_pos n with rfl | hpos
  · rfl
  · have hnumeral : Text.numeral? 10 (Nat.toDigits 10 n) = some n :=
      Text.numeral?_toDigits (by decide) (by decide) n
    have hhead := Text.head?_toDigits_ne (b := 10) (by decide) hpos
    obtain ⟨c, cs, hdigits⟩ := List.exists_cons_of_ne_nil (toDigits_ne_nil 10 n)
    rw [hdigits] at hhead hnumeral ⊢
    have hzero (tail : List Char) : c :: cs ≠ '0' :: tail := by
      rintro heq
      rw [heq] at hhead
      exact hhead rfl
    rw [literal?, hnumeral]
    · exact fun digits => hzero ('x' :: digits)
    · exact hzero []
    · exact hzero

lemma tokens_decimal (n : Nat) {rest : List Char} (hrest : Separated rest) :
    tokens (Nat.toDigits 10 n ++ rest) = .number n :: tokens rest := by
  have hword := isWordChar_of_mem_toDigits (b := 10) (n := n) (by decide) (by decide)
  have hliteral := literal?_toDigits n
  rw [tokens_word (toDigits_ne_nil 10 n) hword hrest]
  obtain ⟨c, cs, hdigits⟩ := List.exists_cons_of_ne_nil (toDigits_ne_nil 10 n)
  have hmem : c ∈ Nat.toDigits 10 n := by simp [hdigits]
  obtain ⟨d, hd, rfl⟩ := Text.exists_digit_of_mem_toDigits (by decide) hmem
  rw [hdigits] at hliteral ⊢
  rw [ofWord_literal hd hliteral]

/-- A number in hexadecimal makes one token. -/
lemma tokens_hex (n : Nat) {rest : List Char} (hrest : Separated rest) :
    tokens ('0' :: 'x' :: Nat.toDigits 16 n ++ rest) = .number n :: tokens rest := by
  have hdigits := isWordChar_of_mem_toDigits (b := 16) (n := n) (by decide) (by decide)
  have hword : ∀ c ∈ '0' :: 'x' :: Nat.toDigits 16 n, isWordChar c = true := by
    simpa [isWordChar, Char.isAlphanum] using hdigits
  have hliteral : literal? ('0' :: 'x' :: Nat.toDigits 16 n) = some n :=
    Text.numeral?_toDigits (by decide) (by decide) n
  rw [tokens_word (List.cons_ne_nil _ _) hword hrest]
  exact congrArg (· :: tokens rest) (ofWord_literal (d := 0) (by decide) hliteral)

/-! ## Texts in their places -/

/-- **Spelling.**  Wherever a text stands that is not gone on with, reading it adds the parts to
those in front. -/
def Spells (text : String) (parts : List Part) : Prop :=
  ∀ front outer rest, Separated rest →
    readFrom front outer (tokens (text.toList ++ rest)) =
      readFrom (front ++ parts) outer (tokens rest)

lemma tokens_of_isWord {word rest : List Char} (h : isWord word = true) (hrest : Separated rest) :
    tokens (word ++ rest) = Token.ofWord word :: tokens rest :=
  tokens_word (ne_nil_of_isWord h) (List.all_eq_true.1 (all_isWordChar_of_isWord h)) hrest

lemma tokens_name {name : String} (h : isIdentifier name = true) (hne : name ≠ "defined")
    {rest : List Char} (hrest : Separated rest) :
    tokens (name.toList ++ rest) = .name name :: tokens rest := by
  rw [tokens_of_isWord (isWord_of_isIdentifier h) hrest, ofWord_name h hne]

lemma spells_name {name : String} (h : isIdentifier name = true) (hne : name ≠ "defined") :
    Spells name [.operand (.named name)] := by
  intro front outer rest hrest
  rw [tokens_name h hne hrest, readFrom_name]

lemma toList_parenthesized (text : String) :
    (parenthesized text).toList = '(' :: (text.toList ++ [')']) := by
  simp [parenthesized]

lemma tokens_parenthesized (text : String) (rest : List Char) :
    tokens ((parenthesized text).toList ++ rest) =
      .opening :: tokens (text.toList ++ ')' :: rest) := by
  rw [toList_parenthesized, List.cons_append, List.append_assoc, tokens_opening]
  rfl

lemma spells_defined {name : String} (h : isIdentifier name = true) (hne : name ≠ "defined") :
    Spells ("defined" ++ parenthesized name) [.operand (.defined name)] := by
  intro front outer rest hrest
  have hopening (cs : List Char) : Separated ('(' :: cs) := by simp [Separated, isWordChar]
  have hclosing : Separated (')' :: rest) := by simp [Separated, isWordChar]
  have hdefined : Token.ofWord "defined".toList = .defined := rfl
  rw [String.toList_append, List.append_assoc, toList_parenthesized, List.cons_append,
    tokens_of_isWord (by decide) (hopening _), hdefined, ← List.cons_append,
    ← toList_parenthesized, tokens_parenthesized, tokens_name h hne hclosing, tokens_closing,
    readFrom_defined]

lemma spells_nat (n : Nat) : Spells (toString n) [.operand (.number n)] := by
  intro front outer rest hrest
  rw [Nat.toString_eq_ofList_toDigits, String.toList_ofList, tokens_decimal n hrest,
    readFrom_number]

lemma spells_int (i : Int) : Spells (toString i) [.operand (.number i)] := by
  rw [Int.toString_eq_repr, Int.repr_eq_if]
  split
  next hpos =>
    have hnat := spells_nat i.toNat
    rwa [Int.toNat_of_nonneg hpos] at hnat
  next hneg =>
    intro front outer rest hrest
    have hvalue : -((-i).toNat : Int) = i := by omega
    have htext : ("-" ++ (-i).toNat.repr).toList = '-' :: Nat.toDigits 10 (-i).toNat := by
      simp [Nat.repr_eq_ofList_toDigits]
    rw [htext, List.cons_append, tokens_minus, tokens_decimal _ hrest, readFrom_negative, hvalue]

lemma spells_hex (n : Nat) : Spells ("0x" ++ Text.hexDigits n) [.operand (.number n)] := by
  intro front outer rest hrest
  have htext : ("0x" ++ Text.hexDigits n).toList = '0' :: 'x' :: Nat.toDigits 16 n := by
    simp [Text.hexDigits]
  rw [htext, tokens_hex n hrest, readFrom_number]

/-- A negation sign in front of a text, which must not start with an equality sign. -/
lemma Spells.not {text : String} {parts : List Part} (h : Spells text parts) {c : Char}
    {cs : List Char} (htext : text.toList = c :: cs) (hc : c ≠ '=') :
    Spells ("!" ++ text) (.not :: parts) := by
  intro front outer rest hrest
  have hsign : tokens (("!" ++ text).toList ++ rest) = .not :: tokens (text.toList ++ rest) := by
    rw [String.toList_append, htext]
    exact tokens_not hc (cs ++ rest)
  rw [hsign, readFrom_not, h (front ++ [Part.not]) outer rest hrest, List.append_assoc]
  rfl

lemma Spells.infix {left right : String} {lefts rights : List Part} (hleft : Spells left lefts)
    (hright : Spells right rights) (o : Operator) :
    Spells (left ++ o.separator ++ right) (lefts ++ .operator o :: rights) := by
  intro front outer rest hrest
  have hblank : Separated (o.separator.toList ++ (right.toList ++ rest)) := by
    cases o <;> simp [Separated, Operator.separator, isWordChar]
  rw [String.toList_append, String.toList_append, List.append_assoc, List.append_assoc,
    hleft front outer _ hblank, tokens_separator, readFrom_operator,
    hright (front ++ lefts ++ [Part.operator o]) outer rest hrest]
  simp

lemma spells_intercalate (o : Operator) {texts : List String} {partss : List (List Part)}
    (h : List.Forall₂ Spells texts partss) (hne : texts ≠ []) :
    Spells (o.separator.intercalate texts) ([.operator o].intercalate partss) := by
  induction h with
  | nil => exact absurd rfl hne
  | cons htext htexts ih =>
      cases htexts with
      | nil => simpa using htext
      | cons htext' htexts' =>
          rw [String.intercalate_cons_cons, List.intercalate_cons_cons]
          have hinfix := htext.infix (ih (List.cons_ne_nil _ _)) o
          simpa using hinfix

lemma Spells.parenthesized {text : String} {parts : List Part} {e : Expression}
    (h : Spells text parts) (hcombine : combine? precedence parts = some e) :
    Spells (parenthesized text) [.operand e] := by
  intro front outer rest hrest
  have hclosing : Separated (')' :: rest) := by simp [Separated, isWordChar]
  rw [tokens_parenthesized, readFrom_opening, h [] (front :: outer) _ hclosing, tokens_closing,
    List.nil_append, readFrom_closing parts outer _ hcombine]

/-! ## Texts at a level of precedence -/

/-- **Parsing.**  A text is read as an expression in which, outside of parentheses, only the given
operators stand. -/
def Parses (os : List Operator) (text : String) (e : Expression) : Prop :=
  ∃ parts, Spells text parts ∧ combine? os parts = some e ∧ ∀ o, .operator o ∈ parts → o ∈ os

lemma Parses.of_operand {text : String} {e : Expression} (h : Spells text [.operand e]) :
    Parses [] text e :=
  ⟨[.operand e], h, rfl, by simp⟩

/-- What is read at the lowest level is read as a whole. -/
lemma Parses.read? {text : String} {e : Expression} (h : Parses precedence text e) :
    read? text = some e := by
  obtain ⟨parts, hspells, hcombine, -⟩ := h
  have hread := hspells [] [] [] (by simp [Separated])
  rw [List.append_nil, List.nil_append] at hread
  rw [Preprocessor.read?, hread, ← hcombine]
  rfl

lemma Parses.parenthesized {text : String} {e : Expression} (h : Parses precedence text e) :
    Parses [] (parenthesized text) e := by
  obtain ⟨parts, hspells, hcombine, -⟩ := h
  exact ⟨[.operand e], hspells.parenthesized hcombine, rfl, by simp⟩

lemma Parses.not {text : String} {e : Expression} (h : Parses [] text e) {c : Char}
    {cs : List Char} (htext : text.toList = c :: cs) (hc : c ≠ '=') :
    Parses [] ("!" ++ text) (.not e) := by
  obtain ⟨parts, hspells, hcombine, hoperators⟩ := h
  refine ⟨.not :: parts, hspells.not htext hc, ?_, fun o ho => hoperators o (by simpa using ho)⟩
  rw [combine?] at hcombine ⊢
  rw [operand?, hcombine]
  rfl

/-- What is read without an operator is read the same where it could stand. -/
lemma Parses.loosen {os : List Operator} {text : String} {e : Expression} (h : Parses os text e)
    {o : Operator} (ho : o ∉ os) : Parses (o :: os) text e := by
  obtain ⟨parts, hspells, hcombine, hoperators⟩ := h
  refine ⟨parts, hspells, ?_, fun o' ho' => List.mem_cons_of_mem o (hoperators o' ho')⟩
  rw [combine?, List.splitOn_eq_singleton (mt (hoperators o) ho)]
  simp [hcombine, joined?]

lemma mem_intercalate {α : Type} {x separator : α} {ls : List (List α)}
    (h : x ∈ [separator].intercalate ls) : x = separator ∨ ∃ l ∈ ls, x ∈ l := by
  induction ls with
  | nil => cases h
  | cons l ls ih =>
      cases ls with
      | nil => exact .inr ⟨l, List.mem_singleton_self l, by simpa using h⟩
      | cons l' ls =>
          rw [List.intercalate_cons_cons, List.mem_append, List.mem_append,
            List.mem_singleton] at h
          rcases h with (hl | hsep) | hls
          · exact .inr ⟨l, List.mem_cons_self, hl⟩
          · exact .inl hsep
          · exact (ih hls).imp_right fun ⟨l'', hl'', hx⟩ => ⟨l'', List.mem_cons_of_mem l hl'', hx⟩

/-- **Groups.**  Texts with an operator between them are read as the operator between what they are
read as. -/
lemma Parses.join {os : List Operator} {o : Operator} (ho : o ∉ os) {texts : List String}
    {e : Expression} {es : List Expression} (h : List.Forall₂ (Parses os) texts (e :: es)) :
    Parses (o :: os) (o.separator.intercalate texts) (es.foldl (.binary o) e) := by
  have hparts : ∃ partss, List.Forall₂ Spells texts partss ∧
      partss.mapM (combine? os) = some (e :: es) ∧
      ∀ parts ∈ partss, ∀ o, .operator o ∈ parts → o ∈ os := by
    generalize e :: es = all at h
    induction h with
    | nil => exact ⟨[], .nil, rfl, by simp⟩
    | cons hparses _ ih =>
        obtain ⟨parts, hspells, hcombine, hoperators⟩ := hparses
        obtain ⟨partss, hspellss, hcombines, hoperatorss⟩ := ih
        refine ⟨parts :: partss, .cons hspells hspellss, ?_,
          List.forall_mem_cons.2 ⟨hoperators, hoperatorss⟩⟩
        rw [List.mapM_cons, hcombine, hcombines]
        rfl
  obtain ⟨partss, hspells, hcombine, hoperators⟩ := hparts
  have hne : texts ≠ [] := by
    rintro rfl
    cases h
  have hne' : partss ≠ [] := by
    rintro rfl
    cases hspells
    exact hne rfl
  -- The parts do not contain the operator, so splitting at it gives them back.
  have hsplit : ([.operator o].intercalate partss).splitOn (.operator o) = partss :=
    List.splitOn_intercalate _ (fun parts hparts => mt (hoperators parts hparts o) ho) hne'
  refine ⟨[.operator o].intercalate partss, spells_intercalate o hspells hne, ?_, ?_⟩
  · rw [combine?, hsplit, hcombine]
    rfl
  · intro o' ho'
    rcases mem_intercalate ho' with heq | ⟨parts, hparts, hmem⟩
    · rw [Part.operator.inj heq]
      exact List.mem_cons_self
    · exact List.mem_cons_of_mem o (hoperators parts hparts o' hmem)

end MathHeader.Preprocessor
