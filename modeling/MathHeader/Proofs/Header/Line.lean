import MathHeader.Proofs.Names.Token
import MathHeader.Proofs.Text.OneLine
import Mathlib.Data.List.TakeWhile

/-!
# Reading the lines of a header

What a header declares can be read off its lines again, without knowing how they came about.  Three
kinds of lines introduce a name: `#define NAME`, `typedef … NAME;` and `struct NAME {`.  A line that
starts with the specifier defines a function.

`Shows` says what a list of lines shows: the names that its lines introduce and the functions that
they define, when no line has a newline in it.  It is made for putting lists together, so that a
section is read part by part.  Most lines are *inert*: they start neither with a word nor with a
definition, and whatever follows they show nothing.
-/

namespace MathHeader

open Text (OneLine stripped withoutReturn)

/-! ## What a line shows -/

/-- What follows a given front of a line. -/
def after? (front line : List Char) : Option (List Char) :=
  if front.isPrefixOf line then some (line.drop front.length) else none

/-- The characters as a word, unless there are none. -/
def word? (cs : List Char) : Option String :=
  if cs.isEmpty then none else some (String.ofList cs)

/-- The name in a line `#define NAME`, which may go on with anything that is no part of a word. -/
def definedName? (line : List Char) : Option String := do
  let rest ← after? "#define ".toList line
  word? (rest.takeWhile isWordChar)

/-- The last word in a line `typedef … NAME;`. -/
def aliasName? (line : List Char) : Option String := do
  let rest ← after? "typedef ".toList line
  let some ';' := rest.getLast? | none
  word? (rest.dropLast.reverse.takeWhile isWordChar).reverse

/-- The tag in a line `struct NAME` that opens a brace. -/
def structName? (line : List Char) : Option String := do
  let rest ← after? "struct ".toList line
  let tag := rest.takeWhile isWordChar
  let _ ← after? " \x7b".toList (rest.drop tag.length)
  word? tag

/-- The name of a macro, type or structure that a line introduces. -/
def introducedName? (line : List Char) : Option String :=
  (definedName? line).or ((aliasName? line).or (structName? line))

/-- The name of the function that a line defines: after the specifier and a space it is what stands
between the next space and the first parenthesis. -/
def functionName? (specifier : String) (line : List Char) : Option String := do
  let rest ← after? (specifier.toList ++ [' ']) line
  pure (String.ofList (((rest.dropWhile (· != ' ')).drop 1).takeWhile (· != '(')))

/-! ## Fronts -/

lemma bne_of_notMem {cs : List Char} {c d : Char} (h : d ∉ cs) (hc : c ∈ cs) :
    (c != d) = true := by
  rw [bne_iff_ne]
  rintro rfl
  exact h hc

lemma after?_append (front rest : List Char) : after? front (front ++ rest) = some rest := by
  have hprefix : front.isPrefixOf (front ++ rest) = true :=
    List.isPrefixOf_iff_prefix.2 (List.prefix_append front rest)
  rw [after?, if_pos hprefix, List.drop_left]

lemma after?_word (word rest : List Char) :
    after? (word ++ [' ']) (word ++ ' ' :: rest) = some rest := by
  rw [List.append_cons word ' ' rest, after?_append]

lemma eq_append_of_after? {front line rest : List Char} (h : after? front line = some rest) :
    line = front ++ rest := by
  unfold after? at h
  split at h
  next hprefix =>
    obtain ⟨rest', rfl⟩ := List.isPrefixOf_iff_prefix.1 hprefix
    rw [List.drop_left] at h
    rw [Option.some.inj h]
  next => cases h

lemma after?_eq_none {front line : List Char} (h : ∀ rest, line ≠ front ++ rest) :
    after? front line = none := by
  cases hafter : after? front line with
  | none => rfl
  | some rest => exact absurd (eq_append_of_after? hafter) (h rest)

/-- A line that starts with another character has another front. -/
lemma after?_eq_none_of_head {c d : Char} {front line : List Char} (h : d ≠ c) :
    after? (c :: front) (d :: line) = none :=
  after?_eq_none fun _ heq => h (List.cons.inj heq).1

/-- The word in front of the first space decides what a line can start with. -/
lemma after?_eq_none_of_word {word word' : List Char} (hword : ' ' ∉ word) (hword' : ' ' ∉ word')
    (hne : word' ≠ word) (rest : List Char) :
    after? (word ++ [' ']) (word' ++ ' ' :: rest) = none := by
  have hfront {w : List Char} (hw : ' ' ∉ w) (cs : List Char) :
      (w ++ ' ' :: cs).takeWhile (· != ' ') = w :=
    takeWhile_append_cons (fun c hc => bne_of_notMem hw hc) (by decide) cs
  refine after?_eq_none fun rest' heq => hne ?_
  rw [List.append_assoc, List.singleton_append] at heq
  rw [← hfront hword' rest, heq, hfront hword]

/-! ## Words -/

lemma word?_of_isWord {name : String} (h : isWord name.toList = true) :
    word? name.toList = some name := by
  rw [word?, if_neg (by simpa using ne_nil_of_isWord h), String.ofList_toList]

lemma structName?_of_isWord {tag : String} (h : isWord tag.toList = true) :
    structName? ("struct ".toList ++ (tag.toList ++ [' ', '\x7b'])) = some tag := by
  have htake : (tag.toList ++ [' ', '\x7b']).takeWhile isWordChar = tag.toList :=
    takeWhile_append_cons (List.all_eq_true.1 (all_isWordChar_of_isWord h)) (by decide) _
  have hbrace : after? " \x7b".toList [' ', '\x7b'] = some [] := after?_append _ []
  rw [structName?, after?_append]
  simp only [Option.bind_eq_bind, Option.bind_some, htake, List.drop_left, hbrace,
    word?_of_isWord h]

lemma oneLine_of_isWord {name : String} (h : isWord name.toList = true) : OneLine name :=
  notMem_of_isWord h (by decide)

/-! ## Carriage returns -/

lemma withoutReturn_eq_self {line : List Char} (h : line.getLast? ≠ some '\r') :
    withoutReturn line = line := by
  unfold withoutReturn
  split
  next hlast => exact absurd hlast h
  next => rfl

lemma withoutReturn_concat {front : List Char} {c : Char} (hc : c ≠ '\r') :
    withoutReturn (front ++ [c]) = front ++ [c] := by
  refine withoutReturn_eq_self fun h => hc ?_
  rw [List.getLast?_concat] at h
  exact Option.some.inj h

/-- Only the end of a line can lose a carriage return. -/
lemma withoutReturn_append {front : List Char} (h : front.getLast? ≠ some '\r')
    (rest : List Char) : withoutReturn (front ++ rest) = front ++ withoutReturn rest := by
  by_cases hrest : rest = []
  · rw [hrest, List.append_nil, withoutReturn_eq_self h]
    exact (List.append_nil front).symm
  · unfold withoutReturn
    rw [List.getLast?_append_of_ne_nil front hrest, List.dropLast_append_of_ne_nil hrest]
    split <;> rfl

/-! ## Lines that show nothing -/

/-- Whether a line starts neither with a word nor with a definition. -/
def isInert : List Char → Bool
  | '#' :: c :: _ => c != 'd'
  | c :: _ => !isWordStart c
  | [] => true

/-- A line that loses its end stays inert. -/
lemma isInert_of_prefix {front line : List Char} (h : front <+: line)
    (hline : isInert line = true) : isInert front = true := by
  obtain ⟨rest, rfl⟩ := h
  match front with
  | [] => rfl
  | [c] =>
      by_cases hc : c = '#'
      · rw [hc]
        decide
      · simp_all [isInert]
  | c :: d :: front =>
      by_cases hc : c = '#'
      · simp_all [isInert]
      · simp_all [isInert]

lemma introducedName?_of_isInert {line : List Char} (h : isInert line = true) :
    introducedName? line = none := by
  have hnone {front : List Char} (hfront : ∀ rest, isInert (front ++ rest) = false) :
      after? front line = none := by
    refine after?_eq_none fun rest heq => ?_
    rw [heq, hfront rest] at h
    cases h
  have hdefine : after? "#define ".toList line = none := hnone fun rest => rfl
  have htypedef : after? "typedef ".toList line = none := hnone fun rest => rfl
  have hstruct : after? "struct ".toList line = none := hnone fun rest => rfl
  rw [introducedName?, definedName?, aliasName?, structName?, hdefine, htypedef, hstruct]
  rfl

lemma structName?_of_isInert {line : List Char} (h : isInert line = true) :
    structName? line = none := by
  have hnone := introducedName?_of_isInert h
  rw [introducedName?, Option.or_eq_none_iff, Option.or_eq_none_iff] at hnone
  exact hnone.2.2

lemma isWordStart_of_isInert {line : List Char} (h : isInert line = true) :
    ∀ c, line.head? = some c → isWordStart c = false := by
  intro c hc
  obtain ⟨rest, rfl⟩ := List.head?_eq_some_iff.1 hc
  have hfront : isInert [c] = true := isInert_of_prefix ⟨rest, rfl⟩ h
  simpa [isInert] using hfront

lemma functionName?_of_head {specifier : String} (hspecifier : isIdentifier specifier = true)
    {line : List Char} (h : ∀ c, line.head? = some c → isWordStart c = false) :
    functionName? specifier line = none := by
  have hword := isWord_of_isIdentifier hspecifier
  have hafter : after? (specifier.toList ++ [' ']) line = none := by
    refine after?_eq_none fun rest heq => ?_
    cases hchars : specifier.toList with
    | nil =>
        rw [hchars] at hword
        cases hword
    | cons c cs =>
        rw [hchars, isWord, Bool.and_eq_true] at hword
        have hstart := h c (by rw [heq, hchars]; rfl)
        rw [hword.1] at hstart
        cases hstart
  rw [functionName?, hafter]
  rfl

/-! ## What several lines show -/

/-- **What a list of lines shows.**  The lines have no newlines in them, they introduce the names
`introduced`, and behind the specifier they define the functions `functions`, both in order. -/
structure Shows (specifier : String) (ls introduced functions : List String) : Prop where
  oneLine : ∀ l ∈ ls, OneLine l
  introduced_eq : ls.filterMap (fun l => introducedName? (stripped l)) = introduced
  functions_eq : ls.filterMap (fun l => functionName? specifier (stripped l)) = functions

namespace Shows

variable {specifier : String}

lemma nil : Shows specifier [] [] [] :=
  ⟨fun _ h => absurd h List.not_mem_nil, rfl, rfl⟩

lemma single {l : String} {introduced function : Option String} (hline : OneLine l)
    (hintroduced : introducedName? (stripped l) = introduced)
    (hfunction : functionName? specifier (stripped l) = function) :
    Shows specifier [l] introduced.toList function.toList := by
  refine ⟨List.forall_mem_singleton.2 hline, ?_, ?_⟩
  · cases introduced <;> simp [hintroduced]
  · cases function <;> simp [hfunction]

lemma append {ls ms names names' fs fs' : List String} (h : Shows specifier ls names fs)
    (h' : Shows specifier ms names' fs') :
    Shows specifier (ls ++ ms) (names ++ names') (fs ++ fs') := by
  refine ⟨List.forall_mem_append.2 ⟨h.oneLine, h'.oneLine⟩, ?_, ?_⟩
  · rw [List.filterMap_append, h.introduced_eq, h'.introduced_eq]
  · rw [List.filterMap_append, h.functions_eq, h'.functions_eq]

lemma cons {l : String} {ls names names' fs fs' : List String}
    (h : Shows specifier [l] names fs) (h' : Shows specifier ls names' fs') :
    Shows specifier (l :: ls) (names ++ names') (fs ++ fs') :=
  h.append h'

/-- Lists that are made alike are read alike. -/
lemma flatMap {α : Type} {xs : List α} {ls names fs : α → List String}
    (h : ∀ x ∈ xs, Shows specifier (ls x) (names x) (fs x)) :
    Shows specifier (xs.flatMap ls) (xs.flatMap names) (xs.flatMap fs) := by
  induction xs with
  | nil => exact nil
  | cons x xs ih =>
      obtain ⟨hx, hxs⟩ := List.forall_mem_cons.1 h
      exact hx.append (ih hxs)

lemma flatMap_introduced {α : Type} {xs : List α} {ls names : α → List String}
    (h : ∀ x ∈ xs, Shows specifier (ls x) (names x) []) :
    Shows specifier (xs.flatMap ls) (xs.flatMap names) [] := by
  have hnil : xs.flatMap (fun _ => ([] : List String)) = [] :=
    List.flatMap_eq_nil_iff.2 fun _ _ => rfl
  have hflat := flatMap h
  rwa [hnil] at hflat

/-- Lists none of which introduces a name. -/
lemma flatMap_functions {α : Type} {xs : List α} {ls fs : α → List String}
    (h : ∀ x ∈ xs, Shows specifier (ls x) [] (fs x)) :
    Shows specifier (xs.flatMap ls) [] (xs.flatMap fs) := by
  have hnil : xs.flatMap (fun _ => ([] : List String)) = [] :=
    List.flatMap_eq_nil_iff.2 fun _ _ => rfl
  have hflat := flatMap h
  rwa [hnil] at hflat

lemma map_introduced {α : Type} {xs : List α} {line name : α → String}
    (h : ∀ x ∈ xs, Shows specifier [line x] [name x] []) :
    Shows specifier (xs.map line) (xs.map name) [] := by
  have hflat := flatMap_introduced h
  rwa [← List.map_eq_flatMap, ← List.map_eq_flatMap] at hflat

end Shows

section Lines

variable {specifier : String} (hspecifier : isIdentifier specifier = true)
include hspecifier

lemma shows_inert {ls : List String}
    (h : ∀ l ∈ ls, OneLine l ∧ isInert l.toList = true) : Shows specifier ls [] [] := by
  have hstripped {l : String} (hl : l ∈ ls) : isInert (stripped l) = true :=
    isInert_of_prefix (Text.withoutReturn_prefix l.toList) (h l hl).2
  refine ⟨fun l hl => (h l hl).1, ?_, ?_⟩
  · exact List.filterMap_eq_nil_iff.2 fun l hl => introducedName?_of_isInert (hstripped hl)
  · exact List.filterMap_eq_nil_iff.2 fun l hl =>
      functionName?_of_head hspecifier (isWordStart_of_isInert (hstripped hl))

/-- A line whose first word is a keyword defines no function. -/
lemma functionName?_of_keyword {word : String} (hword : word ∈ keywords) (rest : List Char) :
    functionName? specifier (word.toList ++ ' ' :: rest) = none := by
  have hne : word.toList ≠ specifier.toList := by
    intro heq
    exact (isIdentifier_iff.1 hspecifier).2 (String.toList_inj.1 heq ▸ hword)
  have hspace : ' ' ∉ word.toList := by
    intro hmem
    have hlower := List.all_eq_true.1 (isLower_of_mem_keywords word hword) ' ' hmem
    exact absurd hlower (by decide)
  have hafter := after?_eq_none_of_word
    (notMem_of_isWord (isWord_of_isIdentifier hspecifier) (by decide)) hspace hne rest
  rw [functionName?, hafter]
  rfl

/-- The definition of a macro introduces it, whatever follows the name. -/
lemma shows_define {name rest : String} (hname : isWord name.toList = true)
    (hrest : ∀ c, rest.toList.head? = some c → isWordChar c = false) (hline : OneLine rest) :
    Shows specifier ["#define " ++ name ++ rest] [name] [] := by
  have hfront : ("#define " ++ name).toList = "#define ".toList ++ name.toList :=
    String.toList_append
  have hlast : ("#define ".toList ++ name.toList).getLast? ≠ some '\r' := by
    intro hreturn
    rw [List.getLast?_append_of_ne_nil _ (ne_nil_of_isWord hname)] at hreturn
    exact notMem_of_isWord hname (by decide) (List.mem_of_getLast? hreturn)
  have hstripped : stripped ("#define " ++ name ++ rest) =
      "#define ".toList ++ (name.toList ++ withoutReturn rest.toList) := by
    rw [stripped, String.toList_append, hfront, withoutReturn_append hlast, List.append_assoc]
  -- What is left of the rest starts as the rest does.
  have hrest' : ∀ c, (withoutReturn rest.toList).head? = some c → isWordChar c = false := by
    intro c hc
    obtain ⟨more, hmore⟩ := Text.withoutReturn_prefix rest.toList
    refine hrest c ?_
    rw [← hmore, List.head?_append, hc]
    rfl
  have hintroduced : introducedName? (stripped ("#define " ++ name ++ rest)) = some name := by
    rw [hstripped, introducedName?, definedName?, after?_append]
    simp only [Option.bind_eq_bind, Option.bind_some]
    rw [takeWhile_word_append (List.all_eq_true.1 (all_isWordChar_of_isWord hname)) hrest',
      word?_of_isWord hname]
    rfl
  have hfunction : functionName? specifier (stripped ("#define " ++ name ++ rest)) = none := by
    refine functionName?_of_head hspecifier fun c hc => ?_
    rw [hstripped] at hc
    cases hc
    decide
  refine Shows.single ?_ hintroduced hfunction
  rw [Text.oneLine_append, Text.oneLine_append]
  exact ⟨⟨by decide, oneLine_of_isWord hname⟩, hline⟩

lemma shows_typedef {front name : String} (hfront : OneLine front)
    (hname : isWord name.toList = true) :
    Shows specifier ["typedef " ++ front ++ " " ++ name ++ ";"] [name] [] := by
  have hlist : ("typedef " ++ front ++ " " ++ name ++ ";").toList =
      "typedef ".toList ++ (front.toList ++ ' ' :: name.toList ++ [';']) := by
    simp [String.toList_append]
  have hstripped : stripped ("typedef " ++ front ++ " " ++ name ++ ";") =
      "typedef ".toList ++ (front.toList ++ ' ' :: name.toList ++ [';']) := by
    rw [stripped, hlist, ← List.append_assoc, withoutReturn_concat (by decide)]
  have hintroduced : introducedName? (stripped ("typedef " ++ front ++ " " ++ name ++ ";")) =
      some name := by
    have hword : ((front.toList ++ ' ' :: name.toList).reverse.takeWhile isWordChar).reverse =
        name.toList := by
      rw [List.reverse_append, List.reverse_cons, List.append_assoc, List.singleton_append,
        takeWhile_append_cons ?_ (by decide), List.reverse_reverse]
      intro c hc
      exact List.all_eq_true.1 (all_isWordChar_of_isWord hname) c (List.mem_reverse.1 hc)
    have hdefine : after? "#define ".toList
        ("typedef ".toList ++ (front.toList ++ ' ' :: name.toList ++ [';'])) = none :=
      after?_eq_none_of_head (by decide)
    rw [hstripped, introducedName?, definedName?, hdefine, aliasName?, after?_append]
    simp only [Option.bind_eq_bind, Option.bind_some, Option.bind_none, List.getLast?_concat,
      List.dropLast_concat, hword, word?_of_isWord hname]
    rfl
  have hfunction : functionName? specifier
      (stripped ("typedef " ++ front ++ " " ++ name ++ ";")) = none := by
    rw [hstripped]
    exact functionName?_of_keyword hspecifier (by decide : "typedef" ∈ keywords) _
  refine Shows.single ?_ hintroduced hfunction
  simp only [Text.oneLine_append]
  exact ⟨⟨⟨⟨by decide, hfront⟩, by decide⟩, oneLine_of_isWord hname⟩, by decide⟩

lemma shows_struct {tag : String} (htag : isWord tag.toList = true) :
    Shows specifier ["struct " ++ tag ++ " \x7b"] [tag] [] := by
  have hlist : ("struct " ++ tag ++ " \x7b").toList =
      "struct ".toList ++ (tag.toList ++ [' ', '\x7b']) := by
    simp [String.toList_append]
  have hstripped : stripped ("struct " ++ tag ++ " \x7b") =
      "struct ".toList ++ (tag.toList ++ [' ', '\x7b']) := by
    have hconcat : "struct ".toList ++ (tag.toList ++ [' ', '\x7b']) =
        "struct ".toList ++ tag.toList ++ [' '] ++ ['\x7b'] := by simp
    rw [stripped, hlist, hconcat, withoutReturn_concat (by decide)]
  have hintroduced : introducedName? (stripped ("struct " ++ tag ++ " \x7b")) = some tag := by
    have hdefine : after? "#define ".toList ("struct ".toList ++ (tag.toList ++ [' ', '\x7b'])) =
        none := after?_eq_none_of_head (by decide)
    have htypedef : after? "typedef ".toList
        ("struct ".toList ++ (tag.toList ++ [' ', '\x7b'])) = none :=
      after?_eq_none_of_head (by decide)
    rw [hstripped, introducedName?, definedName?, hdefine, aliasName?, htypedef,
      structName?_of_isWord htag]
    rfl
  have hfunction : functionName? specifier (stripped ("struct " ++ tag ++ " \x7b")) = none := by
    rw [hstripped]
    exact functionName?_of_keyword hspecifier (by decide : "struct" ∈ keywords) _
  refine Shows.single ?_ hintroduced hfunction
  simp only [Text.oneLine_append]
  exact ⟨⟨by decide, oneLine_of_isWord htag⟩, by decide⟩

/-- A line that starts with an identifier and a space introduces nothing. -/
lemma introducedName?_of_word (rest : List Char) :
    introducedName? (specifier.toList ++ ' ' :: rest) = none := by
  have hword := isWord_of_isIdentifier hspecifier
  have hspace : ' ' ∉ specifier.toList := notMem_of_isWord hword (by decide)
  have hkeyword {word : String} (hkeyword : word ∈ keywords) :
      specifier.toList ≠ word.toList := by
    intro heq
    exact (isIdentifier_iff.1 hspecifier).2 (String.toList_inj.1 heq ▸ hkeyword)
  have hdefine : after? "#define ".toList (specifier.toList ++ ' ' :: rest) = none := by
    have hne : specifier.toList ≠ "#define".toList := by
      intro heq
      rw [heq] at hword
      exact absurd hword (by decide)
    exact after?_eq_none_of_word (by decide) hspace hne rest
  have htypedef : after? "typedef ".toList (specifier.toList ++ ' ' :: rest) = none :=
    after?_eq_none_of_word (by decide) hspace (hkeyword (by decide : "typedef" ∈ keywords)) rest
  have hstruct : after? "struct ".toList (specifier.toList ++ ' ' :: rest) = none :=
    after?_eq_none_of_word (by decide) hspace (hkeyword (by decide : "struct" ∈ keywords)) rest
  rw [introducedName?, definedName?, hdefine, aliasName?, htypedef, structName?, hstruct]
  rfl

lemma shows_function {ret name params : String} (hret : isWord ret.toList = true)
    (hname : isWord name.toList = true) (hparams : OneLine params) :
    Shows specifier [specifier ++ " " ++ ret ++ " " ++ name ++ "(" ++ params ++ ")" ++ " \x7b"]
      [] [name] := by
  have hword := isWord_of_isIdentifier hspecifier
  have hstripped : stripped
      (specifier ++ " " ++ ret ++ " " ++ name ++ "(" ++ params ++ ")" ++ " \x7b") =
        specifier.toList ++ ' ' ::
          (ret.toList ++ ' ' :: (name.toList ++ '(' :: (params.toList ++ [')', ' ', '\x7b']))) := by
    have hconcat :
        (specifier ++ " " ++ ret ++ " " ++ name ++ "(" ++ params ++ ")" ++ " \x7b").toList =
          (specifier ++ " " ++ ret ++ " " ++ name ++ "(" ++ params ++ ")" ++ " ").toList ++
            ['\x7b'] := by
      simp [String.toList_append]
    rw [stripped, hconcat, withoutReturn_concat (by decide)]
    simp [String.toList_append]
  have hfunction : functionName? specifier (specifier.toList ++ ' ' ::
      (ret.toList ++ ' ' :: (name.toList ++ '(' :: (params.toList ++ [')', ' ', '\x7b'])))) =
        some name := by
    have hspace : ∀ c ∈ ret.toList, (c != ' ') = true :=
      fun c hc => bne_of_notMem (notMem_of_isWord hret (by decide)) hc
    have hparenthesis : ∀ c ∈ name.toList, (c != '(') = true :=
      fun c hc => bne_of_notMem (notMem_of_isWord hname (by decide)) hc
    rw [functionName?, after?_word, Option.bind_eq_bind, Option.bind_some,
      List.dropWhile_append_of_pos hspace, List.dropWhile_cons_of_neg (by decide), List.drop_one,
      List.tail_cons, takeWhile_append_cons hparenthesis (by decide), String.ofList_toList]
    rfl
  have hintroduced := introducedName?_of_word hspecifier
    (ret.toList ++ ' ' :: (name.toList ++ '(' :: (params.toList ++ [')', ' ', '\x7b'])))
  rw [← hstripped] at hfunction hintroduced
  refine Shows.single ?_ hintroduced hfunction
  simp only [Text.oneLine_append]
  exact ⟨⟨⟨⟨⟨⟨⟨⟨oneLine_of_isWord hword, by decide⟩, oneLine_of_isWord hret⟩, by decide⟩,
    oneLine_of_isWord hname⟩, by decide⟩, hparams⟩, by decide⟩, by decide⟩

end Lines

end MathHeader
