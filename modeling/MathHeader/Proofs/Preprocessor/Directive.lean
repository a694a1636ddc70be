import MathHeader.Proofs.Preprocessor.Strings
import MathHeader.Proofs.Text.Words
import MathHeader.Text.Search

/-!
# Reading the directives of a block

A preprocessor sees a block as lines.  It joins a line that ends in a backslash with the next one,
and tells what a line means from the word in front of its first space.  That reading knows nothing
of nodes: `directives` makes it of any text.

The text of a block gives the directives of its nodes, one after the other
(`directives_blockText`).  The strings of the block must not end a line or join it with the next,
and the name of a macro must end at the space behind it.  A condition that was broken is joined to
what it was: `fillLines_joined`.
-/

namespace MathHeader.Preprocessor

open Text (OneLine notMem_append)

/-! ## Logical lines -/

/-- A line without the blanks that continued lines start with. -/
def withoutIndent (line : List Char) : List Char :=
  if continuation.toList.isPrefixOf line then line.drop continuation.toList.length else line

/-- The lines after those that end in a backslash are joined with the next.  The first line belongs
to one before it if that is `continued`. -/
def logicalLines (continued : Bool) : List (List Char) → List (List Char)
  | [] => []
  | l :: ls =>
    let line := if continued then withoutIndent l else l
    if line.getLast? = some '\\' then
      match logicalLines true ls with
      | [] => [line.dropLast]
      | next :: rest => (line.dropLast ++ next) :: rest
    else line :: logicalLines false ls

/-! ## Directives -/

/-- What a line tells the preprocessor. -/
inductive Directive where
  /-- The first alternative of a group. -/
  | opening (condition : String)
  /-- A further alternative of a group. -/
  | further (condition : String)
  /-- The alternative for when no condition of a group holds. -/
  | otherwise
  | closing
  | define (name value : String)
  | include (header : String)
  | error (message : String)
  /-- A comment, or an empty line. -/
  | nothing
  /-- A line that belongs to no block. -/
  | unknown
deriving DecidableEq, Repr

namespace Directive

/-- The definition of a macro: its name ends at the first space. -/
def ofDefinition (rest : List Char) : Directive :=
  match Text.splitAtFirst ' ' rest with
  | some (name, value) => define (String.ofList name) (String.ofList value)
  | none => define (String.ofList rest) ""

/-- The inclusion of a header between angle brackets. -/
def ofInclusion : List Char → Directive
  | '<' :: rest =>
    if rest.getLast? = some '>' then .include (String.ofList rest.dropLast) else unknown
  | _ => unknown

/-- What a line means, by the word in front of its first space. -/
def ofLine (line : List Char) : Directive :=
  let word := line.takeWhile (· != ' ')
  let rest := line.drop (word.length + 1)
  match String.ofList word with
  | "#if" => opening (String.ofList rest)
  | "#elif" => further (String.ofList rest)
  | "#else" => otherwise
  | "#endif" => closing
  | "#define" => ofDefinition rest
  | "#include" => ofInclusion rest
  | "#error" => error (String.ofList rest)
  | "/*" => if "*/".toList.isSuffixOf line then nothing else unknown
  | "" => if rest.isEmpty then nothing else unknown
  | _ => unknown

lemma ofLine_if (text : String) : ofLine ("#if" ++ " " ++ text).toList = opening text := by
  simp [ofLine]

end Directive

/-- The directives of a text, read from its logical lines. -/
def directives (text : String) : List Directive :=
  (logicalLines false (Text.pieces '\n' text.toList)).map Directive.ofLine

/-! ## Directives of a block -/

mutual

def Node.directives : Node → List Directive
  | .chain _ arms => arms.directives .opening ++ [.closing]
  | .define name value => [.define name value.text]
  | .default name value =>
    [.opening (Condition.undefined name).text, .define name value.text, .closing]
  | .include header => [.include header]
  | .error message => [.error message]
  | .comment _ => [.nothing]
  | .blank => [.nothing]

/-- The directives of alternatives, the first of which is made by `first`. -/
def Arms.directives (first : String → Directive) : Arms → List Directive
  | .arm condition body rest =>
    first condition.text :: (blockDirectives body ++ rest.directives .further)
  | .done => []
  | .otherwise body => .otherwise :: blockDirectives body
  | .fail message => [.otherwise, .error message]

def blockDirectives : List Node → List Directive
  | [] => []
  | n :: ns => n.directives ++ blockDirectives ns

end

/-! ## Lines with one directive -/

namespace Directive

lemma ofLine_elif (text : String) : ofLine ("#elif" ++ " " ++ text).toList = further text := by
  simp [ofLine]

lemma ofLine_errorLine (message : String) : ofLine (errorLine message).toList = error message := by
  simp [ofLine, errorLine]

lemma ofLine_endLine (label : String) : ofLine (endLine label).toList = closing := by
  unfold endLine
  split
  · decide
  · simp [ofLine]

lemma ofLine_include (header : String) :
    ofLine ("#include <" ++ header ++ ">").toList = .include header := by
  simp [ofLine, ofInclusion]

lemma ofLine_comment (text : String) : ofLine ("/* " ++ text ++ " */").toList = nothing := by
  have hend : ['*', '/'] <:+ '/' :: '*' :: ' ' :: (text.toList ++ [' ', '*', '/']) :=
    ⟨'/' :: '*' :: ' ' :: (text.toList ++ [' ']), by simp⟩
  simp [ofLine, hend]

lemma ofLine_defineLine {name : String} (h : isIdentifier name = true) (value : Value) :
    ofLine (defineLine name value).toList = define name value.text := by
  have hsplit : Text.splitAtFirst ' ' (name.toList ++ ' ' :: value.text.toList) =
      some (name.toList, value.text.toList) :=
    Text.splitAtFirst_eq_some_iff.2 ⟨notMem_of_isWord (isWord_of_isIdentifier h) (by decide), rfl⟩
  simp [ofLine, defineLine, ofDefinition, hsplit]

end Directive

/-! ## Plain texts -/

/-- **Plain texts.**  A text that neither ends a line nor joins it with the next. -/
def IsPlain (s : String) : Prop :=
  '\n' ∉ s.toList ∧ '\\' ∉ s.toList

instance (s : String) : Decidable (IsPlain s) :=
  inferInstanceAs (Decidable ('\n' ∉ s.toList ∧ '\\' ∉ s.toList))

lemma isPlain_append {s t : String} : IsPlain (s ++ t) ↔ IsPlain s ∧ IsPlain t := by
  rw [IsPlain, notMem_append, notMem_append, and_and_and_comm]
  rfl

lemma IsPlain.oneLine {s : String} (h : IsPlain s) : OneLine s :=
  h.1

lemma IsPlain.getLast?_ne {s : String} (h : IsPlain s) : s.toList.getLast? ≠ some '\\' :=
  fun hlast => h.2 (List.mem_of_getLast? hlast)

lemma backslash_notMem_syntaxChars : '\\' ∉ syntaxChars := by
  decide

lemma Condition.isPlain_text {c : Condition} (h : ∀ s ∈ c.strings, IsPlain s) : IsPlain c.text :=
  ⟨c.oneLine_text fun s hs => (h s hs).1,
    c.notMem_text backslash_notMem_syntaxChars fun s hs => (h s hs).2⟩

lemma Condition.isPlain_of_mem_breakable {c : Condition} (h : ∀ s ∈ c.strings, IsPlain s) :
    ∀ part ∈ c.breakable, IsPlain part := by
  have hnewline := Condition.oneLine_of_mem_breakable fun s hs => (h s hs).1
  have hbackslash := Condition.notMem_of_mem_breakable backslash_notMem_syntaxChars
    fun s hs => (h s hs).2
  exact fun part hpart => ⟨hnewline part hpart, hbackslash part hpart⟩

lemma Value.isPlain_text {v : Value} (h : ∀ s ∈ v.strings, IsPlain s) : IsPlain v.text :=
  ⟨v.oneLine_text fun s hs => (h s hs).1,
    v.notMem_text backslash_notMem_syntaxChars fun s hs => (h s hs).2⟩

/-! ## Broken conditions -/

lemma join_withOperator (operator : String) (ts : List String) :
    String.join (Condition.breakable.withOperator operator ts) = operator.intercalate ts := by
  induction ts using Condition.breakable.withOperator.induct with
  | case1 => rfl
  | case2 last => simp [Condition.breakable.withOperator]
  | case3 t ts hne ih =>
      rw [Condition.breakable.withOperator, String.join_cons, ih]
      · cases ts with
        | nil => exact absurd rfl hne
        | cons t' ts => rw [String.intercalate_cons_cons]
      · exact hne

/-- The parts of a condition make its text. -/
lemma Condition.join_breakable (c : Condition) : String.join c.breakable = c.text := by
  cases c with
  | any terms => rw [breakable, join_withOperator, text]
  | all terms => rw [breakable, join_withOperator, text]
  | _ => simp [breakable]

/-- A line as it is written, with the blanks in front of one that continues another. -/
def indented (continued : Bool) (front : String) : String :=
  if continued then continuation ++ front else front

lemma indented_append (continued : Bool) (s t : String) :
    indented continued (s ++ t) = indented continued s ++ t := by
  cases continued <;> simp [indented, String.append_assoc]

lemma IsPlain.indented {s : String} (h : IsPlain s) (continued : Bool) :
    IsPlain (indented continued s) := by
  cases continued with
  | false => exact h
  | true => exact isPlain_append.2 ⟨by decide, h⟩

lemma withoutIndent_indented (continued : Bool) (front : String) :
    (if continued then withoutIndent (indented continued front).toList
      else (indented continued front).toList) = front.toList := by
  cases continued with
  | false => rfl
  | true => simp [indented, withoutIndent]

/-- A plain line stands for itself. -/
lemma logicalLines_cons (continued : Bool) {front : String} (h : IsPlain front)
    (rest : List (List Char)) :
    logicalLines continued ((indented continued front).toList :: rest) =
      front.toList :: logicalLines false rest := by
  rw [logicalLines]
  simp only [withoutIndent_indented]
  rw [if_neg h.getLast?_ne]

/-- A line that ends in a backslash goes on in the next. -/
lemma logicalLines_broken (continued : Bool) (front : String) {next : List Char}
    {lines rest : List (List Char)} (h : logicalLines true lines = next :: rest) :
    logicalLines continued ((indented continued front ++ "\\").toList :: lines) =
      (front.toList ++ next) :: rest := by
  rw [← indented_append, logicalLines]
  simp only [withoutIndent_indented]
  rw [if_pos (by simp), h]
  simp

/-- **Filled lines.**  Lines filled with plain parts have no newlines, and are joined again to what
stands in front and all the parts. -/
lemma fillLines_joined (continued : Bool) {front : String} (hfront : IsPlain front)
    (holdsPart : Bool) {parts : List String} (hparts : ∀ p ∈ parts, IsPlain p) :
    (∀ l ∈ fillLines (indented continued front) holdsPart parts, OneLine l) ∧
      ∀ rest, logicalLines continued
        ((fillLines (indented continued front) holdsPart parts).map String.toList ++ rest) =
          (front ++ String.join parts).toList :: logicalLines false rest := by
  induction parts generalizing continued front holdsPart with
  | nil =>
      rw [fillLines]
      refine ⟨List.forall_mem_singleton.2 (hfront.indented continued).oneLine, fun rest => ?_⟩
      rw [List.map_singleton, List.singleton_append, logicalLines_cons continued hfront,
        String.join_nil, String.append_empty]
  | cons p ps ih =>
      obtain ⟨hp, hps⟩ := List.forall_mem_cons.1 hparts
      rw [fillLines, String.join_cons]
      split
      · obtain ⟨hlines, hjoined⟩ := ih true hp true hps
        refine ⟨List.forall_mem_cons.2 ⟨?_, hlines⟩, fun rest => ?_⟩
        · exact Text.oneLine_append.2 ⟨(hfront.indented continued).oneLine, by decide⟩
        · rw [List.map_cons, List.cons_append, String.toList_append (s := front)]
          exact logicalLines_broken continued front (hjoined rest)
      · rw [← indented_append, ← String.append_assoc]
        exact ih continued (isPlain_append.2 ⟨hfront, hp⟩) true hps

/-! ## Reading blocks -/

/-- **What lines are read as.**  Wherever the lines stand, the given directives are read from them,
and none of them has a newline. -/
structure ReadsAs (ls : List String) (ds : List Directive) : Prop where
  oneLine : ∀ l ∈ ls, OneLine l
  directives : ∀ rest, (logicalLines false (ls.map String.toList ++ rest)).map Directive.ofLine =
    ds ++ (logicalLines false rest).map Directive.ofLine

lemma ReadsAs.nil : ReadsAs [] [] :=
  ⟨by simp, fun rest => rfl⟩

lemma ReadsAs.append {ls ms : List String} {ds es : List Directive} (h : ReadsAs ls ds)
    (h' : ReadsAs ms es) : ReadsAs (ls ++ ms) (ds ++ es) := by
  refine ⟨List.forall_mem_append.2 ⟨h.oneLine, h'.oneLine⟩, fun rest => ?_⟩
  rw [List.map_append, List.append_assoc, h.directives, h'.directives, List.append_assoc]

lemma readsAs_line {l : String} (h : IsPlain l) {d : Directive}
    (hd : Directive.ofLine l.toList = d) : ReadsAs [l] [d] := by
  refine ⟨List.forall_mem_singleton.2 h.oneLine, fun rest => ?_⟩
  have hline := logicalLines_cons false h rest
  rw [indented, if_neg (by decide)] at hline
  rw [List.map_singleton, List.singleton_append, hline, List.map_cons, hd]
  rfl

lemma readsAs_directive {word : String} (hword : IsPlain word) {c : Condition}
    (hc : ∀ s ∈ c.strings, IsPlain s) {d : Directive}
    (hd : Directive.ofLine (word ++ " " ++ c.text).toList = d) :
    ReadsAs (c.directive word) [d] := by
  have hspace : IsPlain (word ++ " ") := isPlain_append.2 ⟨hword, by decide⟩
  simp only [Condition.directive]
  split
  · exact readsAs_line (isPlain_append.2 ⟨hspace, Condition.isPlain_text hc⟩) hd
  · obtain ⟨hlines, hjoined⟩ := fillLines_joined false hspace false
      (Condition.isPlain_of_mem_breakable hc)
    refine ⟨hlines, fun rest => ?_⟩
    rw [c.join_breakable] at hjoined
    rw [indented, if_neg (by decide)] at hjoined
    rw [hjoined, List.map_cons, hd]
    rfl

lemma readsAs_endLine {label : String} (h : IsPlain label) :
    ReadsAs [endLine label] [.closing] := by
  refine readsAs_line ?_ (Directive.ofLine_endLine label)
  unfold endLine
  split
  · decide
  · exact isPlain_append.2 ⟨isPlain_append.2 ⟨by decide, h⟩, by decide⟩

lemma readsAs_errorLine {message : String} (h : IsPlain message) :
    ReadsAs [errorLine message] [.error message] :=
  readsAs_line (isPlain_append.2 ⟨by decide, h⟩) (Directive.ofLine_errorLine message)

lemma readsAs_defineLine {name : String} (hname : isIdentifier name = true)
    (hplain : IsPlain name) {value : Value} (hvalue : ∀ s ∈ value.strings, IsPlain s) :
    ReadsAs [defineLine name value] [.define name value.text] := by
  refine readsAs_line ?_ (Directive.ofLine_defineLine hname value)
  have hfront : IsPlain ("#define " ++ name) := isPlain_append.2 ⟨by decide, hplain⟩
  exact isPlain_append.2 ⟨isPlain_append.2 ⟨hfront, by decide⟩, Value.isPlain_text hvalue⟩

mutual

lemma Node.readsAs : (n : Node) → (∀ s ∈ n.strings, IsPlain s) →
    (∀ name ∈ n.definitions, isIdentifier name = true) → ReadsAs n.lines n.directives
  | .chain label arms, hstrings, hnames => by
      rw [Node.strings, List.forall_mem_cons] at hstrings
      have harms := Arms.readsAs arms (by decide) (fun text => Directive.ofLine_if text) hstrings.2
        hnames
      exact harms.append (readsAs_endLine hstrings.1)
  | .define name value, hstrings, hnames => by
      rw [Node.strings, List.forall_mem_cons] at hstrings
      exact readsAs_defineLine (hnames name (List.mem_singleton_self name)) hstrings.1 hstrings.2
  | .default name value, hstrings, hnames => by
      rw [Node.strings, List.forall_mem_cons] at hstrings
      have hcondition : IsPlain (Condition.undefined name).text :=
        Condition.isPlain_text (by
          simpa [Condition.undefined, Condition.strings] using hstrings.1)
      have hopening : ReadsAs ["#if " ++ (Condition.undefined name).text]
          [.opening (Condition.undefined name).text] :=
        readsAs_line (isPlain_append.2 ⟨by decide, hcondition⟩) (Directive.ofLine_if _)
      have hdefine := readsAs_defineLine (hnames name (List.mem_singleton_self name)) hstrings.1
        hstrings.2
      exact hopening.append (hdefine.append (readsAs_endLine (by decide)))
  | .include header, hstrings, _ => by
      have hheader := hstrings header (List.mem_singleton_self header)
      exact readsAs_line
        (isPlain_append.2 ⟨isPlain_append.2 ⟨by decide, hheader⟩, by decide⟩)
        (Directive.ofLine_include header)
  | .error message, hstrings, _ =>
      readsAs_errorLine (hstrings message (List.mem_singleton_self message))
  | .comment text, hstrings, _ => by
      have htext := hstrings text (List.mem_singleton_self text)
      exact readsAs_line (isPlain_append.2 ⟨isPlain_append.2 ⟨by decide, htext⟩, by decide⟩)
        (Directive.ofLine_comment text)
  | .blank, _, _ => readsAs_line (by decide) (by decide)

lemma Arms.readsAs {word : String} {first : String → Directive} :
    (arms : Arms) → IsPlain word →
    (∀ text, Directive.ofLine (word ++ " " ++ text).toList = first text) →
    (∀ s ∈ arms.strings, IsPlain s) → (∀ name ∈ arms.definitions, isIdentifier name = true) →
      ReadsAs (arms.lines word) (arms.directives first)
  | .arm condition body rest, hword, hfirst, hstrings, hnames => by
      rw [Arms.strings, List.forall_mem_append, List.forall_mem_append] at hstrings
      rw [Arms.definitions, List.forall_mem_append] at hnames
      have hcondition := readsAs_directive hword hstrings.1.1 (hfirst condition.text)
      have hbody := block_readsAs body hstrings.1.2 hnames.1
      have hrest := Arms.readsAs rest (by decide) Directive.ofLine_elif hstrings.2 hnames.2
      exact hcondition.append (hbody.append hrest)
  | .done, _, _, _, _ => ReadsAs.nil
  | .otherwise body, _, _, hstrings, hnames => by
      have helse : ReadsAs ["#else"] [.otherwise] := readsAs_line (by decide) (by decide)
      exact helse.append (block_readsAs body hstrings hnames)
  | .fail message, _, _, hstrings, _ => by
      have helse : ReadsAs ["#else"] [.otherwise] := readsAs_line (by decide) (by decide)
      exact helse.append (readsAs_errorLine (hstrings message (List.mem_singleton_self message)))

lemma block_readsAs : (ns : List Node) → (∀ s ∈ blockStrings ns, IsPlain s) →
    (∀ name ∈ blockDefinitions ns, isIdentifier name = true) →
      ReadsAs (blockLines ns) (blockDirectives ns)
  | [], _, _ => ReadsAs.nil
  | n :: ns, hstrings, hnames => by
      rw [blockStrings, List.forall_mem_append] at hstrings
      rw [blockDefinitions, List.forall_mem_append] at hnames
      exact (Node.readsAs n hstrings.1 hnames.1).append (block_readsAs ns hstrings.2 hnames.2)

end

/-- **Reading a block.**  The text of a block over plain strings has the directives of the block,
in order; the empty line is what is behind its last newline. -/
lemma directives_blockText {nodes : List Node} (hstrings : ∀ s ∈ blockStrings nodes, IsPlain s)
    (hnames : ∀ name ∈ blockDefinitions nodes, isIdentifier name = true) :
    directives (blockText nodes) = blockDirectives nodes ++ [.nothing] := by
  have hreads := block_readsAs nodes hstrings hnames
  rw [directives, blockText, Text.pieces_unlines hreads.oneLine, hreads.directives]
  rfl

end MathHeader.Preprocessor
