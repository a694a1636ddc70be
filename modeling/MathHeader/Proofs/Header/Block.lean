import MathHeader.Proofs.Header.Line
import MathHeader.Proofs.Preprocessor.Strings

/-!
# Reading a preprocessor block

The only lines of a block that show anything are its definitions.  Every other line is inert, since
it starts with another directive, with a comment, or with the blanks of a condition that goes on;
what follows such a front makes no difference, which is what `Leads` says.  So a block shows the
macros that it may define on some branch, in the order of its lines, and nothing else:
`shows_block`.
-/

namespace MathHeader

open Preprocessor
open Text (OneLine oneLine_append)

/-! ## Fronts of inert lines -/

/-- Whether every line that starts with a text is inert. -/
def Leads (front : String) : Prop :=
  ∀ rest, isInert (front.toList ++ rest) = true

lemma Leads.isInert {front : String} (h : Leads front) : isInert front.toList = true := by
  simpa using h []

lemma Leads.append {front : String} (h : Leads front) (more : String) : Leads (front ++ more) := by
  intro rest
  rw [String.toList_append, List.append_assoc]
  exact h _

/-- A line without newlines that starts with an inert front shows nothing. -/
lemma Leads.shows {specifier : String} (hspecifier : isIdentifier specifier = true)
    {line : String} (h : Leads line) (hline : OneLine line) : Shows specifier [line] [] [] :=
  shows_inert hspecifier fun l hl => by
    rw [List.mem_singleton.1 hl]
    exact ⟨hline, h.isInert⟩

/-! ## Lines of a condition -/

/-- The lines that parts are filled into start with the front or with blanks. -/
lemma fillLines_spec {current : String} (hleads : Leads current) (hcurrent : OneLine current)
    (holdsPart : Bool) {parts : List String} (hparts : ∀ p ∈ parts, OneLine p) :
    ∀ l ∈ fillLines current holdsPart parts, OneLine l ∧ Leads l := by
  induction parts generalizing current holdsPart with
  | nil =>
      rw [fillLines, List.forall_mem_singleton]
      exact ⟨hcurrent, hleads⟩
  | cons p ps ih =>
      obtain ⟨hp, hps⟩ := List.forall_mem_cons.1 hparts
      have hcontinuation : Leads continuation := fun rest => rfl
      rw [fillLines]
      split
      · rw [List.forall_mem_cons]
        refine ⟨⟨oneLine_append.2 ⟨hcurrent, by decide⟩, hleads.append _⟩, ?_⟩
        exact ih (hcontinuation.append p) (oneLine_append.2 ⟨by decide, hp⟩) true hps
      · exact ih (hleads.append p) (oneLine_append.2 ⟨hcurrent, hp⟩) true hps

section Block

variable {specifier : String} (hspecifier : isIdentifier specifier = true)
include hspecifier

lemma shows_directive {word : String} (hleads : Leads word) (hword : OneLine word)
    {c : Condition} (hc : ∀ s ∈ c.strings, OneLine s) :
    Shows specifier (c.directive word) [] [] := by
  have hspace : OneLine (word ++ " ") := oneLine_append.2 ⟨hword, by decide⟩
  have hlines : ∀ l ∈ c.directive word, OneLine l ∧ Leads l := by
    simp only [Condition.directive]
    split
    · rw [List.forall_mem_singleton]
      exact ⟨oneLine_append.2 ⟨hspace, c.oneLine_text hc⟩, (hleads.append " ").append c.text⟩
    · exact fillLines_spec (hleads.append " ") hspace false (c.oneLine_of_mem_breakable hc)
  exact shows_inert hspecifier fun l hl => ⟨(hlines l hl).1, (hlines l hl).2.isInert⟩

/-! ## Blocks -/

lemma shows_emptyLine : Shows specifier [""] [] [] :=
  shows_inert hspecifier (by decide)

lemma shows_endLine {label : String} (hlabel : OneLine label) :
    Shows specifier [endLine label] [] [] := by
  unfold endLine
  split
  · exact Leads.shows hspecifier (fun rest => rfl) (by decide)
  · have hleads : Leads "#endif /* " := fun rest => rfl
    exact ((hleads.append label).append " */").shows hspecifier
      (oneLine_append.2 ⟨oneLine_append.2 ⟨by decide, hlabel⟩, by decide⟩)

lemma shows_errorLine {message : String} (hmessage : OneLine message) :
    Shows specifier [errorLine message] [] [] := by
  have hleads : Leads "#error " := fun rest => rfl
  exact (hleads.append message).shows hspecifier (oneLine_append.2 ⟨by decide, hmessage⟩)

lemma shows_defineLine {name : String} (hname : isIdentifier name = true) {value : Value}
    (hvalue : ∀ s ∈ value.strings, OneLine s) :
    Shows specifier [defineLine name value] [name] [] := by
  have hrest : ∀ c, (" " ++ value.text).toList.head? = some c → isWordChar c = false := by
    intro c hc
    rw [String.toList_append] at hc
    cases hc
    decide
  have hshows := shows_define hspecifier (isWord_of_isIdentifier hname) hrest
    (oneLine_append.2 ⟨by decide, value.oneLine_text hvalue⟩)
  rwa [← String.append_assoc] at hshows

end Block

mutual

/-- A node shows the macros that it may define. -/
lemma Node.shows {specifier : String} (hspecifier : isIdentifier specifier = true) :
    (n : Node) → (∀ s ∈ n.strings, OneLine s) →
    (∀ name ∈ n.definitions, isIdentifier name = true) →
      Shows specifier n.lines n.definitions []
  | .chain label arms, hstrings, hnames => by
      rw [Node.strings, List.forall_mem_cons] at hstrings
      have harms := Arms.shows hspecifier arms "#if" (fun rest => rfl) (by decide) hstrings.2 hnames
      have hall := harms.append (shows_endLine hspecifier hstrings.1)
      rwa [List.append_nil, List.append_nil] at hall
  | .define name value, hstrings, hnames => by
      rw [Node.strings, List.forall_mem_cons] at hstrings
      exact shows_defineLine hspecifier (hnames name (List.mem_singleton_self name)) hstrings.2
  | .default name value, hstrings, hnames => by
      rw [Node.strings, List.forall_mem_cons] at hstrings
      have hcondition : OneLine (Condition.undefined name).text :=
        Condition.oneLine_text (.undefined name) (by
          simpa [Condition.undefined, Condition.strings] using hstrings.1)
      have hleads : Leads "#if " := fun rest => rfl
      have hopen : Shows specifier ["#if " ++ (Condition.undefined name).text] [] [] :=
        (hleads.append _).shows hspecifier (oneLine_append.2 ⟨by decide, hcondition⟩)
      have hdefine := shows_defineLine hspecifier (hnames name (List.mem_singleton_self name))
        hstrings.2
      exact hopen.append (hdefine.append (shows_endLine hspecifier (by decide)))
  | .include header, hstrings, _ => by
      have hleads : Leads "#include <" := fun rest => rfl
      have hheader := hstrings header (List.mem_singleton_self header)
      exact ((hleads.append header).append ">").shows hspecifier
        (oneLine_append.2 ⟨oneLine_append.2 ⟨by decide, hheader⟩, by decide⟩)
  | .error message, hstrings, _ =>
      shows_errorLine hspecifier (hstrings message (List.mem_singleton_self message))
  | .comment text, hstrings, _ => by
      have hleads : Leads "/* " := fun rest => rfl
      have htext := hstrings text (List.mem_singleton_self text)
      exact ((hleads.append text).append " */").shows hspecifier
        (oneLine_append.2 ⟨oneLine_append.2 ⟨by decide, htext⟩, by decide⟩)
  | .blank, _, _ => shows_emptyLine hspecifier

/-- The alternatives of a chain show the macros that they may define on some branch. -/
lemma Arms.shows {specifier : String} (hspecifier : isIdentifier specifier = true) :
    (arms : Arms) → (word : String) → Leads word → OneLine word →
    (∀ s ∈ arms.strings, OneLine s) → (∀ name ∈ arms.definitions, isIdentifier name = true) →
      Shows specifier (arms.lines word) arms.definitions []
  | .arm condition body rest, word, hleads, hword, hstrings, hnames => by
      rw [Arms.strings, List.forall_mem_append, List.forall_mem_append] at hstrings
      rw [Arms.definitions, List.forall_mem_append] at hnames
      have hdirective := shows_directive hspecifier hleads hword hstrings.1.1
      have hbody := shows_block hspecifier body hstrings.1.2 hnames.1
      have hrest := Arms.shows hspecifier rest "#elif" (fun rest => rfl) (by decide) hstrings.2
        hnames.2
      exact hdirective.append (hbody.append hrest)
  | .done, _, _, _, _, _ => Shows.nil
  | .otherwise body, _, _, _, hstrings, hnames => by
      have helse : Shows specifier ["#else"] [] [] :=
        Leads.shows hspecifier (fun rest => rfl) (by decide)
      exact helse.append (shows_block hspecifier body hstrings hnames)
  | .fail message, _, _, _, hstrings, _ => by
      have helse : Shows specifier ["#else"] [] [] :=
        Leads.shows hspecifier (fun rest => rfl) (by decide)
      exact helse.append
        (shows_errorLine hspecifier (hstrings message (List.mem_singleton_self message)))

/-- **A block shows the macros that it may define.** -/
lemma shows_block {specifier : String} (hspecifier : isIdentifier specifier = true) :
    (ns : List Node) → (∀ s ∈ blockStrings ns, OneLine s) →
    (∀ name ∈ blockDefinitions ns, isIdentifier name = true) →
      Shows specifier (blockLines ns) (blockDefinitions ns) []
  | [], _, _ => Shows.nil
  | n :: ns, hstrings, hnames => by
      rw [blockStrings, List.forall_mem_append] at hstrings
      rw [blockDefinitions, List.forall_mem_append] at hnames
      exact (Node.shows hspecifier n hstrings.1 hnames.1).append
        (shows_block hspecifier ns hstrings.2 hnames.2)

end

end MathHeader
