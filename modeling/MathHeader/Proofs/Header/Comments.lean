import MathHeader.Header.Generation
import MathHeader.Proofs.Header.Banner

/-!
# What a compiler sees of the banner

A compiler joins each line that ends in a backslash with the next one, and then takes out the
comments.  What stands in front of a header is meant to disappear in this way, so that the guard is
the first thing that is left.

A license that is wrapped always disappears: no line of it ends the comment, and this stays so when
lines are joined.  A license that starts like a comment is copied, and only its first two characters
have been looked at.  It disappears exactly if it is made up of comments and white space as far as
it goes; the last comment may be open, because the remark behind the license closes it.  So a
license with code behind a comment brings this code into the header.  `comments_banner_iff` says
when a banner disappears.

Comments are given twice: by their grammar (`Comments`), and by the place that a reader has come to
(`Place`), who goes through the text once and needs no more than the next character.
`completes_iff` says that these agree, also for the rest of a text that has been read in part.
-/

namespace MathHeader

open Text

/-! ## Joined lines -/

/-- What a line is in the text that a compiler reads: a line that ends in a backslash goes on with
the next one, and any other line keeps its newline.  A carriage return belongs to the newline. -/
def closeLine (line : List Char) : List Char :=
  if (withoutReturn line).getLast? = some '\\' then (withoutReturn line).dropLast
  else withoutReturn line ++ ['\n']

/-- The pieces of a text as a compiler reads them.  No newline is behind the last one. -/
def splicePieces : List (List Char) → List Char
  | [] => []
  | [last] => last
  | l :: ls => closeLine l ++ splicePieces ls

/-- A text as a compiler reads it. -/
def spliced (text : String) : List Char :=
  splicePieces (pieces '\n' text.toList)

section Spliced

lemma splicePieces_append (ps : List (List Char)) {qs : List (List Char)} (h : qs ≠ []) :
    splicePieces (ps ++ qs) = ps.flatMap closeLine ++ splicePieces qs := by
  induction ps with
  | nil => rfl
  | cons p ps ih =>
      have hne : ps ++ qs ≠ [] := List.append_ne_nil_of_right_ne_nil ps h
      rw [List.cons_append, splicePieces.eq_3 p (ps ++ qs) hne, ih, List.flatMap_cons,
        List.append_assoc]

lemma spliced_newline (front : String) (rest : String) :
    spliced (front ++ "\n" ++ rest) =
      (pieces '\n' front.toList).flatMap closeLine ++ spliced rest := by
  have htext : (front ++ "\n" ++ rest).toList = front.toList ++ '\n' :: rest.toList := by
    rw [String.toList_append, String.toList_append, List.append_assoc]
    rfl
  rw [spliced, htext, pieces_append_sep, splicePieces_append _ (pieces_ne_nil _ _)]
  rfl

/-- Behind whole lines a compiler reads on as from the start. -/
lemma spliced_append {text : String} (h : IsWhole text) (rest : String) :
    spliced (text ++ rest) = spliced text ++ spliced rest := by
  rcases h with rfl | ⟨front, rfl⟩
  · rw [String.empty_append]
    rfl
  · have hend := spliced_newline front ""
    rw [String.append_empty] at hend
    rw [spliced_newline, hend, List.append_assoc]
    rfl

lemma isWhole_unlines (ls : List String) : IsWhole (unlines ls) := by
  induction ls using List.reverseRecOn with
  | nil => exact .inl rfl
  | append_singleton ls l _ =>
      refine .inr ⟨unlines ls ++ l, ?_⟩
      rw [unlines_append, unlines_cons, unlines_nil, String.append_empty, String.append_assoc]

lemma spliced_unlines {ls : List String} (h : ∀ l ∈ ls, OneLine l) :
    spliced (unlines ls) = ls.flatMap fun l => closeLine l.toList := by
  rw [spliced, pieces_unlines h, splicePieces_append _ (List.cons_ne_nil _ _), List.flatMap_map]
  exact List.append_nil _

end Spliced

/-! ## Texts of comments -/

/-- White space, as a compiler knows it. -/
def isSpacing (c : Char) : Bool :=
  c = ' ' || c = '\t' || c = '\n' || c = '\x0b' || c = '\x0c'

/-- **Texts of comments.**  A text is made up of white space, of comments that go to the first
terminator, and of comments that go to the end of a line. -/
inductive Comments : List Char → Prop
  | nil : Comments []
  | space {c : Char} {cs : List Char} (spacing : isSpacing c = true) (rest : Comments cs) :
      Comments (c :: cs)
  | block {body cs : List Char} (first : Unclosed (body ++ ['*'])) (rest : Comments cs) :
      Comments ('/' :: '*' :: (body ++ terminator ++ cs))
  | line {body cs : List Char} (first : '\n' ∉ body) (rest : Comments cs) :
      Comments ('/' :: '/' :: (body ++ '\n' :: cs))

/-- What can stand behind the opening of a comment: its body, its end, and a text of comments. -/
def Closes (cs : List Char) : Prop :=
  ∃ body rest, cs = body ++ terminator ++ rest ∧ Unclosed (body ++ ['*']) ∧ Comments rest

/-- What can stand behind the opening of a comment that goes to the end of the line. -/
def ClosesLine (cs : List Char) : Prop :=
  ∃ body rest, cs = body ++ '\n' :: rest ∧ '\n' ∉ body ∧ Comments rest

section Comments

variable {c : Char} {cs : List Char}

lemma comments_cons (h : c ≠ '/') : Comments (c :: cs) ↔ isSpacing c = true ∧ Comments cs := by
  constructor
  · intro hcomments
    cases hcomments with
    | space hc hcs => exact ⟨hc, hcs⟩
    | block _ _ => exact absurd rfl h
    | line _ _ => exact absurd rfl h
  · rintro ⟨hc, hcs⟩
    exact .space hc hcs

/-- A slash outside of comments opens one. -/
lemma comments_slash_cons :
    Comments ('/' :: c :: cs) ↔ (c = '*' ∧ Closes cs) ∨ (c = '/' ∧ ClosesLine cs) := by
  constructor
  · intro hcomments
    cases hcomments with
    | space hc _ => exact absurd hc (by decide)
    | block hfirst hrest => exact .inl ⟨rfl, _, _, rfl, hfirst, hrest⟩
    | line hfirst hrest => exact .inr ⟨rfl, _, _, rfl, hfirst, hrest⟩
  · rintro (⟨rfl, body, rest, rfl, hfirst, hrest⟩ | ⟨rfl, body, rest, rfl, hfirst, hrest⟩)
    · exact .block hfirst hrest
    · exact .line hfirst hrest

lemma closes_terminator : Closes ('*' :: '/' :: cs) ↔ Comments cs := by
  constructor
  · rintro ⟨body, rest, heq, hfirst, hrest⟩
    match body with
    | [] =>
        obtain rfl : cs = rest := by simpa [terminator] using heq
        exact hrest
    | [_] => simp [terminator] at heq
    | a :: b :: body =>
        -- The terminator would stand in the body.
        obtain ⟨rfl, rfl, -⟩ : '*' = a ∧ '/' = b ∧ _ := by simpa using heq
        exact absurd ⟨rfl, rfl⟩ (unclosed_cons.1 hfirst).1
  · intro hcs
    exact ⟨[], cs, rfl, by simp [Unclosed], hcs⟩

/-- A character that starts no terminator belongs to the body. -/
lemma closes_cons (h : ¬(c = '*' ∧ cs.head? = some '/')) : Closes (c :: cs) ↔ Closes cs := by
  constructor
  · rintro ⟨body, rest, heq, hfirst, hrest⟩
    cases body with
    | nil =>
        obtain ⟨rfl, rfl⟩ : c = '*' ∧ cs = '/' :: rest := by simpa [terminator] using heq
        exact absurd ⟨rfl, rfl⟩ h
    | cons b body =>
        obtain ⟨rfl, rfl⟩ : c = b ∧ cs = body ++ terminator ++ rest := by simpa using heq
        exact ⟨body, rest, rfl, (unclosed_cons.1 hfirst).2, hrest⟩
  · rintro ⟨body, rest, rfl, hfirst, hrest⟩
    have hhead : (body ++ terminator ++ rest).head? = (body ++ ['*']).head? := by
      cases body <;> rfl
    rw [hhead] at h
    exact ⟨c :: body, rest, rfl, unclosed_cons.2 ⟨h, hfirst⟩, hrest⟩

lemma closesLine_newline : ClosesLine ('\n' :: cs) ↔ Comments cs := by
  constructor
  · rintro ⟨body, rest, heq, hfirst, hrest⟩
    cases body with
    | nil =>
        obtain rfl : cs = rest := by simpa using heq
        exact hrest
    | cons b body =>
        obtain rfl : '\n' = b := (List.cons.inj heq).1
        exact absurd List.mem_cons_self hfirst
  · intro hcs
    exact ⟨[], cs, rfl, List.not_mem_nil, hcs⟩

lemma closesLine_cons (h : c ≠ '\n') : ClosesLine (c :: cs) ↔ ClosesLine cs := by
  constructor
  · rintro ⟨body, rest, heq, hfirst, hrest⟩
    cases body with
    | nil => exact absurd (List.cons.inj heq).1 h
    | cons b body =>
        obtain ⟨rfl, rfl⟩ := List.cons.inj heq
        exact ⟨body, rest, rfl, List.not_mem_of_not_mem_cons hfirst, hrest⟩
  · rintro ⟨body, rest, rfl, hfirst, hrest⟩
    exact ⟨c :: body, rest, rfl, List.not_mem_cons_of_ne_of_not_mem (Ne.symm h) hfirst, hrest⟩

end Comments

/-! ## Reading comments -/

/-- Where a reader of a text is. -/
inductive Place where
  /-- Between comments. -/
  | outside
  /-- Behind a slash between comments. -/
  | slash
  /-- In a comment that goes to a terminator. -/
  | block
  /-- In such a comment, behind an asterisk. -/
  | star
  /-- In a comment that goes to the end of the line. -/
  | line
  /-- Behind something that is neither a comment nor white space. -/
  | code
deriving DecidableEq, Repr

namespace Place

/-- Where the reader is after the next character. -/
def next : Place → Char → Place
  | outside, c => if c = '/' then slash else if isSpacing c then outside else code
  | slash, c => if c = '*' then block else if c = '/' then line else code
  | block, c => if c = '*' then star else block
  | star, c => if c = '/' then outside else if c = '*' then star else block
  | line, c => if c = '\n' then outside else line
  | code, _ => code

/-- What makes the text that was read a text of comments. -/
def Completes : Place → List Char → Prop
  | outside, cs => Comments cs
  | slash, cs => Comments ('/' :: cs)
  | block, cs => Closes cs
  | star, cs => Closes ('*' :: cs)
  | line, cs => ClosesLine cs
  | code, _ => False

lemma completes_nil (p : Place) : p.Completes [] ↔ p = outside := by
  have hslash : ¬Comments ['/'] := by
    rintro (_ | ⟨hc, -⟩)
    exact absurd hc (by decide)
  have hblock : ¬Closes [] := by
    rintro ⟨body, rest, heq, -⟩
    simp [terminator] at heq
  have hstar : ¬Closes ['*'] := mt (closes_cons (by decide)).1 hblock
  have hline : ¬ClosesLine [] := by
    rintro ⟨body, rest, heq, -⟩
    simp at heq
  cases p with
  | outside => exact iff_of_true .nil rfl
  | slash => exact iff_of_false hslash (by decide)
  | block => exact iff_of_false hblock (by decide)
  | star => exact iff_of_false hstar (by decide)
  | line => exact iff_of_false hline (by decide)
  | code => exact iff_of_false id (by decide)

/-- One character more has been read. -/
lemma completes_cons (p : Place) (c : Char) (cs : List Char) :
    p.Completes (c :: cs) ↔ (p.next c).Completes cs := by
  cases p with
  | outside =>
      show Comments (c :: cs) ↔ _
      rw [next]
      split_ifs with hslash hspacing
      · rw [hslash]
        exact Iff.rfl
      · rw [comments_cons hslash]
        exact and_iff_right hspacing
      · rw [comments_cons hslash]
        exact iff_of_false (fun h => hspacing h.1) id
  | slash =>
      show Comments ('/' :: c :: cs) ↔ _
      rw [comments_slash_cons, next]
      split_ifs with hblock hline
      · simp [hblock, Completes]
      · simp [hline, Completes]
      · simp [hblock, hline, Completes]
  | block =>
      show Closes (c :: cs) ↔ _
      rw [next]
      split_ifs with hstar
      · rw [hstar]
        exact Iff.rfl
      · exact closes_cons fun h => hstar h.1
  | star =>
      show Closes ('*' :: c :: cs) ↔ _
      rw [next]
      split_ifs with hend hstar
      · rw [hend]
        exact closes_terminator
      · rw [hstar]
        exact closes_cons (by simp)
      -- Anything else behind the asterisk leaves the comment open.
      · have hfirst : ¬('*' = '*' ∧ (c :: cs).head? = some '/') := by simpa using hend
        rw [closes_cons hfirst]
        exact closes_cons fun h => hstar h.1
  | line =>
      show ClosesLine (c :: cs) ↔ _
      rw [next]
      split_ifs with hend
      · rw [hend]
        exact closesLine_newline
      · exact closesLine_cons hend
  | code => exact Iff.rfl

/-- **Reading on.**  Behind what was read, the reader sees whether the rest completes it. -/
lemma completes_iff (p : Place) (cs : List Char) :
    p.Completes cs ↔ cs.foldl next p = outside := by
  induction cs generalizing p with
  | nil => exact p.completes_nil
  | cons c cs ih => rw [completes_cons, ih, List.foldl_cons]

/-- In no place but one it is too late. -/
lemma exists_completes_iff (p : Place) : (∃ cs, p.Completes cs) ↔ p ≠ code := by
  constructor
  · rintro ⟨cs, hcs⟩ rfl
    exact hcs
  · intro h
    cases p with
    | outside => exact ⟨[], (completes_iff _ _).2 rfl⟩
    | slash => exact ⟨"**/".toList, (completes_iff _ _).2 rfl⟩
    | block => exact ⟨"*/".toList, (completes_iff _ _).2 rfl⟩
    | star => exact ⟨"/".toList, (completes_iff _ _).2 rfl⟩
    | line => exact ⟨"\n".toList, (completes_iff _ _).2 rfl⟩
    | code => exact absurd rfl h

end Place

/-- Where a reader of a whole text ends. -/
def placeAfter (cs : List Char) : Place :=
  cs.foldl Place.next .outside

section Place

variable {cs : List Char}

lemma comments_iff : Comments cs ↔ placeAfter cs = .outside :=
  Place.completes_iff .outside cs

lemma comments_append_iff (cs ds : List Char) :
    Comments (cs ++ ds) ↔ (placeAfter cs).Completes ds := by
  rw [comments_iff, Place.completes_iff, placeAfter, List.foldl_append]
  rfl

lemma exists_comments_iff : (∃ rest, Comments (cs ++ rest)) ↔ placeAfter cs ≠ .code := by
  rw [← Place.exists_completes_iff]
  exact exists_congr (comments_append_iff cs)

lemma Comments.append {ds : List Char} (hcs : Comments cs) (hds : Comments ds) :
    Comments (cs ++ ds) := by
  rw [comments_append_iff, comments_iff.1 hcs]
  exact hds

end Place

lemma comments_remark : Comments (spliced (generatedRemark ++ "\n")) :=
  comments_iff.2 (by decide)

/-- The remark ends a comment that is still open at the end of a line. -/
lemma comments_remark_iff (cs : List Char) :
    Comments (cs ++ ['\n'] ++ spliced (generatedRemark ++ "\n")) ↔
      ∃ rest, Comments (cs ++ ['\n'] ++ rest) := by
  have hplace : placeAfter (cs ++ ['\n']) = (placeAfter cs).next '\n' := by
    rw [placeAfter, List.foldl_append]
    rfl
  rw [exists_comments_iff, comments_append_iff, Place.completes_iff, hplace]
  -- Only three places are left behind a newline.
  cases placeAfter cs <;> decide

/-! ## Text inside a comment -/

/-- A text that ends no comment, whatever it is put behind. -/
def Sheltered (cs : List Char) : Prop :=
  Unclosed cs ∧ cs.head? ≠ some '/'

section Sheltered

variable {cs ds : List Char}

lemma Sheltered.append (hcs : Sheltered cs) (hds : Sheltered ds) : Sheltered (cs ++ ds) := by
  constructor
  · exact unclosed_append.2 ⟨hcs.1, hds.1, fun h => hds.2 h.2⟩
  · cases cs with
    | nil => exact hds.2
    | cons c cs => exact hcs.2

lemma Sheltered.of_prefix (hcs : Sheltered cs) (h : ds <+: cs) : Sheltered ds := by
  have hunclosed : Unclosed ds :=
    List.IsChain.prefix hcs.1 h
  refine ⟨hunclosed, fun hhead => hcs.2 ?_⟩
  obtain ⟨rest, rfl⟩ := h
  rw [List.head?_append, hhead, Option.some_or]

lemma Sheltered.flatMap {α : Type} {f : α → List Char} {xs : List α}
    (h : ∀ x ∈ xs, Sheltered (f x)) : Sheltered (xs.flatMap f) := by
  induction xs with
  | nil => exact ⟨List.isChain_nil, Option.some_ne_none _ ∘ Eq.symm⟩
  | cons x xs ih =>
      obtain ⟨hx, hxs⟩ := List.forall_mem_cons.1 h
      rw [List.flatMap_cons]
      exact hx.append (ih hxs)

/-- Lines that end no comment do not end one when they are joined. -/
lemma Sheltered.closeLine (hcs : Sheltered cs) : Sheltered (closeLine cs) := by
  have hline : Sheltered (withoutReturn cs) := hcs.of_prefix <| withoutReturn_prefix cs
  unfold MathHeader.closeLine
  split_ifs
  · exact hline.of_prefix <| List.dropLast_prefix _
  · exact hline.append ⟨by simp [Unclosed], by decide⟩

lemma sheltered_commentLine (line : String) : Sheltered (commentLine line).toList := by
  refine ⟨unclosed_commentLine line, ?_⟩
  unfold commentLine
  split_ifs
  · decide
  · rw [String.toList_append]
    rintro ⟨⟩

/-- Lines that are wrapped are a comment, also where some of them are joined. -/
lemma comments_wrapComment {ls : List String} (h : ∀ l ∈ ls, OneLine l) :
    Comments (spliced (unlines (wrapComment ls))) := by
  have hlines : ∀ l ∈ wrapComment ls, OneLine l := by
    intro l hl
    rw [wrapComment, List.cons_append, List.mem_cons, List.mem_append, List.mem_singleton,
      List.mem_map] at hl
    rcases hl with rfl | ⟨line, hline, rfl⟩ | rfl
    · decide
    · exact oneLine_commentLine (h line hline)
    · decide
  set body := (ls.map commentLine).flatMap fun l => closeLine l.toList
  have hbody : Sheltered body :=
    Sheltered.flatMap (List.forall_mem_map.2 fun l _ => (sheltered_commentLine l).closeLine)
  have hfirst : Unclosed ('\n' :: body ++ [' '] ++ ['*']) := by
    have hopen : Sheltered ['\n'] := ⟨by simp [Unclosed], by decide⟩
    have hclose : Sheltered [' ', '*'] := ⟨by simp [Unclosed], by decide⟩
    rw [List.append_assoc]
    exact (hopen.append (hbody.append hclose)).1
  have htext : spliced (unlines (wrapComment ls)) =
      '/' :: '*' :: ('\n' :: body ++ [' '] ++ terminator ++ ['\n']) := by
    rw [spliced_unlines hlines, wrapComment, List.flatMap_append, List.flatMap_cons]
    change '/' :: '*' :: '\n' :: (body ++ [' ', '*', '/', '\n']) = _
    simp [terminator]
  exact htext ▸ .block hfirst (.space rfl .nil)

end Sheltered

/-! ## The banner -/

section Banner

variable {c : Config} {license : String}

lemma comments_banner_of_wrapped (hlicense : c.license = some license)
    (hstart : startsComment (trimEnd license) = false) : Comments (spliced c.banner) := by
  have hbanner : c.banner = unlines (wrapComment (lines (trimEnd license))) ++
      unlines ["", generatedRemark] := by
    rw [Config.banner, bannerLines_of_license hlicense hstart, ← unlines_append]
    exact congrArg unlines (by simp [wrapComment])
  have hwrapped : Comments (spliced (unlines (wrapComment (lines (trimEnd license))))) :=
    comments_wrapComment fun l hl => oneLine_of_mem_lines hl
  have hremark : Comments (spliced (unlines ["", generatedRemark])) :=
    comments_iff.2 (by decide)
  rw [hbanner, spliced_append (isWhole_unlines _)]
  exact hwrapped.append hremark

/-- A license that is copied has to be made up of comments itself, as far as it goes. -/
lemma comments_banner_of_copied (hlicense : c.license = some license)
    (hstart : startsComment (trimEnd license) = true) :
    Comments (spliced c.banner) ↔
      ∃ rest, Comments (spliced (trimEnd license ++ "\n\n") ++ rest) := by
  have hnewlines : trimEnd license ++ "\n\n" = trimEnd license ++ "\n" ++ "\n" := by
    rw [String.append_assoc]
    rfl
  have hbanner : c.banner = trimEnd license ++ "\n" ++ "\n" ++ (generatedRemark ++ "\n") := by
    have hlines : c.bannerLines = [trimEnd license, "", generatedRemark] := by
      simp [Config.bannerLines, hlicense, licenseLines, hstart]
    rw [Config.banner, hlines, unlines_cons, ← hnewlines, String.append_assoc, String.append_assoc]
    rfl
  have hline : spliced (trimEnd license ++ "\n" ++ "\n") =
      spliced (trimEnd license ++ "\n") ++ ['\n'] :=
    spliced_append (.inr ⟨_, rfl⟩) "\n"
  rw [hbanner, spliced_append (.inr ⟨_, rfl⟩), hnewlines, hline]
  exact comments_remark_iff _

lemma startsComment_iff {text : String} :
    startsComment text = true ↔ "/*".toList <+: text.toList ∨ "//".toList <+: text.toList := by
  constructor
  · intro hstart
    by_contra hnone
    rw [not_or] at hnone
    rw [startsComment_eq_false hnone.1 hnone.2] at hstart
    cases hstart
  · rintro (⟨rest, htext⟩ | ⟨rest, htext⟩) <;>
      rw [startsComment, ← htext] <;> rfl

lemma exists_text_eq (h : Header) : ∃ behind,
    h.text = h.config.banner ++ ("\n#ifndef " ++ h.config.guard ++ "\n" ++ behind) := by
  have hopening : h.config.bannerLines ++ ["", "#ifndef " ++ h.config.guard] <+:
      Header.opening h.config :=
    (List.prefix_append_right_inj _).2 ⟨["#define " ++ h.config.guard, ""], rfl⟩
  obtain ⟨ls, hlines⟩ : h.config.bannerLines ++ ["", "#ifndef " ++ h.config.guard] <+: h.lines :=
    ((hopening.trans (List.prefix_append _ _)).trans (List.prefix_append _ _)).trans
      (List.prefix_append _ _)
  have hguard : unlines ["", "#ifndef " ++ h.config.guard] =
      "\n" ++ ("#ifndef " ++ h.config.guard ++ "\n") := by
    rw [unlines_cons, unlines_cons, unlines_nil, String.empty_append, String.append_empty]
  refine ⟨unlines ls, ?_⟩
  rw [Header.text, ← hlines, unlines_append, unlines_append, hguard, Config.banner]
  simp only [String.append_assoc]
  rfl

/-- **What a license can bring in.**  The text in front of a header is made up of comments in all
cases but one: a license starts like a comment, and no text behind it makes comments of it and the
empty line that follows.  Whatever stands in front, a compiler reads the guard behind it, on a line
of its own. -/
theorem comments_banner_iff (c : Config) :
    (Comments (spliced c.banner) ↔
      ∀ license, c.license = some license →
        "/*".toList <+: (trimEnd license).toList ∨ "//".toList <+: (trimEnd license).toList →
        ∃ rest, Comments (spliced (trimEnd license ++ "\n\n") ++ rest)) ∧
    ∀ declarations functions, ∃ behind,
      (Header.mk c declarations functions).text = c.banner ++ behind ∧
        ("\n#ifndef " ++ c.guard ++ "\n").toList <+: behind.toList ∧
        spliced (Header.mk c declarations functions).text = spliced c.banner ++ spliced behind := by
  constructor
  · cases hlicense : c.license with
    | none =>
        have hbanner : c.banner = generatedRemark ++ "\n" := by
          rw [Config.banner, Config.bannerLines, hlicense]
          rfl
        rw [hbanner]
        exact iff_of_true comments_remark (by rintro license ⟨⟩)
    | some license =>
        cases hstart : startsComment (trimEnd license) with
        | true =>
            rw [comments_banner_of_copied hlicense hstart]
            constructor
            · rintro hcomments _ ⟨⟩ -
              exact hcomments
            · intro hcomments
              exact hcomments license rfl (startsComment_iff.1 hstart)
        | false =>
            refine iff_of_true (comments_banner_of_wrapped hlicense hstart) ?_
            rintro _ ⟨⟩ hcopied
            rw [← startsComment_iff, hstart] at hcopied
            cases hcopied
  · intro declarations functions
    obtain ⟨behind, htext⟩ := exists_text_eq ⟨c, declarations, functions⟩
    refine ⟨_, htext, ?_, ?_⟩
    · exact ⟨behind.toList, String.toList_append.symm⟩
    · rw [htext]
      exact spliced_append (isWhole_unlines c.bannerLines) _

/-- Settings with a license that has code behind a comment. -/
def codeBehindComment : Config :=
  { Config.standard with license := some "/* MIT */ int x;" }

/-- The code stands in front of the header. -/
theorem not_comments_codeBehindComment :
    codeBehindComment.banner = "/* MIT */ int x;\n\n" ++ generatedRemark ++ "\n" ∧
      ¬Comments (spliced codeBehindComment.banner) := by
  have hcode : placeAfter (spliced (trimEnd "/* MIT */ int x;" ++ "\n\n")) = .code := by decide
  refine ⟨by decide, fun hcomments => ?_⟩
  have hlicense := (comments_banner_iff codeBehindComment).1.1 hcomments _ rfl (.inl (by decide))
  exact exists_comments_iff.1 hlicense hcode

end Banner

end MathHeader
