import MathHeader.Check.Matching
import MathHeader.Proofs.Traversal
import Mathlib.Order.Bounds.Basic

/-!
# Matching as a placement

A check file can be read without a walk.  Some of its directives are *placed* on lines of the text:
one that looks ahead on the first line after the previous placement that contains its pattern, one
for the next line on that line, and `CHECK-EMPTY` on the next line too, unless the text has ended.
A pattern that has to be absent is absent from all lines between the placement before it and the
next match of a pattern after it.

`Placed` says that of a numbering of the directives, and `validate_eq_ok_iff_placed` that a text
matches exactly if there is such a numbering.  The walk collects the absent patterns and looks for
them later, in the lines from the current one on.  It may have passed blank lines in between, so the
two readings agree for patterns that no blank line contains.
-/

namespace MathHeader.Check

/-! ## Remarks -/

/-- Whether a directive is a remark. -/
def Directive.isComment : Directive → Bool
  | comment _ => true
  | _ => false

/-- Remarks have no influence on the walk. -/
lemma matchLines_filter_isComment (ls pending : List String) (ds : List Directive) :
    matchLines ls pending (ds.filter (!·.isComment)) = matchLines ls pending ds := by
  induction ds generalizing ls pending with
  | nil => rfl
  | cons d ds ih =>
      cases d with
      | comment text =>
          rw [List.filter_cons_of_neg (by simp [Directive.isComment]), matchLines, ih]
      | absent pattern =>
          rw [List.filter_cons_of_pos rfl, matchLines, matchLines, ih]
      | anchor kind pattern =>
          rw [List.filter_cons_of_pos rfl, matchLines, matchLines]
          simp only [ih]
      | next pattern =>
          rw [List.filter_cons_of_pos rfl]
          cases ls <;> simp only [matchLines, ih]
      | empty =>
          rw [List.filter_cons_of_pos rfl]
          cases ls <;> simp only [matchLines, ih]

/-! ## The placements around a directive -/

def Directive.isPlaced : Directive → Bool
  | anchor _ _ | next _ | empty => true
  | absent _ | comment _ => false

/-- Whether a directive is placed on a line that contains its pattern. -/
def Directive.isMatch : Directive → Bool
  | anchor _ _ | next _ => true
  | absent _ | empty | comment _ => false

/-- The number of the last directive that is placed; `start` if none is. -/
def lastLine (start : Int) (before : List (Directive × Int)) : Int :=
  before.foldl (fun n d => if d.1.isPlaced then d.2 else n) start

/-- The number of the first directive that matches a pattern; `stop` if none does. -/
def matchLine (stop : Int) (after : List (Directive × Int)) : Int :=
  match after.find? (·.1.isMatch) with
  | some d => d.2
  | none => stop

lemma matchLine_cons (stop n : Int) (d : Directive) (after : List (Directive × Int)) :
    matchLine stop ((d, n) :: after) = if d.isMatch then n else matchLine stop after := by
  rw [matchLine, List.find?_cons]
  cases d.isMatch <;> rfl

/-! ## Placements -/

/-- A text has a given line with a given number, counted from zero. -/
def LineAt (ls : List String) (n : Int) (line : String) : Prop :=
  ∃ i : Nat, n = i ∧ ls[i]? = some line

/-- The line with a given number contains a pattern. -/
def Found (ls : List String) (pattern : String) (n : Int) : Prop :=
  ∃ line, LineAt ls n line ∧ pattern.toList <:+: line.toList

/-- The line with a given number holds nothing but blanks. -/
def FoundBlank (ls : List String) (n : Int) : Prop :=
  ∃ line, LineAt ls n line ∧ ∀ c ∈ line.toList, Text.isBlank c = true

/-- No line strictly between two numbers contains one of the patterns. -/
def Clear (ls patterns : List String) (prev stop : Int) : Prop :=
  ∀ pattern ∈ patterns, ∀ k, prev < k → k < stop → ¬Found ls pattern k

/-- Whether a directive with the number `n` is as it should be, if `prev` is the number of the
placement before it and `stop` that of the next match after it. -/
def Directive.Obeyed (ls : List String) (prev stop n : Int) : Directive → Prop
  | anchor _ pattern => IsLeast {k | prev < k ∧ Found ls pattern k} n
  | next pattern => n = prev + 1 ∧ Found ls pattern n
  | empty => (n = prev + 1 ∧ FoundBlank ls n) ∨ (n = prev ∧ (ls.length : Int) ≤ prev + 1)
  | absent pattern => Clear ls [pattern] prev stop
  | comment _ => True

/-- **Placements.**  Each directive is as it should be with its number, where `start` stands in
front of the first one.  Directives that are not placed have a number too, which does not matter. -/
def Placed (ls : List String) (start : Int) (ds : List (Directive × Int)) : Prop :=
  ∀ before d n after, ds = before ++ (d, n) :: after →
    d.Obeyed ls (lastLine start before) (matchLine ls.length after) n

lemma placed_cons {ls : List String} {start n : Int} {d : Directive}
    {ds : List (Directive × Int)} :
    Placed ls start ((d, n) :: ds) ↔
      d.Obeyed ls start (matchLine ls.length ds) n ∧
        Placed ls (if d.isPlaced then n else start) ds := by
  constructor
  · intro h
    refine ⟨h [] d n ds rfl, fun before d' n' after hds => ?_⟩
    exact h ((d, n) :: before) d' n' after (congrArg ((d, n) :: ·) hds)
  · rintro ⟨hhead, htail⟩ before d' n' after hds
    cases before with
    | nil =>
        cases hds
        exact hhead
    | cons first before =>
        rw [List.cons_append, List.cons_eq_cons] at hds
        obtain ⟨rfl, hds⟩ := hds
        exact htail before d' n' after hds

/-! ## One directive at a time -/

/-- Directives have a placement after `start` in which the pending patterns are absent until the
first match. -/
def Placeable (ls : List String) (start : Int) (pending : List String) (ds : List Directive) :
    Prop :=
  ∃ placed, placed.map (·.1) = ds ∧ Placed ls start placed ∧
    Clear ls pending start (matchLine ls.length placed)

section Placeable

variable {ls pending : List String} {start : Int} {pattern : String} {ds : List Directive}

lemma clear_nil (ls : List String) (prev stop : Int) : Clear ls [] prev stop :=
  fun _ hpattern => absurd hpattern List.not_mem_nil

lemma placeable_nil : Placeable ls start pending [] ↔ Clear ls pending start ls.length := by
  constructor
  · rintro ⟨placed, hmap, -, hclear⟩
    rwa [List.map_eq_nil_iff.1 hmap] at hclear
  · intro hclear
    refine ⟨[], rfl, fun before d n after hnil => ?_, hclear⟩
    exact absurd hnil.symm (List.append_ne_nil_of_right_ne_nil _ (List.cons_ne_nil _ _))

/-- A directive gets a number, and the others are placed after it. -/
lemma placeable_cons {d : Directive} :
    Placeable ls start pending (d :: ds) ↔
      ∃ n rest, rest.map (·.1) = ds ∧
        (d.Obeyed ls start (matchLine ls.length rest) n ∧
          Placed ls (if d.isPlaced then n else start) rest) ∧
        Clear ls pending start (if d.isMatch then n else matchLine ls.length rest) := by
  constructor
  · rintro ⟨placed, hmap, hplaced, hclear⟩
    obtain ⟨⟨d', n⟩, rest, rfl, rfl, hrest⟩ := List.map_eq_cons_iff.1 hmap
    exact ⟨n, rest, hrest, placed_cons.1 hplaced, matchLine_cons _ _ _ rest ▸ hclear⟩
  · rintro ⟨n, rest, hrest, hplaced, hclear⟩
    refine ⟨(d, n) :: rest, by rw [List.map_cons, hrest], placed_cons.2 hplaced, ?_⟩
    rwa [matchLine_cons]

lemma placeable_comment {text : String} :
    Placeable ls start pending (.comment text :: ds) ↔ Placeable ls start pending ds := by
  rw [placeable_cons]
  constructor
  · rintro ⟨n, rest, hrest, ⟨-, hplaced⟩, hclear⟩
    exact ⟨rest, hrest, hplaced, hclear⟩
  · rintro ⟨rest, hrest, hplaced, hclear⟩
    exact ⟨start, rest, hrest, ⟨trivial, hplaced⟩, hclear⟩

lemma placeable_absent :
    Placeable ls start pending (.absent pattern :: ds) ↔
      Placeable ls start (pending ++ [pattern]) ds := by
  have hclear (stop : Int) : Clear ls (pending ++ [pattern]) start stop ↔
      Clear ls pending start stop ∧ Clear ls [pattern] start stop :=
    List.forall_mem_append
  rw [placeable_cons]
  constructor
  · rintro ⟨n, rest, hrest, ⟨habsent, hplaced⟩, hpending⟩
    exact ⟨rest, hrest, hplaced, (hclear _).2 ⟨hpending, habsent⟩⟩
  · rintro ⟨rest, hrest, hplaced, hboth⟩
    obtain ⟨hpending, habsent⟩ := (hclear _).1 hboth
    exact ⟨start, rest, hrest, ⟨habsent, hplaced⟩, hpending⟩

/-- A directive that looks ahead is placed on the first line with its pattern, and the pending
patterns are absent before it. -/
lemma placeable_anchor {kind : Anchor} :
    Placeable ls start pending (.anchor kind pattern :: ds) ↔
      ∃ n, IsLeast {k | start < k ∧ Found ls pattern k} n ∧ Clear ls pending start n ∧
        Placeable ls n [] ds := by
  rw [placeable_cons]
  constructor
  · rintro ⟨n, rest, hrest, ⟨hleast, hplaced⟩, hclear⟩
    exact ⟨n, hleast, hclear, rest, hrest, hplaced, clear_nil _ _ _⟩
  · rintro ⟨n, hleast, hclear, rest, hrest, hplaced, -⟩
    exact ⟨n, rest, hrest, ⟨hleast, hplaced⟩, hclear⟩

/-- A directive for the next line skips none, so that nothing is asked of the pending patterns. -/
lemma placeable_next :
    Placeable ls start pending (.next pattern :: ds) ↔
      Found ls pattern (start + 1) ∧ Placeable ls (start + 1) [] ds := by
  rw [placeable_cons]
  constructor
  · rintro ⟨n, rest, hrest, ⟨⟨rfl, hfound⟩, hplaced⟩, -⟩
    exact ⟨hfound, rest, hrest, hplaced, clear_nil _ _ _⟩
  · rintro ⟨hfound, rest, hrest, hplaced, -⟩
    refine ⟨start + 1, rest, hrest, ⟨⟨rfl, hfound⟩, hplaced⟩, fun q _ k hlow hhigh => ?_⟩
    exact absurd hhigh (Int.not_lt.2 hlow)

/-- A blank line is passed, and so is the end of the text. -/
lemma placeable_empty (hblank : FoundBlank ls (start + 1) →
      ∀ pattern ∈ pending, ¬Found ls pattern (start + 1)) :
    Placeable ls start pending (.empty :: ds) ↔
      FoundBlank ls (start + 1) ∧ Placeable ls (start + 1) pending ds ∨
        (ls.length : Int) ≤ start + 1 ∧ Placeable ls start pending ds := by
  rw [placeable_cons]
  constructor
  · rintro ⟨n, rest, hrest, ⟨⟨rfl, hfound⟩ | ⟨rfl, hend⟩, hplaced⟩, hclear⟩
    · refine .inl ⟨hfound, rest, hrest, hplaced, fun q hq k hlow => ?_⟩
      exact hclear q hq k (by omega)
    · exact .inr ⟨hend, rest, hrest, hplaced, hclear⟩
  · rintro (⟨hfound, rest, hrest, hplaced, hclear⟩ | ⟨hend, rest, hrest, hplaced, hclear⟩)
    · refine ⟨start + 1, rest, hrest, ⟨.inl ⟨rfl, hfound⟩, hplaced⟩, fun q hq k hlow hhigh => ?_⟩
      -- The pending patterns are absent from the blank line as well.
      rcases Int.lt_or_eq_of_le (Int.add_one_le_of_lt hlow) with hlow | rfl
      · exact hclear q hq k hlow hhigh
      · exact hblank hfound q hq
    · exact ⟨start, rest, hrest, ⟨.inr ⟨rfl, hend⟩, hplaced⟩, hclear⟩

end Placeable

/-! ## The two searches -/

lemma contains_iff {line pattern : String} :
    Text.contains line pattern = true ↔ pattern.toList <:+: line.toList :=
  Text.occursIn_iff

lemma checkAbsent_eq_ok_iff {ls patterns : List String} :
    checkAbsent ls patterns = .ok () ↔
      ∀ pattern ∈ patterns, ∀ line ∈ ls, ¬pattern.toList <:+: line.toList := by
  induction patterns with
  | nil => simp [checkAbsent]
  | cons pattern patterns ih =>
      rw [checkAbsent, List.forall_mem_cons]
      cases hfind : ls.find? fun line => Text.contains line pattern with
      | some line =>
          have hcontains : Text.contains line pattern = true := by
            simpa using List.find?_some hfind
          have hmem := List.mem_of_find?_eq_some hfind
          simp only [reduceCtorEq, false_iff]
          exact fun h => h.1 line hmem (contains_iff.1 hcontains)
      | none =>
          simp only [List.find?_eq_none, contains_iff] at hfind
          exact ih.trans (and_iff_right hfind).symm

/-- What the search for a pattern comes to. -/
lemma splitAtMatch_spec (pattern : String) (ls : List String) :
    match splitAtMatch pattern ls with
    | some (skipped, rest) => ∃ line, ls = skipped ++ line :: rest ∧
        pattern.toList <:+: line.toList ∧ ∀ l ∈ skipped, ¬pattern.toList <:+: l.toList
    | none => ∀ l ∈ ls, ¬pattern.toList <:+: l.toList := by
  induction ls with
  | nil => exact fun l hl => absurd hl List.not_mem_nil
  | cons line ls ih =>
      rw [splitAtMatch]
      by_cases h : Text.contains line pattern = true
      · rw [if_pos h]
        exact ⟨line, rfl, contains_iff.1 h, fun l hl => absurd hl List.not_mem_nil⟩
      · rw [if_neg h]
        have hline := mt contains_iff.2 h
        cases hsplit : splitAtMatch pattern ls with
        | none =>
            rw [hsplit] at ih
            exact List.forall_mem_cons.2 ⟨hline, ih⟩
        | some parts =>
            obtain ⟨skipped, rest⟩ := parts
            rw [hsplit] at ih
            obtain ⟨found, hls, hfound, hskipped⟩ := ih
            exact ⟨found, congrArg (line :: ·) hls, hfound,
              List.forall_mem_cons.2 ⟨hline, hskipped⟩⟩

/-! ## Searches and line numbers -/

section Numbers

variable {ls front middle rest patterns : List String} {pattern line : String}

lemma LineAt.unique {n : Int} {line' : String} (h : LineAt ls n line) (h' : LineAt ls n line') :
    line = line' := by
  obtain ⟨i, rfl, hi⟩ := h
  obtain ⟨j, hij, hj⟩ := h'
  obtain rfl : i = j := by omega
  rw [hi] at hj
  exact Option.some.inj hj

/-- A line after `front` is reached by its distance. -/
lemma lineAt_iff {n : Int} (hls : ls = front ++ rest) (hn : front.length ≤ n) :
    LineAt ls n line ↔ ∃ j : Nat, n = front.length + j ∧ rest[j]? = some line := by
  constructor
  · rintro ⟨i, rfl, hline⟩
    have hle : front.length ≤ i := by omega
    rw [hls, List.getElem?_append_right hle] at hline
    exact ⟨i - front.length, by omega, hline⟩
  · rintro ⟨j, rfl, hline⟩
    refine ⟨front.length + j, by push_cast; rfl, ?_⟩
    rw [hls, List.getElem?_append_right (Nat.le_add_right _ _), Nat.add_sub_cancel_left]
    exact hline

lemma lineAt_next (hls : ls = front ++ line :: rest) : LineAt ls front.length line :=
  (lineAt_iff hls le_rfl).2 ⟨0, (Int.add_zero _).symm, rfl⟩

lemma not_lineAt_length (hls : ls = front) : ¬LineAt ls front.length line := by
  rw [lineAt_iff (hls.trans (List.append_nil front).symm) le_rfl]
  rintro ⟨j, -, hline⟩
  cases hline

lemma found_next_iff (hls : ls = front ++ line :: rest) :
    Found ls pattern front.length ↔ pattern.toList <:+: line.toList := by
  constructor
  · rintro ⟨line', hline', hpattern⟩
    exact hline'.unique (lineAt_next hls) ▸ hpattern
  · exact fun hpattern => ⟨line, lineAt_next hls, hpattern⟩

lemma foundBlank_next_iff (hls : ls = front ++ line :: rest) :
    FoundBlank ls front.length ↔ isBlankLine line = true := by
  rw [isBlankLine, List.all_eq_true]
  constructor
  · rintro ⟨line', hline', hblank⟩
    exact hline'.unique (lineAt_next hls) ▸ hblank
  · exact fun hblank => ⟨line, lineAt_next hls, hblank⟩

/-- The lines `middle` after `front` are those with the numbers in between. -/
lemma clear_iff (hls : ls = front ++ (middle ++ rest)) :
    Clear ls patterns (front.length - 1) (front.length + middle.length) ↔
      ∀ pattern ∈ patterns, ∀ line ∈ middle, ¬pattern.toList <:+: line.toList := by
  refine forall₂_congr fun pattern _ => ?_
  constructor
  · intro h line hline hpattern
    obtain ⟨j, hj, rfl⟩ := List.getElem_of_mem hline
    have hline : LineAt ls (front.length + j) middle[j] := (lineAt_iff hls (by omega)).2
      ⟨j, rfl, by rw [List.getElem?_append_left hj, List.getElem?_eq_getElem hj]⟩
    exact h _ (by omega) (by omega) ⟨_, hline, hpattern⟩
  · rintro h k hlow hhigh ⟨line, hline, hpattern⟩
    obtain ⟨j, rfl, hj⟩ := (lineAt_iff hls (by omega)).1 hline
    rw [List.getElem?_append_left (by omega)] at hj
    exact h line (List.mem_of_getElem? hj) hpattern

/-- The first line that contains a pattern stands behind those that do not. -/
lemma isLeast_found (hls : ls = front ++ (middle ++ line :: rest))
    (hline : pattern.toList <:+: line.toList)
    (hmiddle : ∀ l ∈ middle, ¬pattern.toList <:+: l.toList) :
    IsLeast {k | (front.length : Int) - 1 < k ∧ Found ls pattern k}
      (front.length + middle.length) := by
  have hclear : Clear ls [pattern] (front.length - 1) (front.length + middle.length) :=
    (clear_iff hls).2 (List.forall_mem_singleton.2 hmiddle)
  constructor
  · refine ⟨by omega, line, (lineAt_iff hls (by omega)).2 ⟨middle.length, rfl, ?_⟩, hline⟩
    simp
  · rintro k ⟨hlow, hfound⟩
    by_contra hhigh
    exact hclear pattern (List.mem_singleton_self pattern) k hlow (by omega) hfound

end Numbers

/-! ## The walk from any line on -/

/-- Whether a pattern has a character that no blank line has. -/
def HasVisible (pattern : String) : Prop :=
  ∃ c ∈ pattern.toList, Text.isBlank c = false

lemma HasVisible.not_found {ls : List String} {pattern : String} {n : Int}
    (h : HasVisible pattern) (hblank : FoundBlank ls n) : ¬Found ls pattern n := by
  obtain ⟨c, hc, hvisible⟩ := h
  obtain ⟨line, hline, hblank⟩ := hblank
  rintro ⟨line', hline', hpattern⟩
  obtain rfl := hline.unique hline'
  rw [hblank c (hpattern.subset hc)] at hvisible
  cases hvisible

/-- The walk with some directives succeeds exactly if they have a placement, from any line on and
with any collected patterns. -/
def WalkPlaces (ls : List String) (ds : List Directive) : Prop :=
  ∀ ⦃front remaining pending : List String⦄, ls = front ++ remaining →
    (∀ pattern ∈ pending, HasVisible pattern) →
    (matchLines remaining pending ds = .ok () ↔ Placeable ls (front.length - 1) pending ds)

section WalkPlaces

variable {ls front : List String} {pattern : String} {ds : List Directive}

/-- The walk goes on behind some lines and the one that a directive is placed on. -/
lemma WalkPlaces.after (h : WalkPlaces ls ds) (skipped : List String) {rest pending : List String}
    {line : String} (hls : ls = front ++ (skipped ++ line :: rest))
    (hpending : ∀ pattern ∈ pending, HasVisible pattern) :
    matchLines rest pending ds = .ok () ↔
      Placeable ls (front.length + skipped.length) pending ds := by
  have hfront : ls = (front ++ (skipped ++ [line])) ++ rest := by simp [hls]
  have hlength : ((front ++ (skipped ++ [line])).length : Int) - 1 =
      front.length + skipped.length := by
    simp only [List.length_append, List.length_singleton]
    omega
  rw [h hfront hpending, hlength]

lemma WalkPlaces.after_next (h : WalkPlaces ls ds) {rest pending : List String} {line : String}
    (hls : ls = front ++ line :: rest) (hpending : ∀ pattern ∈ pending, HasVisible pattern) :
    matchLines rest pending ds = .ok () ↔ Placeable ls front.length pending ds := by
  rw [h.after [] hls hpending]
  simp

lemma hasVisible_nil : ∀ pattern ∈ ([] : List String), HasVisible pattern :=
  fun _ hmem => absurd hmem List.not_mem_nil

lemma walkPlaces_nil : WalkPlaces ls [] := by
  intro front remaining pending hls _
  have hlength : (ls.length : Int) = front.length + remaining.length := by
    rw [hls, List.length_append]
    push_cast
    rfl
  have hall : ls = front ++ (remaining ++ []) := by rw [hls, List.append_nil]
  rw [matchLines, checkAbsent_eq_ok_iff, placeable_nil, hlength, clear_iff hall]

lemma WalkPlaces.comment (h : WalkPlaces ls ds) (text : String) :
    WalkPlaces ls (.comment text :: ds) := by
  intro front remaining pending hls hpending
  rw [matchLines, placeable_comment, h hls hpending]

lemma WalkPlaces.absent (h : WalkPlaces ls ds) (hpattern : HasVisible pattern) :
    WalkPlaces ls (.absent pattern :: ds) := by
  intro front remaining pending hls hpending
  rw [matchLines, placeable_absent]
  exact h hls (List.forall_mem_append.2 ⟨hpending, List.forall_mem_singleton.2 hpattern⟩)

lemma WalkPlaces.anchor (h : WalkPlaces ls ds) (kind : Anchor) :
    WalkPlaces ls (.anchor kind pattern :: ds) := by
  intro front remaining pending hls hpending
  have hsplit := splitAtMatch_spec pattern remaining
  rw [matchLines, placeable_anchor]
  cases hfound : splitAtMatch pattern remaining with
  | none =>
      rw [hfound] at hsplit
      simp only [reduceCtorEq, false_iff, not_exists]
      rintro n ⟨⟨⟨hlow, line, hline, hpattern⟩, -⟩, -⟩
      -- A place of the pattern would be among the remaining lines.
      obtain ⟨j, -, hj⟩ := (lineAt_iff hls (by omega)).1 hline
      exact hsplit line (List.mem_of_getElem? hj) hpattern
  | some parts =>
      obtain ⟨skipped, rest⟩ := parts
      rw [hfound] at hsplit
      obtain ⟨line, rfl, hline, hskipped⟩ := hsplit
      have hleast := isLeast_found hls hline hskipped
      have hskip : checkAbsent skipped pending = .ok () ↔
          Clear ls pending (front.length - 1) (front.length + skipped.length) :=
        checkAbsent_eq_ok_iff.trans (clear_iff hls).symm
      have hrest := h.after skipped hls hasVisible_nil
      simp only [bind_eq_ok_iff]
      constructor
      · rintro ⟨⟨⟩, habsent, hwalk⟩
        exact ⟨_, hleast, hskip.1 habsent, hrest.1 hwalk⟩
      · rintro ⟨n, hn, hclear, hplaceable⟩
        obtain rfl := hn.unique hleast
        exact ⟨(), hskip.2 hclear, hrest.2 hplaceable⟩

lemma WalkPlaces.next (h : WalkPlaces ls ds) : WalkPlaces ls (.next pattern :: ds) := by
  intro front remaining pending hls hpending
  rw [placeable_next, Int.sub_add_cancel]
  cases remaining with
  | nil =>
      have hend : ¬Found ls pattern front.length := fun ⟨_, hline, _⟩ =>
        not_lineAt_length (hls.trans (List.append_nil front)) hline
      simp [matchLines, hend]
  | cons line rest =>
      rw [matchLines, found_next_iff hls, ← contains_iff]
      split
      next hline => rw [h.after_next hls hasVisible_nil, and_iff_right hline]
      next hline => simp [hline]

lemma WalkPlaces.empty (h : WalkPlaces ls ds) : WalkPlaces ls (.empty :: ds) := by
  intro front remaining pending hls hpending
  rw [placeable_empty fun hblank pattern hpattern => (hpending pattern hpattern).not_found hblank,
    Int.sub_add_cancel]
  cases remaining with
  | nil =>
      have hend : ¬FoundBlank ls front.length := fun ⟨_, hline, _⟩ =>
        not_lineAt_length (hls.trans (List.append_nil front)) hline
      have hlength : (ls.length : Int) ≤ front.length := by simp [hls]
      simp [matchLines, hend, hlength, h hls hpending]
  | cons line rest =>
      have hlength : ¬(ls.length : Int) ≤ front.length := by
        simp only [hls, List.length_append, List.length_cons]
        omega
      rw [matchLines, foundBlank_next_iff hls]
      split
      next hline => simp [hline, hlength, h.after_next hls hpending]
      next hline => simp [hline, hlength]

end WalkPlaces

/-- **The walk.**  It succeeds exactly if the directives have a placement. -/
theorem walkPlaces (ls : List String) {ds : List Directive}
    (hds : ∀ pattern, .absent pattern ∈ ds → HasVisible pattern) : WalkPlaces ls ds := by
  induction ds with
  | nil => exact walkPlaces_nil
  | cons d ds ih =>
      have hrest := ih fun pattern hmem => hds pattern (List.mem_cons_of_mem d hmem)
      cases d with
      | comment text => exact hrest.comment text
      | absent pattern => exact hrest.absent (hds pattern List.mem_cons_self)
      | anchor kind pattern => exact hrest.anchor kind
      | next pattern => exact hrest.next
      | empty => exact hrest.empty

/-! ## The whole -/

/-- **Matching is a placement.**  A text matches directives, whose absent patterns have a visible
character, exactly if the directives have a placement in it.  Remarks have no influence. -/
theorem validate_eq_ok_iff_placed {text : String} {ds : List Directive}
    (hds : ∀ pattern, .absent pattern ∈ ds → HasVisible pattern) :
    (validate text ds = .ok () ↔
      ∃ placed, placed.map (·.1) = ds ∧ Placed (Text.lines text) (-1) placed) ∧
    validate text (ds.filter (!·.isComment)) = validate text ds := by
  refine ⟨?_, matchLines_filter_isComment _ _ _⟩
  have hwalk : validate text ds = .ok () ↔ Placeable (Text.lines text) (-1) [] ds :=
    walkPlaces _ hds (List.nil_append _).symm hasVisible_nil
  rw [hwalk]
  constructor
  · rintro ⟨placed, hmap, hplaced, -⟩
    exact ⟨placed, hmap, hplaced⟩
  · rintro ⟨placed, hmap, hplaced⟩
    exact ⟨placed, hmap, hplaced, clear_nil _ _ _⟩

/-- A text that ends in a blank line, with an absent pattern that is looked for up to the end. -/
theorem exists_placed_small :
    (∀ pattern, Directive.absent pattern ∈ [.anchor .label "begin", .absent "two", .empty] →
      HasVisible pattern) ∧
    ∃ placed, placed.map (·.1) = [.anchor .label "begin", .absent "two", .empty] ∧
      Placed (Text.lines "one\n// begin\n \t\n") (-1) placed := by
  have hvisible : ∀ pattern, Directive.absent pattern ∈
      [.anchor .label "begin", .absent "two", .empty] → HasVisible pattern := by
    intro pattern hmem
    obtain rfl : pattern = "two" := by simpa using hmem
    exact ⟨'t', by simp, by decide⟩
  exact ⟨hvisible, (validate_eq_ok_iff_placed hvisible).1.1 (by decide)⟩

end MathHeader.Check
