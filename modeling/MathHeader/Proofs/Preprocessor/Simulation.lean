import MathHeader.Detection.Block
import MathHeader.Proofs.Preprocessor.Directive
import MathHeader.Proofs.Preprocessor.Meaning

/-!
# Preprocessing a block

Resolving a block walks its nodes, and a compiler goes through the lines of its text with a stack of
open groups.  The two come to the same: `preprocess_blockText`.

The recursion of the walk turns up in the stack.  Lines that are skipped leave the machine as it is
(`block_run_skip`), since a group that is opened among them never gets an alternative.  Lines that
count take the machine to where the walk of their nodes leads (`block_run_walk`), or stop it with
the message that the walk stops at.  In both cases what follows is left to be run, so that the
lemmas chain.

What evaluates conditions and values is left open, as long as it agrees with them; the expression
grammar does (`agrees_grammar`).
-/

namespace MathHeader.Preprocessor

/-! ## A preprocessor that goes by lines -/

/-- What evaluates the texts of conditions and values. -/
structure Evaluator where
  holds : MacroTable → String → Bool
  value : MacroTable → String → Int64

/-- What a group of alternatives has come to. -/
inductive Fate where
  /-- The alternative under way is the one that is taken. -/
  | live
  /-- No alternative is taken yet. -/
  | waiting
  /-- No further alternative is taken. -/
  | finished
deriving DecidableEq, Repr

/-- The fate of a group after one more alternative. -/
def Fate.next (holds : Bool) : Fate → Fate
  | live => finished
  | waiting => if holds then live else waiting
  | finished => finished

/-- Why preprocessing stopped. -/
inductive Stop where
  /-- An `#error` was reached. -/
  | message (message : String)
  /-- A line is no directive, or a group is not closed by its own `#endif`. -/
  | malformed
deriving DecidableEq, Repr

/-- Whether the next line counts: all groups around it are at the alternative that is taken. -/
def isLive (groups : List Fate) : Bool :=
  groups.all (· == .live)

/-- The groups that are open, the innermost first, and what is defined and included so far. -/
structure Machine where
  groups : List Fate
  resolution : Resolution

namespace Machine

/-- The machine in front of the first alternative of a new group.  In a part that is skipped no
alternative is taken. -/
def opened (m : Machine) : Machine :=
  { m with groups := (if isLive m.groups then .waiting else .finished) :: m.groups }

/-- The machine after a line that opens an alternative of the innermost group. -/
def next (m : Machine) (holds : Bool) : Except Stop Machine :=
  match m.groups with
  | [] => .error .malformed
  | fate :: groups => .ok { m with groups := fate.next holds :: groups }

/-- The machine after the line that closes the innermost group. -/
def closed (m : Machine) : Except Stop Machine :=
  match m.groups with
  | [] => .error .malformed
  | _ :: groups => .ok { m with groups }

/-- The machine with another resolution, unless the line is skipped. -/
def update (m : Machine) (f : Resolution → Resolution) : Machine :=
  if isLive m.groups then { m with resolution := f m.resolution } else m

/-- The machine after a line. -/
def step (ev : Evaluator) (m : Machine) : Directive → Except Stop Machine
  | .opening condition => m.opened.next (ev.holds m.resolution.macros condition)
  | .further condition => m.next (ev.holds m.resolution.macros condition)
  | .otherwise => m.next true
  | .closing => m.closed
  | .define name value =>
    .ok (m.update fun r => { r with macros := r.macros.define name (ev.value r.macros value) })
  | .include header => .ok (m.update fun r => { r with includes := r.includes ++ [header] })
  | .error message => if isLive m.groups then .error (.message message) else .ok m
  | .nothing => .ok m
  | .unknown => .error .malformed

/-- What the lines come to. -/
def run (ev : Evaluator) : List Directive → Machine → Except Stop Resolution
  | [], m => if m.groups.isEmpty then .ok m.resolution else .error .malformed
  | d :: ds, m =>
    match m.step ev d with
    | .ok m => run ev ds m
    | .error stop => .error stop

end Machine

/-- What a text comes to, after what is defined and included already. -/
def preprocess (ev : Evaluator) (text : String) (r : Resolution) : Except Stop Resolution :=
  Machine.run ev (directives text) ⟨[], r⟩

/-! ## Nested groups -/

/-- Whether every group is closed by its own line, and an alternative for when no condition holds is
the last of its group.  Of each open group, the innermost first, it is known whether it has had
that alternative. -/
def isNested (groups : List Bool) : List Directive → Bool
  | [] => groups.isEmpty
  | .opening _ :: ds => isNested (false :: groups) ds
  | .further _ :: ds =>
    match groups with
    | false :: groups => isNested (false :: groups) ds
    | _ => false
  | .otherwise :: ds =>
    match groups with
    | false :: groups => isNested (true :: groups) ds
    | _ => false
  | .closing :: ds =>
    match groups with
    | _ :: groups => isNested groups ds
    | [] => false
  | .unknown :: _ => false
  | _ :: ds => isNested groups ds

/-! ## What a block asks of a preprocessor -/

/-- Whether alternatives start with one that has a condition. -/
def Arms.isArm : Arms → Bool
  | .arm _ _ _ => true
  | _ => false

mutual

/-- Whether every chain in a node has an alternative with a condition. -/
def Node.hasArms : Node → Bool
  | .chain _ arms => arms.isArm && arms.hasArms
  | _ => true

/-- Whether every chain in alternatives has an alternative with a condition. -/
def Arms.hasArms : Arms → Bool
  | .arm _ body rest => blockHasArms body && rest.hasArms
  | .otherwise body => blockHasArms body
  | _ => true

/-- Whether every chain in a block has an alternative with a condition. -/
def blockHasArms : List Node → Bool
  | [] => true
  | n :: ns => n.hasArms && blockHasArms ns

end

mutual

def Node.conditions : Node → List Condition
  | .chain _ arms => arms.conditions
  | .default name _ => [.undefined name]
  | _ => []

/-- The conditions that alternatives are written with. -/
def Arms.conditions : Arms → List Condition
  | .arm condition body rest => condition :: (blockConditions body ++ rest.conditions)
  | .otherwise body => blockConditions body
  | _ => []

def blockConditions : List Node → List Condition
  | [] => []
  | n :: ns => n.conditions ++ blockConditions ns

end

mutual

def Node.values : Node → List Value
  | .chain _ arms => arms.values
  | .define _ value => [value]
  | .default _ value => [value]
  | _ => []

/-- The values that alternatives are written with. -/
def Arms.values : Arms → List Value
  | .arm _ body rest => blockValues body ++ rest.values
  | .otherwise body => blockValues body
  | _ => []

def blockValues : List Node → List Value
  | [] => []
  | n :: ns => n.values ++ blockValues ns

end

/-- **Agreement.**  The texts of the conditions and values are evaluated like these themselves, in
every table. -/
structure Evaluator.Agrees (ev : Evaluator) (cs : List Condition) (vs : List Value) : Prop where
  holds_eq : ∀ c ∈ cs, ∀ t, ev.holds t c.text = c.holds t
  value_eq : ∀ v ∈ vs, ∀ t, ev.value t v.text = v.eval t

lemma Evaluator.Agrees.mono {ev : Evaluator} {cs cs' : List Condition} {vs vs' : List Value}
    (h : ev.Agrees cs vs) (hcs : cs' ⊆ cs) (hvs : vs' ⊆ vs) : ev.Agrees cs' vs' :=
  ⟨fun c hc => h.holds_eq c (hcs hc), fun v hv => h.value_eq v (hvs hv)⟩

/-! ## The directives of a block are nested -/

/-- The first alternative of a chain opens a group and is then like a further one. -/
lemma isNested_opening {arms : Arms} (h : arms.isArm = true) (groups : List Bool)
    (ds : List Directive) :
    isNested groups (arms.directives .opening ++ ds) =
      isNested (false :: groups) (arms.directives .further ++ ds) := by
  cases arms with
  | arm condition body rest => rfl
  | _ => cases h

mutual

lemma Node.isNested_directives : (n : Node) → n.hasArms = true → (groups : List Bool) →
    (ds : List Directive) → isNested groups (n.directives ++ ds) = isNested groups ds
  | .chain _ arms, h, groups, ds => by
      rw [Node.hasArms, Bool.and_eq_true] at h
      rw [Node.directives, List.append_assoc, isNested_opening h.1]
      exact Arms.isNested_directives arms h.2 groups ds
  | .define _ _, _, _, _ => rfl
  | .default _ _, _, _, _ => rfl
  | .include _, _, _, _ => rfl
  | .error _, _, _, _ => rfl
  | .comment _, _, _, _ => rfl
  | .blank, _, _, _ => rfl

lemma Arms.isNested_directives : (arms : Arms) → arms.hasArms = true → (groups : List Bool) →
    (ds : List Directive) →
      isNested (false :: groups) (arms.directives .further ++ ([.closing] ++ ds)) =
        isNested groups ds
  | .arm condition body rest, h, groups, ds => by
      rw [Arms.hasArms, Bool.and_eq_true] at h
      have hbody := block_isNested body h.1 (false :: groups)
        (rest.directives .further ++ ([.closing] ++ ds))
      rw [Arms.directives, List.cons_append, List.append_assoc, isNested, hbody]
      exact Arms.isNested_directives rest h.2 groups ds
  | .done, _, _, _ => rfl
  | .otherwise body, h, groups, ds =>
      block_isNested body h (true :: groups) (.closing :: ds)
  | .fail _, _, _, _ => rfl

lemma block_isNested : (ns : List Node) → blockHasArms ns = true → (groups : List Bool) →
    (ds : List Directive) → isNested groups (blockDirectives ns ++ ds) = isNested groups ds
  | [], _, _, _ => rfl
  | n :: ns, h, groups, ds => by
      rw [blockHasArms, Bool.and_eq_true] at h
      rw [blockDirectives, List.append_assoc, Node.isNested_directives n h.1,
        block_isNested ns h.2]

end

/-! ## Skipped parts -/

section Run

open Machine

variable {ev : Evaluator}

/-- The first alternative of a chain opens a group and is then like a further one. -/
lemma run_opening {arms : Arms} (h : arms.isArm = true) (m : Machine) (ds : List Directive) :
    run ev (arms.directives .opening ++ ds) m =
      run ev (arms.directives .further ++ ds) m.opened := by
  cases arms with
  | arm condition body rest => rfl
  | _ => cases h

lemma isLive_finished (groups : List Fate) : isLive (.finished :: groups) = false := rfl

lemma isLive_live {groups : List Fate} (h : isLive groups = true) :
    isLive (.live :: groups) = true := by
  simpa [isLive] using h

variable {groups : List Fate}

lemma opened_of_not_isLive (h : isLive groups = false) (r : Resolution) :
    opened ⟨groups, r⟩ = ⟨.finished :: groups, r⟩ := by
  simp [opened, h]

lemma opened_of_isLive (h : isLive groups = true) (r : Resolution) :
    opened ⟨groups, r⟩ = ⟨.waiting :: groups, r⟩ := by
  simp [opened, h]

lemma update_of_not_isLive (h : isLive groups = false) (r : Resolution)
    (f : Resolution → Resolution) : update ⟨groups, r⟩ f = ⟨groups, r⟩ := by
  simp [update, h]

lemma update_of_isLive (h : isLive groups = true) (r : Resolution)
    (f : Resolution → Resolution) : update ⟨groups, r⟩ f = ⟨groups, f r⟩ := by
  simp [update, h]

mutual

lemma Node.run_skip : (n : Node) → n.hasArms = true → {groups : List Fate} →
    isLive groups = false → (r : Resolution) → (ds : List Directive) →
      run ev (n.directives ++ ds) ⟨groups, r⟩ = run ev ds ⟨groups, r⟩
  | .chain _ arms, h, groups, hskip, r, ds => by
      rw [Node.hasArms, Bool.and_eq_true] at h
      rw [Node.directives, List.append_assoc, run_opening h.1, opened_of_not_isLive hskip,
        Arms.run_skip arms h.2]
      rfl
  | .define _ _, _, groups, hskip, r, ds => by
      simp [Node.directives, run, step, update_of_not_isLive hskip]
  | .default _ _, _, groups, hskip, r, ds => by
      simp [Node.directives, run, step, opened_of_not_isLive hskip, next, Fate.next, closed,
        update_of_not_isLive (isLive_finished groups)]
  | .include _, _, groups, hskip, r, ds => by
      simp [Node.directives, run, step, update_of_not_isLive hskip]
  | .error _, _, groups, hskip, r, ds => by
      simp [Node.directives, run, step, hskip]
  | .comment _, _, _, _, _, _ => rfl
  | .blank, _, _, _, _, _ => rfl

/-- No further alternative of a group is taken after one that was. -/
lemma Arms.run_skip : (arms : Arms) → arms.hasArms = true → (groups : List Fate) →
    (r : Resolution) → (ds : List Directive) →
      run ev (arms.directives .further ++ ds) ⟨.finished :: groups, r⟩ =
        run ev ds ⟨.finished :: groups, r⟩
  | .arm condition body rest, h, groups, r, ds => by
      rw [Arms.hasArms, Bool.and_eq_true] at h
      have hbody := block_run_skip body h.1 (isLive_finished groups) r
        (rest.directives .further ++ ds)
      rw [Arms.directives, List.cons_append, List.append_assoc]
      exact hbody.trans (Arms.run_skip rest h.2 groups r ds)
  | .done, _, _, _, _ => rfl
  | .otherwise body, h, groups, r, ds => block_run_skip body h (isLive_finished groups) r ds
  | .fail _, _, _, _, _ => rfl

lemma block_run_skip : (ns : List Node) → blockHasArms ns = true → {groups : List Fate} →
    isLive groups = false → (r : Resolution) → (ds : List Directive) →
      run ev (blockDirectives ns ++ ds) ⟨groups, r⟩ = run ev ds ⟨groups, r⟩
  | [], _, _, _, _, _ => rfl
  | n :: ns, h, groups, hskip, r, ds => by
      rw [blockHasArms, Bool.and_eq_true] at h
      rw [blockDirectives, List.append_assoc, Node.run_skip n h.1 hskip,
        block_run_skip ns h.2 hskip]

end

/-- Behind the alternative that was taken a chain only closes its group. -/
lemma Arms.run_taken {arms : Arms} (h : arms.hasArms = true) (groups : List Fate)
    (r : Resolution) (ds : List Directive) :
    run ev (arms.directives .further ++ .closing :: ds) ⟨.live :: groups, r⟩ =
      run ev ds ⟨groups, r⟩ := by
  -- The next line of the chain, if there is one, finishes the group.
  have hnext : run ev (arms.directives .further ++ .closing :: ds) ⟨.live :: groups, r⟩ =
      run ev (arms.directives .further ++ .closing :: ds) ⟨.finished :: groups, r⟩ := by
    cases arms <;> rfl
  rw [hnext, Arms.run_skip arms h]
  rfl

/-! ## Parts that count -/

/-- How preprocessing goes on after a walk. -/
def resume (ev : Evaluator) (groups : List Fate) (ds : List Directive) :
    Except Diagnostic Resolution → Except Stop Resolution
  | .ok r => run ev ds ⟨groups, r⟩
  | .error d => .error (.message d.message)

lemma resume_walkBlock_cons (n : Node) (ns : List Node) (groups : List Fate)
    (ds : List Directive) (r : Resolution)
    (h : ∀ r, run ev (blockDirectives ns ++ ds) ⟨groups, r⟩ =
      resume ev groups ds (walkBlock ns r)) :
    resume ev groups (blockDirectives ns ++ ds) (n.walk r) =
      resume ev groups ds (walkBlock (n :: ns) r) := by
  rw [walkBlock]
  cases n.walk r with
  | ok r' => exact h r'
  | error d => rfl

mutual

/-- A machine that is active walks a node. -/
lemma Node.run_walk : (n : Node) → n.hasArms = true → ev.Agrees n.conditions n.values →
    {groups : List Fate} → isLive groups = true → (r : Resolution) →
    (ds : List Directive) →
      run ev (n.directives ++ ds) ⟨groups, r⟩ = resume ev groups ds (n.walk r)
  | .chain _ arms, h, hagrees, groups, hlive, r, ds => by
      rw [Node.hasArms, Bool.and_eq_true] at h
      rw [Node.directives, List.append_assoc, run_opening h.1, opened_of_isLive hlive,
        Node.walk]
      exact Arms.run_walk arms h.2 hagrees hlive r ds
  | .define name value, _, hagrees, groups, hlive, r, ds => by
      have hvalue := hagrees.value_eq value (List.mem_singleton_self value) r.macros
      simp [Node.directives, run, step, update_of_isLive hlive, hvalue, Node.walk, resume,
        Resolution.define]
  | .default name value, _, hagrees, groups, hlive, r, ds => by
      have hvalue := hagrees.value_eq value (List.mem_singleton_self value) r.macros
      have hholds := hagrees.holds_eq _ (List.mem_singleton_self _) r.macros
      have hdefined : (Condition.undefined name).holds r.macros = !r.macros.isDefined name := by
        rw [Condition.undefined, Condition.holds, Condition.holds]
      rw [Node.walk]
      -- A default value is a group of one alternative, which waits in vain if there is a value.
      cases h : r.macros.isDefined name with
      | true =>
          have hwaiting : isLive (.waiting :: groups) = false := rfl
          simp [Node.directives, run, step, opened_of_isLive hlive, next, Fate.next, closed, hholds,
            hdefined, h, update_of_not_isLive hwaiting, resume]
      | false =>
          simp [Node.directives, run, step, opened_of_isLive hlive, next, Fate.next, closed, hholds,
            hdefined, h, update_of_isLive (isLive_live hlive), hvalue, resume, Resolution.define]
  | .include header, _, _, groups, hlive, r, ds => by
      simp [Node.directives, run, step, update_of_isLive hlive, Node.walk, resume]
  | .error message, _, _, groups, hlive, r, ds => by
      simp [Node.directives, run, step, hlive, Node.walk, resume]
  | .comment _, _, _, _, _, _, _ => rfl
  | .blank, _, _, _, _, _, _ => rfl

/-- A machine that waits for an alternative of a group walks alternatives. -/
lemma Arms.run_walk : (arms : Arms) → arms.hasArms = true →
    ev.Agrees arms.conditions arms.values → {groups : List Fate} →
    isLive groups = true → (r : Resolution) → (ds : List Directive) →
      run ev (arms.directives .further ++ .closing :: ds) ⟨.waiting :: groups, r⟩ =
        resume ev groups ds (arms.walk r)
  | .arm condition body rest, h, hagrees, groups, hlive, r, ds => by
      rw [Arms.hasArms, Bool.and_eq_true] at h
      have hholds := hagrees.holds_eq condition List.mem_cons_self r.macros
      have hbody : ev.Agrees (blockConditions body) (blockValues body) := hagrees.mono
        (List.subset_cons_of_subset _ (List.subset_append_left _ _)) (List.subset_append_left _ _)
      have hrest : ev.Agrees rest.conditions rest.values := hagrees.mono
        (List.subset_cons_of_subset _ (List.subset_append_right _ _)) (List.subset_append_right _ _)
      have hstep : run ev ((Arms.arm condition body rest).directives .further ++ .closing :: ds)
          ⟨.waiting :: groups, r⟩ =
            run ev (blockDirectives body ++ (rest.directives .further ++ .closing :: ds))
              ⟨(if condition.holds r.macros then .live else .waiting) :: groups, r⟩ := by
        rw [Arms.directives, List.cons_append, List.append_assoc, ← hholds]
        rfl
      -- What follows a taken alternative is only skipped, up to the end of the group.
      rw [hstep, Arms.walk]
      split
      next =>
        rw [block_run_walk body h.1 hbody (isLive_live hlive)]
        cases walkBlock body r with
        | ok r' => exact Arms.run_taken h.2 groups r' ds
        | error d => rfl
      next =>
        rw [block_run_skip body h.1 rfl]
        exact Arms.run_walk rest h.2 hrest hlive r ds
  | .done, _, _, _, _, _, _ => rfl
  | .otherwise body, h, hagrees, groups, hlive, r, ds => by
      have hbody := block_run_walk body h hagrees (isLive_live hlive) r (.closing :: ds)
      rw [Arms.walk]
      refine hbody.trans ?_
      cases walkBlock body r <;> rfl
  | .fail message, _, _, groups, hlive, r, ds => by
      simp [Arms.directives, run, step, next, Fate.next, isLive_live hlive, Arms.walk, resume]

lemma block_run_walk : (ns : List Node) → blockHasArms ns = true →
    ev.Agrees (blockConditions ns) (blockValues ns) → {groups : List Fate} →
    isLive groups = true → (r : Resolution) → (ds : List Directive) →
      run ev (blockDirectives ns ++ ds) ⟨groups, r⟩ = resume ev groups ds (walkBlock ns r)
  | [], _, _, _, _, _, _ => rfl
  | n :: ns, h, hagrees, groups, hlive, r, ds => by
      rw [blockHasArms, Bool.and_eq_true] at h
      have hns (r : Resolution) := block_run_walk ns h.2
        (hagrees.mono (List.subset_append_right _ _) (List.subset_append_right _ _)) hlive r ds
      rw [blockDirectives, List.append_assoc,
        Node.run_walk n h.1
          (hagrees.mono (List.subset_append_left _ _) (List.subset_append_left _ _)) hlive,
        resume_walkBlock_cons n ns groups ds r hns]

end

end Run

/-! ## The text of a block -/

/-- **The text of a block does what the block does.**  Take a block over plain strings in which
every chain has an alternative with a condition and what is defined are identifiers, and a
preprocessor that evaluates the texts of its conditions and values like these themselves.  Then the
directives of its text are nested, and preprocessing the text comes to the same macros and headers
as walking the block, or stops with the same message. -/
theorem preprocess_blockText (ev : Evaluator) (nodes : List Node)
    (harms : blockHasArms nodes = true)
    (hnames : ∀ name ∈ blockDefinitions nodes, isIdentifier name = true)
    (hstrings : ∀ s ∈ blockStrings nodes, '\n' ∉ s.toList ∧ '\\' ∉ s.toList)
    (hagrees : ev.Agrees (blockConditions nodes) (blockValues nodes)) (r : Resolution) :
    isNested [] (directives (blockText nodes)) = true ∧
      preprocess ev (blockText nodes) r =
        (walkBlock nodes r).mapError fun d => .message d.message := by
  have hplain : ∀ s ∈ blockStrings nodes, IsPlain s := hstrings
  rw [preprocess, directives_blockText hplain hnames]
  constructor
  · rw [block_isNested nodes harms]
    rfl
  · rw [block_run_walk nodes harms hagrees rfl]
    cases walkBlock nodes r <;> rfl

/-- What the expression grammar makes of a text. -/
def grammar : Evaluator where
  holds t text := ((read? text).bind (·.eval t)).any (· != 0)
  value t text := ((read? text).bind (·.eval t)).getD 0

/-- The grammar agrees on conditions without empty groups and on proper values. -/
lemma agrees_grammar {cs : List Condition} {vs : List Value} (hfilled : ∀ c ∈ cs, c.isFilled = true)
    (hproper : ∀ v ∈ vs, v.isProper = true)
    (hcs : ∀ c ∈ cs, ∀ name ∈ c.strings, isMacroName name = true)
    (hvs : ∀ v ∈ vs, ∀ name ∈ v.strings, isMacroName name = true) : grammar.Agrees cs vs := by
  constructor
  · intro c hc t
    obtain ⟨e, hparses, hdecides⟩ := c.parses (hfilled c hc) (hcs c hc)
    simp [grammar, hparses.of_level.read?, hdecides t, truth_bne_zero]
  · intro v hv t
    obtain ⟨e, hparses, hcomputes⟩ := v.parses (hproper v hv) (hvs v hv)
    simp [grammar, hparses.term.whole.read?, hcomputes t]

/-- The text of the detection of the byte order, for a compiler whose architecture is settled. -/
theorem preprocess_byteOrderText :
    blockHasArms Detection.byteOrderBlock = true ∧
      isNested [] (directives (blockText Detection.byteOrderBlock)) = true ∧
      (preprocess grammar (blockText Detection.byteOrderBlock)
        ⟨.ofList [("RM_ARCH", 1), ("RM_ARCH_X86", 1)], []⟩).map
          (·.macros.valueOrZero "RM_BYTE_ORDER") = .ok 1234 := by
  have hagrees : grammar.Agrees (blockConditions Detection.byteOrderBlock)
      (blockValues Detection.byteOrderBlock) :=
    agrees_grammar (by decide) (by decide) (by decide) (by decide)
  obtain ⟨hnested, hpreprocess⟩ := preprocess_blockText grammar Detection.byteOrderBlock
    (by decide) (by decide) (by decide) hagrees ⟨.ofList [("RM_ARCH", 1), ("RM_ARCH_X86", 1)], []⟩
  refine ⟨by decide, hnested, ?_⟩
  rw [hpreprocess]
  rfl

end MathHeader.Preprocessor
