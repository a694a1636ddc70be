import MathHeader.Proofs.Session.History
import Mathlib.Algebra.Ring.Nat

/-!
# The accounts of a session

The statistics of a session are kept up step by step, and each of their numbers says something about
the steps that were performed: how many functions were defined, how many of those are derived ones,
how many belong to a category, how many other names were declared, how many sections were finished,
and how large these are together.  `Accounts` says so for all the numbers at once.

Only the steps matter and not what stands between them.  So what a number says is unchanged by steps
of another kind, wherever they are.

A step that fails contributes nothing.  So the statistics of a run are the accounts of the steps
that succeeded in it (`Registry.stats_run`), and `Registry.accounts_run` puts together what follows
for a run from the start.
-/

namespace MathHeader

/-! ## What steps contribute -/

def Step.defined? : Step → Option (Category × SymbolKey)
  | define category key _ => some (category, key)
  | _ => none

/-- The size of the section that a step finishes. -/
def Step.size? : Step → Option Nat
  | finish _ bytes => some bytes
  | _ => none

/-- Whether a step declares a name that is no function. -/
def Step.isDeclare : Step → Bool
  | declare _ _ => true
  | _ => false

def definitions (steps : List Step) : List (Category × SymbolKey) :=
  steps.filterMap Step.defined?

/-- The sizes of the sections that some steps finish. -/
def sizes (steps : List Step) : List Nat :=
  steps.filterMap Step.size?

def SymbolKey.isDerived (key : SymbolKey) : Bool :=
  key.variant != .base

section Concat

variable (steps : List Step) (step : Step)

lemma definitions_concat :
    definitions (steps ++ [step]) = definitions steps ++ step.defined?.toList := by
  rw [definitions, List.filterMap_append, List.filterMap_cons]
  cases step.defined? <;> rfl

lemma sizes_concat : sizes (steps ++ [step]) = sizes steps ++ step.size?.toList := by
  rw [sizes, List.filterMap_append, List.filterMap_cons]
  cases step.size? <;> rfl

end Concat

/-! ## The numbers -/

/-- **The accounts of some steps.**  What each number of the statistics says about the steps. -/
structure Accounts (s : Stats) (steps : List Step) : Prop where
  functions : s.functions = (definitions steps).length
  derived : s.derived = (definitions steps).countP (·.2.isDerived)
  byCategory : ∀ k, s.byCategory.of k = (definitions steps).countP (·.1 == k)
  declarations : s.declarations = steps.countP Step.isDeclare
  sections : s.sections = (sizes steps).length
  bytes : s.bytes = (sizes steps).sum

lemma accounts_zero : Accounts .zero [] :=
  ⟨rfl, rfl, fun k => by cases k <;> rfl, rfl, rfl, rfl⟩

section Counted

variable (s : Stats) (step : Step)

lemma derived_counted :
    (step.counted s).derived = s.derived + step.defined?.toList.countP (·.2.isDerived) := by
  cases step with
  | define category key name =>
      rw [Step.defined?, Option.toList_some, List.countP_singleton]
      simp only [Step.counted, Session.countFunction, SymbolKey.isDerived, bne_iff_ne]
      by_cases hbase : key.variant = .base <;> simp [hbase]
  | _ => rfl

lemma byCategory_counted (k : Category) :
    (step.counted s).byCategory.of k =
      s.byCategory.of k + step.defined?.toList.countP (·.1 == k) := by
  cases step with
  | define category key name =>
      rw [Step.defined?, Option.toList_some, List.countP_singleton]
      simp only [Step.counted, Session.countFunction, CategoryCounts.of_increment, beq_iff_eq]
      by_cases hk : k = category
      · rw [if_pos hk, if_pos hk.symm]
      · rw [if_neg hk, if_neg (Ne.symm hk), Nat.add_zero]
  | _ => rfl

/-- The other numbers grow by what the step contributes. -/
lemma counts_counted :
    (step.counted s).functions = s.functions + step.defined?.toList.length ∧
    (step.counted s).declarations = s.declarations + [step].countP Step.isDeclare ∧
    (step.counted s).sections = s.sections + step.size?.toList.length ∧
    (step.counted s).bytes = s.bytes + step.size?.toList.sum := by
  cases step <;> exact ⟨rfl, rfl, rfl, rfl⟩

end Counted

/-- **One step.** -/
lemma accounts_counted {s : Stats} {steps : List Step} (h : Accounts s steps) (step : Step) :
    Accounts (step.counted s) (steps ++ [step]) := by
  obtain ⟨hfunctions, hdeclarations, hsections, hbytes⟩ := counts_counted s step
  constructor
  · rw [hfunctions, h.functions, definitions_concat, List.length_append]
  · rw [derived_counted, h.derived, definitions_concat, List.countP_append]
  · intro k
    rw [byCategory_counted, h.byCategory k, definitions_concat, List.countP_append]
  · rw [hdeclarations, h.declarations, List.countP_append]
  · rw [hsections, h.sections, sizes_concat, List.length_append]
  · rw [hbytes, h.bytes, sizes_concat, List.sum_append]

/-- **A run.**  The statistics after some steps are the accounts of all of them. -/
theorem accounts_foldl (steps : List Step) : Accounts (steps.foldl Step.counted .zero) steps := by
  induction steps using List.reverseRecOn with
  | nil => exact accounts_zero
  | append_singleton steps step ih =>
      rw [List.foldl_concat]
      exact accounts_counted ih step

/-! ## All categories together -/

namespace CategoryCounts

lemma ext_of {c c' : CategoryCounts} (h : ∀ k, c.of k = c'.of k) : c = c' := by
  obtain ⟨scalar, boolean, arithmetic, matrix⟩ := c
  rw [mk.injEq]
  exact ⟨h .scalar, h .boolean, h .arithmetic, h .matrix⟩

/-- Counts of zero can be left out of a sum. -/
lemma sum_filter_pos (counts : List (Category × Nat)) :
    ((counts.filter fun (_, n) => 0 < n).map (·.2)).sum = (counts.map (·.2)).sum := by
  induction counts with
  | nil => rfl
  | cons count counts ih =>
      obtain ⟨k, n⟩ := count
      simp only [List.filter_cons, List.map_cons, List.sum_cons, ← ih, decide_eq_true_eq]
      split
      next => rfl
      next hzero => rw [Nat.eq_zero_of_not_pos hzero, Nat.zero_add]

lemma sum_positive (c : CategoryCounts) : (c.positive.map (·.2)).sum = c.total := by
  rw [positive, sum_filter_pos]
  simp only [List.map_cons, List.map_nil, List.sum_cons, List.sum_nil, of, total]
  omega

end CategoryCounts

lemma total_foldl {s : Stats} (h : s.byCategory.total = s.functions) (steps : List Step) :
    (steps.foldl Step.counted s).byCategory.total = (steps.foldl Step.counted s).functions := by
  induction steps generalizing s with
  | nil => exact h
  | cons step steps ih =>
      refine ih (s := step.counted s) ?_
      cases step with
      | define category key name =>
          exact (s.byCategory.total_increment category).trans (congrArg (· + 1) h)
      | _ => exact h

/-! ## The order of steps -/

/-- Statistics that are accounts of the same steps, in whatever order, are the same. -/
lemma Accounts.eq_of_perm {s s' : Stats} {steps steps' : List Step} (h : Accounts s steps)
    (h' : Accounts s' steps') (hperm : steps.Perm steps') : s = s' := by
  have hdefinitions : (definitions steps).Perm (definitions steps') := hperm.filterMap _
  have hsizes : (sizes steps).Perm (sizes steps') := hperm.filterMap _
  have hcategory : s.byCategory = s'.byCategory :=
    CategoryCounts.ext_of fun k => by rw [h.byCategory, h'.byCategory, hdefinitions.countP_eq]
  obtain ⟨functions, derived, declarations, sections, bytes, byCategory⟩ := s
  rw [Stats.mk.injEq]
  refine ⟨?_, ?_, ?_, ?_, ?_, hcategory⟩
  · exact h.functions.trans (hdefinitions.length_eq.trans h'.functions.symm)
  · exact h.derived.trans ((hdefinitions.countP_eq _).trans h'.derived.symm)
  · exact h.declarations.trans ((hperm.countP_eq _).trans h'.declarations.symm)
  · exact h.sections.trans (hsizes.length_eq.trans h'.sections.symm)
  · exact h.bytes.trans (hsizes.sum_nat.trans h'.bytes.symm)

/-! ## The steps that succeed -/

/-- Whether a step claims a name without counting it. -/
def Step.isPlainClaim : Step → Bool
  | claim _ _ => true
  | _ => false

lemma countP_isSome_offer? (steps : List Step) :
    steps.countP (·.offer?.isSome) =
      (definitions steps).length + steps.countP Step.isDeclare +
        steps.countP Step.isPlainClaim := by
  induction steps with
  | nil => rfl
  | cons step steps ih =>
      have hlength : (definitions (step :: steps)).length =
          step.defined?.toList.length + (definitions steps).length := by
        rw [definitions, List.filterMap_cons]
        cases step.defined? <;> simp [definitions, Nat.add_comm]
      rw [List.countP_cons, List.countP_cons, List.countP_cons, ih, hlength]
      cases step <;> simp [Step.offer?, Step.defined?, Step.isDeclare, Step.isPlainClaim] <;> omega

namespace Registry

/-- The steps that succeed, when some steps are performed one after another. -/
def accepted (r : Registry) (steps : List Step) : List Step :=
  ((r.answers steps).filter (·.2.isOk)).map (·.1)

lemma accepted_cons (r : Registry) (step : Step) (steps : List Step) :
    r.accepted (step :: steps) =
      (if (step.answer r).isOk = true then [step] else []) ++ (r.next step).accepted steps := by
  rw [accepted, answers, List.filter_cons]
  split <;> rfl

lemma stats_next (r : Registry) (step : Step) :
    (r.next step).session.stats =
      if (step.answer r).isOk = true then step.counted r.session.stats else r.session.stats := by
  rw [session_next, answer_eq, Step.next, Step.apply_eq]
  cases step.offer? with
  | none => rfl
  | some offer =>
      cases hclaim : r.session.names.claim offer.1 offer.2 <;>
        simp [hclaim, Except.map, Except.isOk, Except.toBool]

/-- The statistics after a run count the steps that succeeded, and no others. -/
lemma stats_run (r : Registry) (steps : List Step) :
    (r.run steps).session.stats = (r.accepted steps).foldl Step.counted r.session.stats := by
  induction steps generalizing r with
  | nil => rfl
  | cons step steps ih =>
      have hrun : r.run (step :: steps) = (r.next step).run steps := rfl
      rw [hrun, ih, stats_next, accepted_cons]
      split <;> rfl

/-- The end of a section cannot fail. -/
lemma sizes_accepted (r : Registry) (steps : List Step) :
    sizes (r.accepted steps) = sizes steps := by
  induction steps generalizing r with
  | nil => rfl
  | cons step steps ih =>
      have hstep : sizes (if (step.answer r).isOk = true then [step] else []) = sizes [step] := by
        cases step with
        | finish title bytes => rfl
        | _ => split <;> rfl
      have happend (front rest : List Step) : sizes (front ++ rest) = sizes front ++ sizes rest :=
        List.filterMap_append
      rw [accepted_cons, happend, hstep, ih, ← happend]
      rfl

lemma size_eq_countP_accepted (r : Registry) (steps : List Step) :
    (r.run steps).session.names.size =
      r.session.names.size + (r.accepted steps).countP (·.offer?.isSome) := by
  rw [size_run, accepted, List.countP_map, List.countP_filter]
  rfl

/-! ## All together -/

/-- **The accounts of a session.**  After any steps from the start:

* the counts by category, those that are shown, sum up to the count of functions;
* the derived functions are those among the successful definitions that are derived ones, and are no
  more than the functions;
* there are as many names as functions, declarations and successful plain claims;
* sections and bytes are those of all ends of sections, wherever these are among the steps;
* the statistics do not depend on the order in which steps succeed. -/
theorem accounts_run (steps : List Step) :
    let session := (fresh.run steps).session
    let done := fresh.accepted steps
    (session.stats.byCategory.positive.map (·.2)).sum = session.stats.functions ∧
    session.stats.derived = (definitions done).countP (·.2.isDerived) ∧
    session.stats.derived ≤ session.stats.functions ∧
    session.names.size =
      session.stats.functions + session.stats.declarations + done.countP Step.isPlainClaim ∧
    session.stats.sections = (sizes steps).length ∧
    session.stats.bytes = (sizes steps).sum ∧
    ∀ steps', (fresh.accepted steps').Perm done →
      (fresh.run steps').session.stats = session.stats := by
  have haccounts (steps : List Step) :
      Accounts (fresh.run steps).session.stats (fresh.accepted steps) := by
    rw [stats_run]
    exact accounts_foldl _
  intro session done
  have h : Accounts session.stats done := haccounts steps
  refine ⟨?_, h.derived, ?_, ?_, ?_, ?_, fun steps' hperm => ?_⟩
  · have htotal : session.stats.byCategory.total = session.stats.functions := by
      rw [stats_run]
      exact total_foldl rfl done
    rw [CategoryCounts.sum_positive, htotal]
  · rw [h.derived, h.functions]
    exact List.countP_le_length
  · rw [size_eq_countP_accepted, countP_isSome_offer?, h.functions, h.declarations]
    exact Nat.zero_add _
  · rw [h.sections, sizes_accepted]
  · rw [h.bytes, sizes_accepted]
  · exact (haccounts steps').eq_of_perm h hperm

/-- The definition of a derived function, under a name. -/
def defineDerived (name : String) : Step :=
  .define .matrix ⟨"mul", ⟨.f32, .vector .two⟩, .vectorScalar⟩ name

/-- A claim, the end of a section, a declaration that fails, and a definition. -/
def claimThenDefine : List Step :=
  [.claim "a" "x", .finish "s" 3, .declare "a" "y", defineDerived "b"]

/-- The definition first, and another declaration that fails. -/
def defineThenClaim : List Step :=
  [defineDerived "b", .declare "b" "y", .claim "a" "x", .finish "s" 3]

/-- The same steps succeed in two orders, while another one fails in each. -/
theorem accounts_run_reordered :
    (fresh.accepted claimThenDefine).Perm (fresh.accepted defineThenClaim) ∧
    (fresh.run claimThenDefine).session.stats = (fresh.run defineThenClaim).session.stats ∧
    (fresh.run claimThenDefine).session.stats = ⟨1, 1, 0, 1, 3, ⟨0, 0, 0, 1⟩⟩ := by
  have hperm : (fresh.accepted claimThenDefine).Perm (fresh.accepted defineThenClaim) := by
    decide
  exact ⟨hperm, (accounts_run _).2.2.2.2.2.2 _ hperm, by decide⟩

end Registry

end MathHeader
