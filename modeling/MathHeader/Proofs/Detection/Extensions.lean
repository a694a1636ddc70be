import MathHeader.Proofs.Detection.Ladder

/-!
# The vector extensions of a target

The detection block goes down one ladder, that of the architecture, unless the user forgoes vector
extensions.  What it finds there are the predefined macros: the parts before it define no macro of a
tier, of a trigger or the mask.  In the end the mask is zero if nothing has set it.

`settlesTiers_of_walk` puts together what holds of any ladder and of the two ladders of the block.
-/

namespace MathHeader.Detection

open Preprocessor

variable {P : List (String × Int64)} {r r' : Resolution}

/-! ## The two ladders -/

lemma isLadder_x86Tiers : IsLadder x86Tiers :=
  ⟨by decide, by decide, by decide, by decide⟩

lemma isLadder_armTiers : IsLadder armTiers :=
  ⟨by decide, by decide, by decide, by decide⟩

/-! ## A ladder and the mask by default -/

/-- The macros that a ladder asks for. -/
def askedNames (tiers : List Tier) : List String :=
  tiers.flatMap fun tier => tier.name :: termStrings tier.triggers

lemma Tier.requested_congr {t u : MacroTable} {tier : Tier}
    (h : ∀ name ∈ tier.name :: termStrings tier.triggers, t.value? name = u.value? name) :
    tier.Requested t ↔ tier.Requested u := by
  have htriggers := (termsHold_congr tier.triggers fun name hname =>
    h name (List.mem_cons_of_mem _ hname)).1
  rw [anyHolds_eq_any, anyHolds_eq_any, Bool.eq_iff_iff, List.any_eq_true, List.any_eq_true]
    at htriggers
  rw [Requested, Requested, MacroTable.isDefined, MacroTable.isDefined, h _ List.mem_cons_self,
    htriggers]

/-- What the tiers come to depends on the macros that the ladder asks for only. -/
lemma EnablesTiers.congr {tiers : List Tier} {t t' u : MacroTable} (h : EnablesTiers tiers t u)
    (hagree : ∀ name ∈ askedNames tiers, t.value? name = t'.value? name) :
    EnablesTiers tiers t' u := by
  intro below tier above hsplit
  have hmem {other : Tier} (hother : other ∈ tier :: above) {name : String}
      (hname : name ∈ other.name :: termStrings other.triggers) :
      t.value? name = t'.value? name :=
    hagree name (List.mem_flatMap.2 ⟨other, hsplit ▸ List.mem_append_right _ hother, hname⟩)
  have hrequested : (∃ higher ∈ tier :: above, higher.Requested t) ↔
      ∃ higher ∈ tier :: above, higher.Requested t' :=
    exists_congr fun higher => and_congr_right fun hhigher =>
      Tier.requested_congr fun name hname => hmem hhigher hname
  rw [h below tier above hsplit, Tier.settledValue, Tier.settledValue,
    if_congr hrequested rfl rfl, Tier.value, Tier.value, hmem List.mem_cons_self List.mem_cons_self]

/-- The mask is zero if no tier has set it and it was not defined before. -/
lemma Collected.exists_walk_default {tiers : List Tier} {u : MacroTable}
    {idleMask : Option Int64} {included : List String}
    (h : Collected tiers u idleMask included r) :
    ∃ r', walkBlock [.default simdMask (.int 0)] r = .ok r' ∧
      Collected tiers u (some (idleMask.getD 0)) included r' := by
  refine ⟨_, walkBlock_singleton _ r, ?_⟩
  cases hmask : r.macros.value? simdMask with
  | some v =>
      rw [MacroTable.isDefined, hmask, Option.isSome_some, if_pos rfl]
      refine ⟨h.rest, h.top, fun hidle => ?_⟩
      obtain ⟨hvalue, hincludes⟩ := h.idle hidle
      rw [hmask] at hvalue
      rw [hmask, ← hvalue]
      exact ⟨rfl, hincludes⟩
  | none =>
      rw [MacroTable.isDefined, hmask, Option.isSome_none, if_neg Bool.false_ne_true]
      refine ⟨fun name hname => ?_, fun below tier above hsplit htier habove => ?_, fun hidle => ?_⟩
      · rw [value?_resolution_define, if_neg hname, h.rest name hname]
      · have hvalue := (h.top below tier above hsplit htier habove).1
        rw [hmask] at hvalue
        cases hvalue
      · obtain ⟨hvalue, hincludes⟩ := h.idle hidle
        rw [hmask] at hvalue
        rw [value?_resolution_define, if_pos rfl, ← hvalue]
        exact ⟨rfl, hincludes⟩

/-- **A ladder and the mask by default**, for macros that agree with `t` on what is asked. -/
lemma exists_walk_ladder {tiers : List Tier} (hladder : IsLadder tiers) {t : MacroTable}
    (hagree : ∀ name ∈ askedNames tiers, r.macros.value? name = t.value? name) :
    ∃ r', walkBlock (tierBlock tiers ++ [.default simdMask (.int 0)]) r = .ok r' ∧
      SettlesTiers tiers t (some (r.macros.valueOrZero simdMask)) r.includes r' := by
  obtain ⟨r₁, hwalk₁, hincludes, hsettled⟩ := exists_walk_enableTiers hladder r
  obtain ⟨r₂, hwalk₂, hcollected⟩ := exists_walk_collectBlock hladder.mask_notMem r₁
  obtain ⟨r', hwalk, hdefault⟩ := hcollected.exists_walk_default
  rw [hsettled.rest simdMask hladder.mask_notMem, hincludes] at hdefault
  refine ⟨r', ?_, hdefault.settlesTiers hladder (hsettled.enables.congr hagree)⟩
  have htiers : walkBlock (tierBlock tiers) r = .ok r₂ :=
    (walkBlock_append_of_ok hwalk₁).trans hwalk₂
  rw [walkBlock_append_of_ok htiers, hwalk]

/-! ## The detection of vector extensions -/

/-- The ladder of the architecture, and the other one. -/
def ladders (P : List (String × Int64)) : List Tier × List Tier :=
  if Reports P .x86_64 ∨ Reports P .x86 then (x86Tiers, armTiers) else (armTiers, x86Tiers)

/-- **Vector extensions in the block.**  Those of the architecture are settled by the predefined
macros, unless the user forgoes them, and the macros of other tiers stay as they were. -/
structure SettlesExtensions (P : List (String × Int64)) (r : Resolution) : Prop where
  settlesTiers : ¬Predefined P "RM_NO_INTRINSICS" →
    SettlesTiers (ladders P).1 (.ofList P) (some (predefinedValue P "RM_SIMD")) [] r ∧
      ∀ tier ∈ (ladders P).2, r.macros.value? tier.name = P.reverse.lookup tier.name
  forgone : Predefined P "RM_NO_INTRINSICS" →
    (∀ tier ∈ x86Tiers ++ armTiers, r.macros.value? tier.name = P.reverse.lookup tier.name) ∧
      r.macros.value? "RM_SIMD" = some (predefinedValue P "RM_SIMD") ∧ r.includes = []

/-- The target of a block that does not fail, and what is walked after it. -/
lemma exists_target_of_resolve (h : resolve block P = .ok r') :
    ∃ a r, TargetSettled P a r ∧ walkBlock targetBlock ⟨.ofList P, []⟩ = .ok r ∧
      walkBlock simdBlock r = .ok r' := by
  have hblock : walkBlock (targetBlock ++ .blank :: simdBlock) ⟨.ofList P, []⟩ = .ok r' := h
  rcases walk_targetBlock P with ⟨-, hwalk⟩ | ⟨-, -, hwalk⟩ | ⟨-, -, -, hwalk⟩ |
    ⟨-, -, -, a, r, hwalk, hsettled⟩
  · rw [walkBlock_append_of_error hwalk] at hblock
    cases hblock
  · rw [walkBlock_append_of_error hwalk] at hblock
    cases hblock
  · rw [walkBlock_append_of_error hwalk] at hblock
    cases hblock
  · rw [walkBlock_append_of_ok hwalk] at hblock
    exact ⟨a, r, hsettled, hwalk, hblock⟩

/-- The chain of the ladders. -/
def ladderArms : Arms :=
  .ofList
    [ (.macrosEqual arch archX86, tierBlock x86Tiers),
      (.macrosEqual arch archArm, tierBlock armTiers) ]
    .done

/-- The block of vector extensions, when the user does not forgo them. -/
lemma walk_simdBlock {tiers : List Tier} (hasks : r.macros.isDefined noIntrinsics = false)
    (hladder : ladderArms.walk r = walkBlock (tierBlock tiers) r) :
    walkBlock simdBlock r = walkBlock (tierBlock tiers ++ [.default simdMask (.int 0)]) r := by
  have hundefined : (Condition.undefined noIntrinsics).holds r.macros = true := by
    rw [Condition.undefined, Condition.holds, Condition.holds, hasks]
    rfl
  have hwhen : (Node.when "NO INTRINSICS" (.undefined noIntrinsics)
      [.chain "SIMD INTRINSICS" ladderArms]).walk r = walkBlock (tierBlock tiers) r := by
    rw [Node.when, Node.walk, walk_arm_of_holds hundefined, walkBlock_singleton, Node.walk, hladder]
  rw [walkBlock_append, ← hwhen]
  exact walkBlock_cons _ _ r

/-- The block of vector extensions, when the user forgoes them. -/
lemma walk_simdBlock_of_forgone (hforgoes : r.macros.isDefined noIntrinsics = true) :
    walkBlock simdBlock r = walkBlock [.default simdMask (.int 0)] r := by
  have hundefined : ¬(Condition.undefined noIntrinsics).holds r.macros = true := by
    rw [Condition.undefined, Condition.holds, Condition.holds, hforgoes]
    decide
  refine (walkBlock_cons _ _ r).trans ?_
  rw [Node.when, Node.walk, walk_arm_of_not_holds hundefined]
  rfl

lemma TargetSettled.walk_ladderArms {a : Arch} (h : TargetSettled P a r) :
    ladderArms.walk r = walkBlock (tierBlock (ladders P).1) r := by
  have hasksX86 := holds_macrosEqual_iff h.arch h.archX86
  have hasksArm := holds_macrosEqual_iff h.arch h.archArm
  have hfamily := (isX86_and_bits_of_reportedArch? h.reportedArch).1
  by_cases hx86 : a.isX86 = true
  · rw [if_pos hx86] at hasksX86
    rw [ladders, if_pos (hfamily.1 hx86)]
    exact walk_arm_of_holds (hasksX86.2 rfl) _ _
  · rw [if_neg hx86] at hasksX86 hasksArm
    rw [ladders, if_neg (mt hfamily.2 hx86)]
    exact (walk_arm_of_not_holds (mt hasksX86.1 (by decide)) _ _).trans
      (walk_arm_of_holds (hasksArm.2 rfl) _ _)

/-- The two ladders ask for no macro that the target defines, and neither defines the macros of the
other one. -/
lemma ladders_apart (P : List (String × Int64)) :
    IsLadder (ladders P).1 ∧
      (∀ name ∈ askedNames (ladders P).1, name ∉ blockDefinitions targetBlock) ∧
      ∀ tier ∈ (ladders P).2, tier.name ∉ blockDefinitions targetBlock ∧
        tier.name ∉ blockDefinitions (tierBlock (ladders P).1 ++ [.default simdMask (.int 0)]) := by
  rw [ladders]
  split
  next => exact ⟨isLadder_x86Tiers, by decide, by decide⟩
  next => exact ⟨isLadder_armTiers, by decide, by decide⟩

/-- **Vector extensions in the block.**  Whatever is predefined, a block that does not fail settles
them. -/
lemma settlesExtensions_of_resolve (h : resolve block P = .ok r') : SettlesExtensions P r' := by
  obtain ⟨a, r, htarget, hwalk, hsimd⟩ := exists_target_of_resolve h
  have hkeeps := keeps_of_walkBlock _ hwalk
  have hagree {name : String} (hname : name ∉ blockDefinitions targetBlock) :
      r.macros.value? name = P.reverse.lookup name :=
    (hkeeps.value?_eq name hname).trans (MacroTable.value?_ofList P name)
  have hincludes : r.includes = [] := by
    obtain ⟨taken, htaken, hincludes⟩ := hkeeps.includes
    rw [hincludes, List.sublist_nil.1 htaken]
    rfl
  have hmask : r.macros.valueOrZero simdMask = predefinedValue P "RM_SIMD" :=
    congrArg (Option.getD · 0) (hagree (by decide))
  have hforgoes : r.macros.isDefined noIntrinsics = true ↔ Predefined P "RM_NO_INTRINSICS" :=
    htarget.intact.isDefined_iff (by decide)
  constructor
  case settlesTiers =>
    intro huses
    -- Detecting the target leaves alone what the ladder asks about.
    obtain ⟨hladder, hasked, hothers⟩ := ladders_apart P
    rw [walk_simdBlock (Bool.eq_false_iff.2 (mt hforgoes.1 huses)) htarget.walk_ladderArms] at hsimd
    obtain ⟨r'', hwalk', hsettles⟩ := exists_walk_ladder (r := r) hladder fun name hname =>
      (hkeeps.value?_eq name (hasked name hname) : _ = (MacroTable.ofList P).value? name)
    rw [hsimd] at hwalk'
    cases hwalk'
    rw [hmask, hincludes] at hsettles
    refine ⟨hsettles, fun tier htier => ?_⟩
    obtain ⟨htarget, hothers⟩ := hothers tier htier
    exact ((keeps_of_walkBlock _ hsimd).value?_eq _ hothers).trans (hagree htarget)
  case forgone =>
    intro hforgone
    have hidle : Collected [] r.macros (r.macros.value? simdMask) [] r :=
      ⟨fun _ _ => rfl, fun below _ _ hsplit => absurd hsplit (by simp), fun _ => ⟨rfl, hincludes⟩⟩
    obtain ⟨r'', hdefault, hcollected⟩ := hidle.exists_walk_default
    rw [walk_simdBlock_of_forgone (hforgoes.2 hforgone), hdefault] at hsimd
    cases hsimd
    obtain ⟨hvalue, hheaders⟩ := hcollected.idle (List.forall_mem_nil _)
    refine ⟨fun tier htier => ?_, hvalue.trans (congrArg some hmask), hheaders⟩
    have hnames : ∀ tier ∈ x86Tiers ++ armTiers,
        tier.name ≠ simdMask ∧ tier.name ∉ blockDefinitions targetBlock := by decide
    exact (hcollected.rest _ (hnames tier htier).1).trans (hagree (hnames tier htier).2)

/-- **Vector extensions.**  A ladder is settled from any macros, and the block settles the ladder of
the target for a compiler. -/
theorem settlesTiers_of_walk :
    (∀ tiers, IsLadder tiers → ∀ r, ∃ r', walkBlock (tierBlock tiers) r = .ok r' ∧
      SettlesTiers tiers r.macros (r.macros.value? simdMask) r.includes r' ∧
      ∀ name, name ∉ simdMask :: tiers.map (·.name) →
        r'.macros.value? name = r.macros.value? name) ∧
    ∀ P r, resolve block P = .ok r → SettlesExtensions P r :=
  ⟨fun _ hladder r => exists_walk_tierBlock hladder r, fun _ _ h => settlesExtensions_of_resolve h⟩

/-- What a compiler with one tier in the middle predefines, for a user who sets a lower one. -/
def middleTierMacros : List (String × Int64) :=
  [("__linux__", 1), ("__x86_64__", 1), ("__SSSE3__", 1), ("RM_SSE", 16)]

/-- The macro of the user is kept, and the mask has its bit instead of that of the tier. -/
theorem settlesTiers_of_walk_middleTier :
    IsLadder x86Tiers ∧
      (∃ r', walkBlock (tierBlock x86Tiers) ⟨.ofList middleTierMacros, []⟩ = .ok r' ∧
        SettlesTiers x86Tiers (.ofList middleTierMacros) none [] r') ∧
      ∃ r', resolve block middleTierMacros = .ok r' ∧ SettlesExtensions middleTierMacros r' ∧
        r'.macros.value? "RM_SIMD" = some 30 ∧ r'.includes = ["tmmintrin.h"] := by
  obtain ⟨r', hwalk, hsettles, -⟩ :=
    settlesTiers_of_walk.1 x86Tiers isLadder_x86Tiers ⟨.ofList middleTierMacros, []⟩
  refine ⟨isLadder_x86Tiers, ⟨r', hwalk, hsettles⟩, ?_⟩
  exact ⟨_, rfl, settlesTiers_of_walk.2 middleTierMacros _ rfl, by decide, by decide⟩

end MathHeader.Detection
