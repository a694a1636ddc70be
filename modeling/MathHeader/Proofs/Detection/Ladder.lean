import MathHeader.Proofs.Detection.Settled
import Mathlib.Algebra.Group.Int.Defs

/-!
# Ladders of vector extensions

Which tiers of a ladder are enabled is decided from the top down, and a tier is enabled as soon as
the one above it is.  So a tier is enabled exactly when one from it upwards is *requested*: its
macro is defined already, or one of its triggers holds.  The induction is on the ladder from the
lowest tier on, the rest of which is what lies above: `exists_walk_enableTiers`.

The mask and the header are chosen by two chains that look for the first enabled tier from the top.
Both find the same one, the highest.  `SettlesTiers` collects what a ladder comes to.
-/

namespace MathHeader.Detection

open Preprocessor

/-! ## What a ladder comes to -/

/-- **A ladder.**  Its tiers have names of their own, none of them is the mask, no trigger asks for
one of these macros, and the bits of the tiers are those of positive numbers. -/
structure IsLadder (tiers : List Tier) : Prop where
  nodup : (tiers.map (·.name)).Nodup
  mask_notMem : simdMask ∉ tiers.map (·.name)
  triggers : ∀ tier ∈ tiers, ∀ name ∈ simdMask :: tiers.map (·.name),
    name ∉ termStrings tier.triggers
  bit_le : ∀ tier ∈ tiers, tier.bit ≤ 62

/-- A tier is requested if its macro is defined already or one of its triggers holds. -/
def Tier.Requested (t : MacroTable) (tier : Tier) : Prop :=
  t.isDefined tier.name = true ∨ ∃ trigger ∈ tier.triggers, trigger.holds t = true

/-- The bits of the values of some tiers, all together. -/
def bitsOf (t : MacroTable) (tiers : List Tier) : Int64 :=
  tiers.foldl (fun bits tier => bits ||| t.valueOrZero tier.name) 0

/-- **What a ladder comes to**, given the macros before.  A tier is enabled if one from it upwards
is requested, so that an enabled tier enables all below.  A macro that was defined before keeps its
value, any other one has the bit of its tier.  The mask collects the values up to the highest
enabled tier, whose header is included; with no tier enabled the mask is `idleMask`. -/
structure SettlesTiers (tiers : List Tier) (t : MacroTable) (idleMask : Option Int64)
    (included : List String) (r : Resolution) : Prop where
  isDefined_iff : ∀ below tier above, tiers = below ++ tier :: above →
    (r.macros.isDefined tier.name = true ↔ ∃ higher ∈ tier :: above, higher.Requested t)
  downward : ∀ below tier above, tiers = below ++ tier :: above →
    r.macros.isDefined tier.name = true → ∀ lower ∈ below, r.macros.isDefined lower.name = true
  kept : ∀ tier ∈ tiers, ∀ v, t.value? tier.name = some v → r.macros.value? tier.name = some v
  assigned : ∀ tier ∈ tiers, t.value? tier.name = none →
    ∀ v, r.macros.value? tier.name = some v → v.toInt = 2 ^ tier.bit
  top : ∀ below tier above, tiers = below ++ tier :: above →
    r.macros.isDefined tier.name = true →
    (∀ higher ∈ above, r.macros.isDefined higher.name = false) →
    r.macros.value? simdMask = some (bitsOf r.macros (below ++ [tier])) ∧
      r.includes = included ++ [tier.header]
  idle : (∀ tier ∈ tiers, r.macros.isDefined tier.name = false) →
    r.macros.value? simdMask = idleMask ∧ r.includes = included

instance (t : MacroTable) (tier : Tier) : Decidable (tier.Requested t) :=
  inferInstanceAs (Decidable (_ ∨ _))

/-! ## Which tiers are enabled -/

/-- The value of the macro of a tier that is enabled. -/
def Tier.value (t : MacroTable) (tier : Tier) : Int64 :=
  (t.value? tier.name).getD (1 <<< Int64.ofNat tier.bit)

/-- The value of the macro of a tier under the tiers `above`. -/
def Tier.settledValue (t : MacroTable) (tier : Tier) (above : List Tier) : Option Int64 :=
  if ∃ higher ∈ tier :: above, higher.Requested t then some (tier.value t) else none

/-- The tiers of a ladder have the values that the macros `t` call for. -/
def EnablesTiers (tiers : List Tier) (t u : MacroTable) : Prop :=
  ∀ below tier above, tiers = below ++ tier :: above →
    u.value? tier.name = tier.settledValue t above

/-- **The tiers of a ladder are settled.**  The macros are `t`, but for those of the tiers. -/
structure TiersSettled (tiers : List Tier) (t u : MacroTable) : Prop where
  enables : EnablesTiers tiers t u
  rest : ∀ name, name ∉ tiers.map (·.name) → u.value? name = t.value? name

lemma IsLadder.of_cons {tier : Tier} {above : List Tier} (h : IsLadder (tier :: above)) :
    IsLadder above where
  nodup := (List.nodup_cons.1 h.nodup).2
  mask_notMem hmem := h.mask_notMem (List.mem_cons_of_mem _ hmem)
  triggers u hu name hname :=
    h.triggers u (List.mem_cons_of_mem _ hu) name <|
      (List.mem_cons.1 hname).elim (fun heq => heq ▸ List.mem_cons_self)
        fun hmem => List.mem_cons_of_mem _ (List.mem_cons_of_mem _ hmem)
  bit_le u hu := h.bit_le u (List.mem_cons_of_mem _ hu)

/-- What the condition on a tier asks for. -/
def Tier.Implied (t : MacroTable) (tier : Tier) (above : List Tier) : Prop :=
  (∃ trigger ∈ tier.triggers, trigger.holds t = true) ∨ ∃ higher ∈ above, higher.Requested t

instance (t : MacroTable) (tier : Tier) (above : List Tier) : Decidable (tier.Implied t above) :=
  inferInstanceAs (Decidable (_ ∨ _))

lemma Tier.settledValue_of_some {t : MacroTable} {tier : Tier} {v : Int64}
    (h : t.value? tier.name = some v) (above : List Tier) :
    tier.settledValue t above = some v := by
  have hrequested : tier.Requested t := .inl (by rw [MacroTable.isDefined, h]; rfl)
  rw [settledValue, if_pos ⟨tier, List.mem_cons_self, hrequested⟩, value, h]
  rfl

lemma Tier.settledValue_of_none {t : MacroTable} {tier : Tier} (h : t.value? tier.name = none)
    (above : List Tier) :
    tier.settledValue t above =
      if tier.Implied t above then some (1 <<< Int64.ofNat tier.bit) else none := by
  have hrequested : (∃ higher ∈ tier :: above, higher.Requested t) ↔ tier.Implied t above := by
    rw [List.exists_mem_cons_iff, Requested, MacroTable.isDefined, h]
    simp [Implied]
  rw [settledValue, value, h, if_congr hrequested rfl rfl]
  rfl

lemma holds_enableTier_iff {tier : Tier} {above : List Tier} {t u : MacroTable}
    (h : TiersSettled above t u)
    (htriggers : ∀ name ∈ above.map (·.name), name ∉ termStrings tier.triggers) :
    (Condition.any (tier.triggers ++
        (above.take 1).map fun higher => .defined higher.name)).holds u = true ↔
      tier.Implied t above := by
  have hsame : Condition.anyHolds u tier.triggers = Condition.anyHolds t tier.triggers :=
    (termsHold_congr tier.triggers fun name hname =>
      h.rest name fun hmem => htriggers name hmem hname).1
  rw [Condition.holds, anyHolds_eq_any, List.any_append, ← anyHolds_eq_any, hsame, anyHolds_eq_any,
    Bool.or_eq_true, List.any_eq_true, Tier.Implied]
  refine or_congr_right ?_
  cases above with
  | nil => simp
  | cons higher above =>
      have hvalue := h.enables [] higher above rfl
      rw [List.take_succ_cons, List.take_zero, List.map_singleton, List.any_cons, List.any_nil,
        Bool.or_false, Condition.holds, MacroTable.isDefined, hvalue, Tier.settledValue]
      split
      next hrequested => simpa using hrequested
      next hrequested => simpa using hrequested

lemma TiersSettled.cons {tier : Tier} {above : List Tier} {t u u' : MacroTable}
    (h : TiersSettled above t u) (hname : tier.name ∉ above.map (·.name))
    (hvalue : u'.value? tier.name = tier.settledValue t above)
    (hrest : ∀ name, name ≠ tier.name → u'.value? name = u.value? name) :
    TiersSettled (tier :: above) t u' := by
  refine ⟨fun below other others hsplit => ?_, fun name hmem => ?_⟩
  · cases below with
    | nil =>
        cases hsplit
        exact hvalue
    | cons lowest below =>
        cases hsplit
        have hother : other.name ∈ (below ++ other :: others).map (·.name) :=
          List.mem_map_of_mem (List.mem_append_right _ List.mem_cons_self)
        rw [hrest other.name fun heq => hname (heq ▸ hother), h.enables below other others rfl]
  · rw [List.map_cons, List.mem_cons, not_or] at hmem
    rw [hrest name hmem.1, h.rest name hmem.2]

/-- **One tier.**  Once the tiers above are settled, the node of a tier settles it too. -/
lemma exists_walk_enableTier {tier : Tier} {above : List Tier} {t : MacroTable} {r : Resolution}
    (hladder : IsLadder (tier :: above)) (h : TiersSettled above t r.macros) :
    ∃ r', (enableTier tier above).walk r = .ok r' ∧ r'.includes = r.includes ∧
      TiersSettled (tier :: above) t r'.macros := by
  have hname : tier.name ∉ above.map (·.name) := (List.nodup_cons.1 hladder.nodup).1
  have hbefore : r.macros.value? tier.name = t.value? tier.name := h.rest _ hname
  have htriggers : ∀ name ∈ above.map (·.name), name ∉ termStrings tier.triggers :=
    fun name hmem => hladder.triggers tier List.mem_cons_self name
      (List.mem_cons_of_mem _ (List.mem_cons_of_mem _ hmem))
  have hholds := holds_enableTier_iff h htriggers
  by_cases himplied : tier.Implied t above
  · have hwalk : (enableTier tier above).walk r =
        .ok (if r.macros.isDefined tier.name then r else r.define tier.name (.bit tier.bit)) := by
      refine (walk_arm_of_holds (hholds.2 himplied) _ _).trans ?_
      rw [walkBlock_singleton, Node.walk]
    rw [hwalk, MacroTable.isDefined, hbefore]
    cases hvalue : t.value? tier.name with
    | some v =>
        refine ⟨r, rfl, rfl, h.cons hname ?_ fun _ _ => rfl⟩
        rw [hbefore, hvalue, Tier.settledValue_of_some hvalue]
    | none =>
        refine ⟨_, rfl, rfl, h.cons hname ?_ fun name hne => ?_⟩
        · rw [Option.isSome_none, if_neg Bool.false_ne_true, value?_resolution_define, if_pos rfl,
            Tier.settledValue_of_none hvalue, if_pos himplied]
          rfl
        · rw [Option.isSome_none, if_neg Bool.false_ne_true, value?_resolution_define, if_neg hne]
  · refine ⟨r, walk_arm_of_not_holds (mt hholds.1 himplied) _ _, rfl,
      h.cons hname ?_ fun _ _ => rfl⟩
    rw [hbefore]
    cases hvalue : t.value? tier.name with
    | some v => rw [Tier.settledValue_of_some hvalue]
    | none => rw [Tier.settledValue_of_none hvalue, if_neg himplied]

/-- **The tiers of a ladder.**  The nodes that enable them never fail and settle all of them. -/
lemma exists_walk_enableTiers {tiers : List Tier} (h : IsLadder tiers) (r : Resolution) :
    ∃ r', walkBlock (enableTiers tiers) r = .ok r' ∧ r'.includes = r.includes ∧
      TiersSettled tiers r.macros r'.macros := by
  induction tiers with
  | nil =>
      refine ⟨r, rfl, rfl, ⟨fun below tier above hsplit => ?_, fun _ _ => rfl⟩⟩
      cases below <;> cases hsplit
  | cons tier above ih =>
      obtain ⟨r₁, hwalk₁, hincludes₁, hsettled₁⟩ := ih h.of_cons
      obtain ⟨r₂, hwalk₂, hincludes₂, hsettled₂⟩ := exists_walk_enableTier h hsettled₁
      refine ⟨r₂, ?_, hincludes₂.trans hincludes₁, hsettled₂⟩
      rw [enableTiers, walkBlock_append_of_ok hwalk₁, walkBlock_singleton, hwalk₂]

/-! ## The mask and the header -/

lemma unionFrom_named (t : MacroTable) (seen : Int64) (tiers : List Tier) :
    Value.unionFrom t seen (tiers.map fun tier => .named tier.name) =
      tiers.foldl (fun bits tier => bits ||| t.valueOrZero tier.name) seen := by
  induction tiers generalizing seen with
  | nil => rfl
  | cons tier tiers ih => rw [List.map_cons, Value.unionFrom, ih, Value.eval, List.foldl_cons]

lemma bitsOf_reverse (t : MacroTable) (tiers : List Tier) :
    bitsOf t tiers.reverse = bitsOf t tiers := by
  refine (tiers.reverse_perm).foldl_eq' (fun tier _ other _ bits => ?_) 0
  rw [Int64.or_assoc, Int64.or_comm (t.valueOrZero _), Int64.or_assoc]

lemma eval_maskValue (t : MacroTable) (tier : Tier) (below : List Tier) :
    (maskValue tier below.reverse).eval t = bitsOf t (below ++ [tier]) := by
  rw [← bitsOf_reverse, List.reverse_append, List.reverse_singleton, List.singleton_append]
  unfold maskValue
  split
  next hbelow =>
    rw [hbelow, Value.eval, bitsOf, List.foldl_cons, List.foldl_nil, Int64.zero_or]
  next => rw [Value.eval, unionFrom_named, bitsOf]

/-- Alternatives that ask for tiers from the top down. -/
def tierArms (body : Tier → List Tier → List Node) : List Tier → Arms
  | [] => .done
  | tier :: below => .arm (.defined tier.name) (body tier below) (tierArms body below)

lemma maskArms_eq (tiers : List Tier) :
    maskArms tiers =
      tierArms (fun tier below => [.define simdMask (maskValue tier below)]) tiers := by
  induction tiers with
  | nil => rfl
  | cons tier below ih => rw [maskArms, tierArms, ih]

lemma headerArms_eq (tiers : List Tier) :
    headerArms tiers = tierArms (fun tier _ => [.include tier.header]) tiers := by
  induction tiers with
  | nil => rfl
  | cons tier below ih => rw [headerArms, tierArms, ih]

/-- With no tier enabled nothing happens. -/
lemma walk_tierArms_of_idle {body : Tier → List Tier → List Node} {tiers : List Tier}
    {r : Resolution} (h : ∀ tier ∈ tiers, r.macros.isDefined tier.name = false) :
    (tierArms body tiers).walk r = .ok r := by
  induction tiers with
  | nil => rfl
  | cons tier tiers ih =>
      obtain ⟨htier, htiers⟩ := List.forall_mem_cons.1 h
      rw [tierArms, walk_arm_of_undefined htier, ih htiers]

/-- From the top down, the first enabled tier counts. -/
lemma walk_tierArms_of_top {body : Tier → List Tier → List Node} {above below : List Tier}
    {tier : Tier} {r : Resolution}
    (habove : ∀ higher ∈ above, r.macros.isDefined higher.name = false)
    (htier : r.macros.isDefined tier.name = true) :
    (tierArms body (above ++ tier :: below)).walk r = walkBlock (body tier below) r := by
  induction above with
  | nil => rw [List.nil_append, tierArms, walk_arm_of_defined htier]
  | cons higher above ih =>
      obtain ⟨hhigher, habove⟩ := List.forall_mem_cons.1 habove
      rw [List.cons_append, tierArms, walk_arm_of_undefined hhigher, ih habove]

/-- The chains that set the mask and include a header. -/
def collectBlock (tiers : List Tier) : List Node :=
  [ .chain "SIMD MASK" (maskArms tiers.reverse),
    .chain "INTRINSICS HEADER" (headerArms tiers.reverse) ]

lemma walk_collectBlock_of_idle {tiers : List Tier} {r : Resolution}
    (h : ∀ tier ∈ tiers, r.macros.isDefined tier.name = false) :
    walkBlock (collectBlock tiers) r = .ok r := by
  have hreverse : ∀ tier ∈ tiers.reverse, r.macros.isDefined tier.name = false :=
    fun tier htier => h tier (List.mem_reverse.1 htier)
  have hmask : (Node.chain "SIMD MASK" (maskArms tiers.reverse)).walk r = .ok r := by
    rw [Node.walk, maskArms_eq, walk_tierArms_of_idle hreverse]
  have hheader : (Node.chain "INTRINSICS HEADER" (headerArms tiers.reverse)).walk r = .ok r := by
    rw [Node.walk, headerArms_eq, walk_tierArms_of_idle hreverse]
  rw [collectBlock, walkBlock_cons, hmask]
  exact (walkBlock_singleton _ r).trans hheader

/-- The highest enabled tier decides the mask and the header. -/
lemma walk_collectBlock_of_top {tiers below above : List Tier} {tier : Tier} {r : Resolution}
    (hsplit : tiers = below ++ tier :: above) (hmask : simdMask ∉ tiers.map (·.name))
    (htier : r.macros.isDefined tier.name = true)
    (habove : ∀ higher ∈ above, r.macros.isDefined higher.name = false) :
    ∃ r', walkBlock (collectBlock tiers) r = .ok r' ∧
      (∀ name, name ≠ simdMask → r'.macros.value? name = r.macros.value? name) ∧
      r'.macros.value? simdMask = some (bitsOf r.macros (below ++ [tier])) ∧
      r'.includes = r.includes ++ [tier.header] := by
  have hreverse : tiers.reverse = above.reverse ++ tier :: below.reverse := by
    rw [hsplit, List.reverse_append, List.reverse_cons, List.append_assoc, List.singleton_append]
  have habove' : ∀ higher ∈ above.reverse, r.macros.isDefined higher.name = false :=
    fun higher hhigher => habove higher (List.mem_reverse.1 hhigher)
  let r₁ := r.define simdMask (maskValue tier below.reverse)
  have hkeeps (name : String) (hname : name ≠ simdMask) :
      r₁.macros.value? name = r.macros.value? name := by
    rw [value?_resolution_define, if_neg hname]
  have hnames {u : Tier} (hu : u ∈ tiers) :
      r₁.macros.isDefined u.name = r.macros.isDefined u.name := by
    rw [MacroTable.isDefined, hkeeps _ fun heq => hmask (heq ▸ List.mem_map_of_mem hu)]
    rfl
  -- Both chains ask for the tiers downwards, so the first that is enabled is the highest one.
  have hwalkMask : (Node.chain "SIMD MASK" (maskArms tiers.reverse)).walk r = .ok r₁ := by
    rw [Node.walk, maskArms_eq, hreverse, walk_tierArms_of_top habove' htier, walkBlock_singleton,
      Node.walk]
  have hwalkHeader : (Node.chain "INTRINSICS HEADER" (headerArms tiers.reverse)).walk r₁ =
      .ok { r₁ with includes := r₁.includes ++ [tier.header] } := by
    have htier₁ : r₁.macros.isDefined tier.name = true :=
      (hnames (by simp [hsplit])).trans htier
    have habove₁ : ∀ higher ∈ above.reverse, r₁.macros.isDefined higher.name = false := by
      intro higher hhigher
      have hmem : higher ∈ tiers.reverse := by
        rw [hreverse]
        exact List.mem_append_left _ hhigher
      exact (hnames (List.mem_reverse.1 hmem)).trans (habove' higher hhigher)
    rw [Node.walk, headerArms_eq, hreverse, walk_tierArms_of_top habove₁ htier₁,
      walkBlock_singleton, Node.walk]
  refine ⟨{ r₁ with includes := r₁.includes ++ [tier.header] }, ?_, hkeeps, ?_, rfl⟩
  · rw [collectBlock, walkBlock_cons, hwalkMask]
    exact (walkBlock_singleton _ r₁).trans hwalkHeader
  · rw [← eval_maskValue]
    exact (value?_resolution_define r _ _ _).trans (if_pos rfl)

/-! ## A whole ladder -/

/-- **What the mask and the header come to**, given the macros of the tiers. -/
structure Collected (tiers : List Tier) (u : MacroTable) (idleMask : Option Int64)
    (included : List String) (r : Resolution) : Prop where
  rest : ∀ name, name ≠ simdMask → r.macros.value? name = u.value? name
  top : ∀ below tier above, tiers = below ++ tier :: above → u.isDefined tier.name = true →
    (∀ higher ∈ above, u.isDefined higher.name = false) →
    r.macros.value? simdMask = some (bitsOf u (below ++ [tier])) ∧
      r.includes = included ++ [tier.header]
  idle : (∀ tier ∈ tiers, u.isDefined tier.name = false) →
    r.macros.value? simdMask = idleMask ∧ r.includes = included

/-- Some tier is the highest enabled one, unless none is enabled. -/
lemma idle_or_exists_top (u : MacroTable) (tiers : List Tier) :
    (∀ tier ∈ tiers, u.isDefined tier.name = false) ∨
      ∃ below tier above, tiers = below ++ tier :: above ∧ u.isDefined tier.name = true ∧
        ∀ higher ∈ above, u.isDefined higher.name = false := by
  induction tiers with
  | nil => exact .inl fun _ h => absurd h List.not_mem_nil
  | cons lowest tiers ih =>
      rcases ih with hidle | ⟨below, tier, above, hsplit, htop⟩
      · cases hlowest : u.isDefined lowest.name with
        | true => exact .inr ⟨[], lowest, tiers, rfl, hlowest, hidle⟩
        | false => exact .inl (List.forall_mem_cons.2 ⟨hlowest, hidle⟩)
      · exact .inr ⟨lowest :: below, tier, above, by rw [hsplit, List.cons_append], htop⟩

lemma exists_walk_collectBlock {tiers : List Tier} (hmask : simdMask ∉ tiers.map (·.name))
    (r : Resolution) :
    ∃ r', walkBlock (collectBlock tiers) r = .ok r' ∧
      Collected tiers r.macros (r.macros.value? simdMask) r.includes r' := by
  obtain ⟨r', hwalk, hrest⟩ : ∃ r', walkBlock (collectBlock tiers) r = .ok r' ∧
      ∀ name, name ≠ simdMask → r'.macros.value? name = r.macros.value? name := by
    rcases idle_or_exists_top r.macros tiers with
      hidle | ⟨below, tier, above, hsplit, htier, habove⟩
    · exact ⟨r, walk_collectBlock_of_idle hidle, fun _ _ => rfl⟩
    · obtain ⟨r', hwalk, hrest, -⟩ := walk_collectBlock_of_top hsplit hmask htier habove
      exact ⟨r', hwalk, hrest⟩
  refine ⟨r', hwalk, hrest, fun below tier above hsplit htier habove => ?_, fun hidle => ?_⟩
  · obtain ⟨r'', hwalk'', -, htop⟩ := walk_collectBlock_of_top hsplit hmask htier habove
    rw [hwalk] at hwalk''
    cases hwalk''
    exact htop
  · rw [walk_collectBlock_of_idle hidle] at hwalk
    cases hwalk
    exact ⟨rfl, rfl⟩

lemma bitsOf_congr {t u : MacroTable} {tiers : List Tier}
    (h : ∀ tier ∈ tiers, t.value? tier.name = u.value? tier.name) :
    bitsOf t tiers = bitsOf u tiers := by
  refine List.foldl_ext _ _ _ fun bits tier htier => ?_
  rw [MacroTable.valueOrZero, MacroTable.valueOrZero, h tier htier]

lemma EnablesTiers.isDefined_iff {tiers below above : List Tier} {tier : Tier}
    {t u : MacroTable} (h : EnablesTiers tiers t u) (hsplit : tiers = below ++ tier :: above) :
    u.isDefined tier.name = true ↔ ∃ higher ∈ tier :: above, higher.Requested t := by
  rw [MacroTable.isDefined, h below tier above hsplit, Tier.settledValue]
  split
  next hrequested => simpa using hrequested
  next hrequested => simpa using hrequested

/-- What a ladder comes to, once its tiers have their values and the mask and the header are
chosen. -/
lemma Collected.settlesTiers {tiers : List Tier} {t u : MacroTable} {idleMask : Option Int64}
    {included : List String} {r : Resolution} (hladder : IsLadder tiers)
    (henables : EnablesTiers tiers t u) (h : Collected tiers u idleMask included r) :
    SettlesTiers tiers t idleMask included r := by
  have hvalue {tier : Tier} (htier : tier ∈ tiers) :
      r.macros.value? tier.name = u.value? tier.name :=
    h.rest _ fun heq => hladder.mask_notMem (heq ▸ List.mem_map_of_mem htier)
  have hdefined {tier : Tier} (htier : tier ∈ tiers) :
      r.macros.isDefined tier.name = u.isDefined tier.name := by
    rw [MacroTable.isDefined, MacroTable.isDefined, hvalue htier]
  have hiff {below above : List Tier} {tier : Tier} (hsplit : tiers = below ++ tier :: above) :
      r.macros.isDefined tier.name = true ↔ ∃ higher ∈ tier :: above, higher.Requested t := by
    rw [hdefined (hsplit ▸ List.mem_append_right _ List.mem_cons_self)]
    exact henables.isDefined_iff hsplit
  constructor
  case isDefined_iff => exact fun below tier above => hiff
  case downward =>
    intro below tier above hsplit htier lower hlower
    obtain ⟨lowest, between, rfl⟩ := List.append_of_mem hlower
    obtain ⟨higher, hhigher, hrequested⟩ := (hiff hsplit).1 htier
    -- What requested the tier is above the lower one as well.
    have hsplit' : tiers = lowest ++ lower :: (between ++ tier :: above) := by
      rw [hsplit, List.append_assoc, List.cons_append]
    exact (hiff hsplit').2
      ⟨higher, List.mem_cons_of_mem _ (List.mem_append_right _ hhigher), hrequested⟩
  case kept =>
    intro tier htier v hv
    obtain ⟨below, above, hsplit⟩ := List.append_of_mem htier
    rw [hvalue htier, henables below tier above hsplit, Tier.settledValue_of_some hv]
  case assigned =>
    intro tier htier hnone v hv
    obtain ⟨below, above, hsplit⟩ := List.append_of_mem htier
    rw [hvalue htier, henables below tier above hsplit, Tier.settledValue_of_none hnone] at hv
    split at hv
    next =>
      cases hv
      exact toInt_bit (hladder.bit_le tier htier)
    next => cases hv
  case top =>
    intro below tier above hsplit htier habove
    have hmem {other : Tier} (hother : other ∈ below ∨ other ∈ tier :: above) : other ∈ tiers :=
      hsplit ▸ List.mem_append.2 hother
    have htier' : u.isDefined tier.name = true :=
      (hdefined (hmem (.inr List.mem_cons_self))).symm.trans htier
    have habove' : ∀ higher ∈ above, u.isDefined higher.name = false := fun higher hhigher =>
      (hdefined (hmem (.inr (List.mem_cons_of_mem _ hhigher)))).symm.trans (habove higher hhigher)
    obtain ⟨hmask, hincludes⟩ := h.top below tier above hsplit htier' habove'
    refine ⟨hmask.trans (congrArg some (bitsOf_congr fun lower hlower => ?_)), hincludes⟩
    rw [List.mem_append, List.mem_singleton] at hlower
    exact (hvalue (hmem (hlower.imp_right fun heq => heq ▸ List.mem_cons_self))).symm
  case idle =>
    intro htiers
    exact h.idle fun tier htier => (hdefined htier).symm.trans (htiers tier htier)

/-- **A whole ladder.**  Its detection never fails, settles its tiers and changes no other macro. -/
theorem exists_walk_tierBlock {tiers : List Tier} (hladder : IsLadder tiers) (r : Resolution) :
    ∃ r', walkBlock (tierBlock tiers) r = .ok r' ∧
      SettlesTiers tiers r.macros (r.macros.value? simdMask) r.includes r' ∧
      ∀ name, name ∉ simdMask :: tiers.map (·.name) →
        r'.macros.value? name = r.macros.value? name := by
  obtain ⟨r₁, hwalk₁, hincludes, hsettled⟩ := exists_walk_enableTiers hladder r
  obtain ⟨r', hwalk, hcollected⟩ := exists_walk_collectBlock hladder.mask_notMem r₁
  rw [hsettled.rest simdMask hladder.mask_notMem, hincludes] at hcollected
  refine ⟨r', (walkBlock_append_of_ok hwalk₁).trans hwalk,
    hcollected.settlesTiers hladder hsettled.enables, fun name hname => ?_⟩
  rw [List.mem_cons, not_or] at hname
  rw [hcollected.rest name hname.1, hsettled.rest name hname.2]

end MathHeader.Detection
