import MathHeader.Proofs.Preprocessor.Walk

/-!
# What a block depends on

A block asks about some macros: those in its conditions and values, and those that it defines unless
they are defined already.  `blockReads` lists them.  A macro that a block does not ask about makes
no difference to it.  With another value of that macro, or without one, the block comes to the same
error, or it includes the same headers and gives every other macro the same value:
`sameBut_walkBlock`.
-/

namespace MathHeader.Preprocessor

/-! ## The macros that a block asks about -/

mutual

/-- The macros that a node asks about, in the order of its lines. -/
def Node.reads : Node → List String
  | .chain _ arms => arms.reads
  | .define _ value => value.strings
  | .default name value => name :: value.strings
  | _ => []

/-- The macros that alternatives ask about. -/
def Arms.reads : Arms → List String
  | .arm condition body rest => condition.strings ++ blockReads body ++ rest.reads
  | .otherwise body => blockReads body
  | _ => []

/-- The macros that the nodes of a block ask about. -/
def blockReads : List Node → List String
  | [] => []
  | n :: ns => n.reads ++ blockReads ns

end

/-! ## Agreement but for one macro -/

/-- All macros but one have the same value in two tables, if any. -/
def MacroTable.AgreesBut (name : String) (t u : MacroTable) : Prop :=
  ∀ other, other ≠ name → t.value? other = u.value? other

/-- Two resolutions with the same headers agree on all macros but one. -/
structure Resolution.AgreesBut (name : String) (r r' : Resolution) : Prop where
  macros : r.macros.AgreesBut name r'.macros
  includes : r.includes = r'.includes

/-- **The same result but for one macro**: the same error, or resolutions that agree on the other
macros. -/
def SameBut (name : String) : Except Diagnostic Resolution → Except Diagnostic Resolution → Prop
  | .ok r, .ok r' => r.AgreesBut name r'
  | .error d, .error d' => d = d'
  | _, _ => False

section Agreement

variable {name : String} {t u : MacroTable} {r r' : Resolution}

lemma MacroTable.AgreesBut.on (h : t.AgreesBut name u) {names : List String}
    (hnames : name ∉ names) : ∀ other ∈ names, t.value? other = u.value? other :=
  fun other hother => h other fun heq => hnames (heq ▸ hother)

lemma MacroTable.agreesBut_define (t : MacroTable) (name : String) (value : Int64) :
    t.AgreesBut name (t.define name value) := by
  intro other hother
  rw [value?_define, if_neg hother]

lemma MacroTable.AgreesBut.define (h : t.AgreesBut name u) (other : String) (value : Int64) :
    (t.define other value).AgreesBut name (u.define other value) := by
  intro third hthird
  rw [value?_define, value?_define, h third hthird]

lemma Resolution.AgreesBut.define (h : r.AgreesBut name r') {value : Value}
    (hvalue : name ∉ value.strings) (other : String) :
    (r.define other value).AgreesBut name (r'.define other value) := by
  have heval : value.eval r.macros = value.eval r'.macros :=
    Value.eval_congr value (h.macros.on hvalue)
  refine ⟨?_, h.includes⟩
  rw [Resolution.define, Resolution.define, heval]
  exact h.macros.define other _

lemma sameBut_iff {x y : Except Diagnostic Resolution} :
    SameBut name x y ↔
      (∃ d, x = .error d ∧ y = .error d) ∨
        ∃ r r', x = .ok r ∧ y = .ok r' ∧ r.AgreesBut name r' := by
  cases x <;> cases y <;> simp [SameBut, eq_comm]

/-- Two walks that agree, each followed by the same one, which keeps the agreement. -/
lemma SameBut.bind {x y : Except Diagnostic Resolution}
    {f : Resolution → Except Diagnostic Resolution} (h : SameBut name x y)
    (hf : ∀ r r', r.AgreesBut name r' → SameBut name (f r) (f r')) :
    SameBut name (x >>= f) (y >>= f) := by
  rcases sameBut_iff.1 h with ⟨d, rfl, rfl⟩ | ⟨r, r', rfl, rfl, hagree⟩
  · exact h
  · exact hf r r' hagree

end Agreement

/-! ## Blocks that do not ask about a macro -/

mutual

lemma Node.sameBut_walk {name : String} : (n : Node) → name ∉ n.reads →
    {r r' : Resolution} → r.AgreesBut name r' → SameBut name (n.walk r) (n.walk r')
  | .chain label arms, hn, _, _, h => by
      rw [Node.reads] at hn
      rw [Node.walk, Node.walk]
      exact Arms.sameBut_walk arms hn h
  | .define other value, hn, _, _, h => by
      rw [Node.reads] at hn
      exact h.define hn other
  | .default other value, hn, r, r', h => by
      rw [Node.reads, List.mem_cons, not_or] at hn
      have hdefined : r.macros.isDefined other = r'.macros.isDefined other :=
        congrArg Option.isSome (h.macros other (Ne.symm hn.1))
      rw [Node.walk, Node.walk, hdefined]
      split
      · exact h
      · exact h.define hn.2 other
  | .include header, _, _, _, h => ⟨h.macros, congrArg (· ++ [header]) h.includes⟩
  | .error message, _, _, _, _ => rfl
  | .comment text, _, _, _, h => h
  | .blank, _, _, _, h => h

lemma Arms.sameBut_walk {name : String} : (arms : Arms) → name ∉ arms.reads →
    {r r' : Resolution} → r.AgreesBut name r' → SameBut name (arms.walk r) (arms.walk r')
  | .arm condition body rest, harms, r, r', h => by
      rw [Arms.reads, List.mem_append, List.mem_append, not_or, not_or] at harms
      obtain ⟨⟨hcondition, hbody⟩, hrest⟩ := harms
      rw [Arms.walk, Arms.walk, Condition.holds_congr condition (h.macros.on hcondition)]
      split
      · exact sameBut_walkBlock body hbody h
      · exact Arms.sameBut_walk rest hrest h
  | .done, _, _, _, h => h
  | .otherwise body, harms, _, _, h => by
      rw [Arms.reads] at harms
      rw [Arms.walk, Arms.walk]
      exact sameBut_walkBlock body harms h
  | .fail message, _, _, _, _ => rfl

/-- **What a block does not ask about.**  Walking a block keeps an agreement of resolutions but for
a macro that the block does not ask about. -/
theorem sameBut_walkBlock {name : String} : (ns : List Node) → name ∉ blockReads ns →
    {r r' : Resolution} → r.AgreesBut name r' → SameBut name (walkBlock ns r) (walkBlock ns r')
  | [], _, _, _, h => h
  | n :: ns, hns, _, _, h => by
      rw [blockReads, List.mem_append, not_or] at hns
      rw [walkBlock_cons, walkBlock_cons]
      exact (Node.sameBut_walk n hns.1 h).bind fun r r' h => sameBut_walkBlock ns hns.2 h

end

/-- One more predefined macro, which a block does not ask about, makes no difference to it. -/
lemma sameBut_resolve {name : String} {ns : List Node} (h : name ∉ blockReads ns)
    (P : List (String × Int64)) (value : Int64) :
    SameBut name (resolve ns P) (resolve ns (P ++ [(name, value)])) := by
  have hlast : MacroTable.ofList (P ++ [(name, value)]) =
      (MacroTable.ofList P).define name value := by
    rw [MacroTable.ofList, List.foldl_append]
    rfl
  refine sameBut_walkBlock ns h ⟨?_, rfl⟩
  rw [hlast]
  exact MacroTable.agreesBut_define _ name value

end MathHeader.Preprocessor
