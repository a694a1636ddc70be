import MathHeader.Preprocessor.Resolution
import MathHeader.Proofs.Preprocessor.Strings
import MathHeader.Proofs.Traversal
import Mathlib.Algebra.Group.Int.Defs

/-!
# Walking a block

Whatever arms are taken, walking a block can only define the macros, include the headers and stop at
the errors that are written in it.  `Resolution.Keeps` says that of two resolutions, and
`keeps_of_walkBlock` proves it for every block, by the recursion of the walk: a node keeps it, and
blocks put it together.  `message_mem_of_walkBlock` is the same for errors, so that a block without
one never fails.

In the other direction, a condition only looks at the macros that it mentions, and so does a value:
`Condition.holds_congr` and `Value.eval_congr`.  These facts together let the parts of a block be
understood one at a time.
-/

namespace MathHeader.Preprocessor

/-! ## Predefined macros -/

namespace MacroTable

/-- The value of a macro among definitions, of which the latest counts. -/
lemma value?_foldl_define (definitions : List (String × Int64)) (t : MacroTable) (name : String) :
    (definitions.foldl (fun t (name, value) => t.define name value) t).value? name =
      (definitions.reverse.lookup name).or (t.value? name) := by
  induction definitions generalizing t with
  | nil => rfl
  | cons d ds ih =>
      obtain ⟨other, value⟩ := d
      rw [List.foldl_cons, ih, value?_define, List.reverse_cons, List.lookup_append]
      by_cases h : name = other
      · subst h
        cases ds.reverse.lookup name <;> simp
      · have hlookup : [(other, value)].lookup name = none := by
          simp [List.lookup_cons, beq_false_of_ne h]
        rw [if_neg h, hlookup, Option.or_none]

/-- **Predefined macros.**  Of several definitions of a macro the latest one counts. -/
lemma value?_ofList (definitions : List (String × Int64)) (name : String) :
    (ofList definitions).value? name = definitions.reverse.lookup name := by
  rw [ofList, value?_foldl_define, value?_empty, Option.or_none]

lemma isDefined_ofList_iff {definitions : List (String × Int64)} {name : String} :
    (ofList definitions).isDefined name = true ↔ name ∈ definitions.map (·.1) := by
  rw [isDefined, value?_ofList, Option.isSome_iff_ne_none, ne_eq, List.lookup_eq_none_iff]
  simp only [List.mem_reverse, bne_iff_ne, ne_eq, not_forall, not_not, List.mem_map]
  constructor
  · rintro ⟨d, hd, rfl⟩
    exact ⟨d, hd, rfl⟩
  · rintro ⟨d, hd, rfl⟩
    exact ⟨d, hd, rfl⟩

end MacroTable

/-! ## Bits -/

lemma toInt_bit {bit : Nat} (h : bit ≤ 62) :
    ((1 : Int64) <<< Int64.ofNat bit).toInt = 2 ^ bit := by
  have hall : ∀ bit : Fin 63, ((1 : Int64) <<< Int64.ofNat bit.1).toInt = 2 ^ bit.1 := by decide
  exact hall ⟨bit, by omega⟩

/-! ## What a condition and a value look at -/

lemma Operand.eval_congr {t u : MacroTable} {operand : Operand}
    (h : ∀ name ∈ operand.strings, t.value? name = u.value? name) :
    operand.eval t = operand.eval u := by
  cases operand with
  | named name =>
      rw [eval, eval, MacroTable.valueOrZero, MacroTable.valueOrZero,
        h name (List.mem_singleton_self name)]
  | int value => rfl

mutual

lemma Condition.holds_congr {t u : MacroTable} :
    (c : Condition) → (∀ name ∈ c.strings, t.value? name = u.value? name) →
      c.holds t = c.holds u
  | .defined name, h => by
      rw [Condition.holds, Condition.holds, MacroTable.isDefined, MacroTable.isDefined,
        h name (List.mem_singleton_self name)]
  | .equal left right, h => by
      rw [Condition.strings, List.forall_mem_append] at h
      rw [Condition.holds, Condition.holds, Operand.eval_congr h.1, Operand.eval_congr h.2]
  | .not c, h => by
      rw [Condition.strings] at h
      rw [Condition.holds, Condition.holds, Condition.holds_congr c h]
  | .any terms, h => by
      rw [Condition.strings] at h
      rw [Condition.holds, Condition.holds, (termsHold_congr terms h).1]
  | .all terms, h => by
      rw [Condition.strings] at h
      rw [Condition.holds, Condition.holds, (termsHold_congr terms h).2]

lemma termsHold_congr {t u : MacroTable} :
    (terms : List Condition) → (∀ name ∈ termStrings terms, t.value? name = u.value? name) →
      Condition.anyHolds t terms = Condition.anyHolds u terms ∧
        Condition.allHold t terms = Condition.allHold u terms
  | [], _ => ⟨rfl, rfl⟩
  | c :: cs, h => by
      rw [termStrings, List.forall_mem_append] at h
      have hc := Condition.holds_congr c h.1
      have hcs := termsHold_congr cs h.2
      simp only [Condition.anyHolds, Condition.allHold, hc, hcs.1, hcs.2, and_self]

end

mutual

/-- A value is the same number in all tables that agree on the macros in it. -/
lemma Value.eval_congr {t u : MacroTable} :
    (v : Value) → (∀ name ∈ v.strings, t.value? name = u.value? name) → v.eval t = v.eval u
  | .flag, _ | .int _, _ | .hex _, _ | .bit _, _ => by rw [Value.eval, Value.eval]
  | .named name, h => by
      rw [Value.strings, List.forall_mem_singleton] at h
      rw [Value.eval, Value.eval, MacroTable.valueOrZero, MacroTable.valueOrZero, h]
  | .union parts, h => by
      rw [Value.strings] at h
      rw [Value.eval, Value.eval, unionFrom_congr parts h]

lemma unionFrom_congr {t u : MacroTable} {seen : Int64} :
    (vs : List Value) → (∀ name ∈ partStrings vs, t.value? name = u.value? name) →
      Value.unionFrom t seen vs = Value.unionFrom u seen vs
  | [], _ => rfl
  | v :: vs, h => by
      rw [partStrings, List.forall_mem_append] at h
      rw [Value.unionFrom, Value.unionFrom, Value.eval_congr v h.1, unionFrom_congr vs h.2]

end

lemma anyHolds_eq_any (t : MacroTable) (terms : List Condition) :
    Condition.anyHolds t terms = terms.any (·.holds t) := by
  induction terms with
  | nil => rfl
  | cons c cs ih => rw [Condition.anyHolds, List.any_cons, ih]

lemma holds_anyDefined (t : MacroTable) (names : List String) :
    (Condition.anyDefined names).holds t = names.any t.isDefined := by
  rw [Condition.anyDefined, Condition.holds, anyHolds_eq_any, List.any_map]
  rfl

/-! ## What a block touches -/

mutual

/-- The headers that a node may include, in the order of its lines. -/
def Node.headers : Node → List String
  | .chain _ arms => arms.headers
  | .include header => [header]
  | _ => []

/-- The headers that alternatives may include. -/
def Arms.headers : Arms → List String
  | .arm _ body rest => blockHeaders body ++ rest.headers
  | .otherwise body => blockHeaders body
  | _ => []

/-- The headers that the nodes of a block may include. -/
def blockHeaders : List Node → List String
  | [] => []
  | n :: ns => n.headers ++ blockHeaders ns

end

/-- **What a walk keeps.**  Macros that are not among `names` keep their value, no macro becomes
undefined, and what is included are some of `headers`, in order. -/
structure Resolution.Keeps (r r' : Resolution) (names headers : List String) : Prop where
  value?_eq : ∀ name, name ∉ names → r'.macros.value? name = r.macros.value? name
  isDefined : ∀ name, r.macros.isDefined name = true → r'.macros.isDefined name = true
  includes : ∃ taken, taken.Sublist headers ∧ r'.includes = r.includes ++ taken

namespace Resolution

variable {r r' r'' : Resolution} {names names' headers headers' : List String}

lemma Keeps.refl (r : Resolution) (names headers : List String) : r.Keeps r names headers :=
  ⟨fun _ _ => rfl, fun _ h => h, [], List.nil_sublist _, (List.append_nil _).symm⟩

lemma Keeps.trans (h : r.Keeps r' names headers) (h' : r'.Keeps r'' names' headers') :
    r.Keeps r'' (names ++ names') (headers ++ headers') := by
  obtain ⟨taken, htaken, hincludes⟩ := h.includes
  obtain ⟨taken', htaken', hincludes'⟩ := h'.includes
  refine ⟨fun name hname => ?_, fun name hname => h'.isDefined name (h.isDefined name hname),
    taken ++ taken', htaken.append htaken', ?_⟩
  · rw [List.mem_append, not_or] at hname
    rw [h'.value?_eq name hname.2, h.value?_eq name hname.1]
  · rw [hincludes', hincludes, List.append_assoc]

lemma Keeps.mono (h : r.Keeps r' names headers) (hnames : names ⊆ names')
    (hheaders : headers.Sublist headers') : r.Keeps r' names' headers' := by
  obtain ⟨taken, htaken, hincludes⟩ := h.includes
  exact ⟨fun name hname => h.value?_eq name fun hmem => hname (hnames hmem), h.isDefined, taken,
    htaken.trans hheaders, hincludes⟩

lemma keeps_define (r : Resolution) (name : String) (value : Value) :
    r.Keeps (r.define name value) [name] [] := by
  refine ⟨fun other hother => ?_, fun other hother => ?_, [], .slnil, (List.append_nil _).symm⟩
  · rw [define, MacroTable.value?_define, if_neg (by simpa using hother)]
  · rw [define, MacroTable.isDefined, MacroTable.value?_define]
    split
    · rfl
    · exact hother

end Resolution

mutual

lemma Node.keeps_of_walk : (n : Node) → {r r' : Resolution} → n.walk r = .ok r' →
    r.Keeps r' n.definitions n.headers
  | .chain label arms, _, _, h => by
      rw [Node.walk] at h
      rw [Node.definitions, Node.headers]
      exact Arms.keeps_of_walk arms h
  | .define name value, r, _, h => by
      cases h
      exact r.keeps_define name value
  | .default name value, r, _, h => by
      cases h
      split
      · exact .refl r _ _
      · exact r.keeps_define name value
  | .include header, r, _, h => by
      cases h
      exact ⟨fun _ _ => rfl, fun _ h => h, [header], .refl _, rfl⟩
  | .error message, _, _, h => by cases h
  | .comment text, r, _, h => by
      cases h
      exact .refl r _ _
  | .blank, r, _, h => by
      cases h
      exact .refl r _ _

lemma Arms.keeps_of_walk : (arms : Arms) → {r r' : Resolution} → arms.walk r = .ok r' →
    r.Keeps r' arms.definitions arms.headers
  | .arm condition body rest, _, _, h => by
      rw [Arms.walk] at h
      rw [Arms.definitions, Arms.headers]
      split at h
      · exact (keeps_of_walkBlock body h).mono (List.subset_append_left _ _)
          (List.sublist_append_left _ _)
      · exact (Arms.keeps_of_walk rest h).mono (List.subset_append_right _ _)
          (List.sublist_append_right _ _)
  | .done, r, _, h => by
      cases h
      exact .refl r _ _
  | .otherwise body, _, _, h => by
      rw [Arms.walk] at h
      rw [Arms.definitions, Arms.headers]
      exact keeps_of_walkBlock body h
  | .fail message, _, _, h => by cases h

/-- **What a block keeps.**  A block defines no macro and includes no header that is not written in
it. -/
theorem keeps_of_walkBlock : (ns : List Node) → {r r' : Resolution} → walkBlock ns r = .ok r' →
    r.Keeps r' (blockDefinitions ns) (blockHeaders ns)
  | [], r, _, h => by
      cases h
      exact .refl r _ _
  | n :: ns, _, _, h => by
      rw [walkBlock] at h
      rw [blockDefinitions, blockHeaders]
      split at h
      next hn => exact (Node.keeps_of_walk n hn).trans (keeps_of_walkBlock ns h)
      next => cases h

end

/-! ## Where a block stops -/

mutual

/-- The messages of the errors in a node, in the order of its lines. -/
def Node.messages : Node → List String
  | .chain _ arms => arms.messages
  | .error message => [message]
  | _ => []

/-- The messages of the errors in alternatives. -/
def Arms.messages : Arms → List String
  | .arm _ body rest => blockMessages body ++ rest.messages
  | .done => []
  | .otherwise body => blockMessages body
  | .fail message => [message]

/-- The messages of the errors in the nodes of a block. -/
def blockMessages : List Node → List String
  | [] => []
  | n :: ns => n.messages ++ blockMessages ns

end

mutual

lemma Node.message_mem_of_walk : (n : Node) → {r : Resolution} → {d : Diagnostic} →
    n.walk r = .error d → d.message ∈ n.messages
  | .chain label arms, _, _, h => by
      rw [Node.walk] at h
      rw [Node.messages]
      exact Arms.message_mem_of_walk arms h
  | .define name value, _, _, h => by cases h
  | .default name value, _, _, h => by cases h
  | .include header, _, _, h => by cases h
  | .error message, _, _, h => by
      cases h
      exact List.mem_singleton_self message
  | .comment text, _, _, h => by cases h
  | .blank, _, _, h => by cases h

lemma Arms.message_mem_of_walk : (arms : Arms) → {r : Resolution} → {d : Diagnostic} →
    arms.walk r = .error d → d.message ∈ arms.messages
  | .arm condition body rest, _, _, h => by
      rw [Arms.walk] at h
      rw [Arms.messages, List.mem_append]
      split at h
      · exact .inl (message_mem_of_walkBlock body h)
      · exact .inr (Arms.message_mem_of_walk rest h)
  | .done, _, _, h => by cases h
  | .otherwise body, _, _, h => by
      rw [Arms.walk] at h
      rw [Arms.messages]
      exact message_mem_of_walkBlock body h
  | .fail message, _, _, h => by
      cases h
      exact List.mem_singleton_self message

/-- **Where a block stops.**  A block fails with an error that is written in it. -/
theorem message_mem_of_walkBlock : (ns : List Node) → {r : Resolution} → {d : Diagnostic} →
    walkBlock ns r = .error d → d.message ∈ blockMessages ns
  | [], _, _, h => by cases h
  | n :: ns, _, _, h => by
      rw [walkBlock] at h
      rw [blockMessages, List.mem_append]
      split at h
      next => exact .inr (message_mem_of_walkBlock ns h)
      next hn =>
        cases h
        exact .inl (Node.message_mem_of_walk n hn)

end

/-- A block without an error never fails. -/
lemma exists_walkBlock_eq_ok (ns : List Node) (h : blockMessages ns = []) (r : Resolution) :
    ∃ r', walkBlock ns r = .ok r' := by
  cases hwalk : walkBlock ns r with
  | ok r' => exact ⟨r', rfl⟩
  | error d =>
      have hmem := message_mem_of_walkBlock ns hwalk
      rw [h] at hmem
      exact absurd hmem List.not_mem_nil

/-! ## Steps of a walk -/

lemma walkBlock_cons (n : Node) (ns : List Node) (r : Resolution) :
    walkBlock (n :: ns) r = n.walk r >>= walkBlock ns := by
  rw [walkBlock]
  cases n.walk r <;> rfl

lemma walkBlock_append (ns ms : List Node) (r : Resolution) :
    walkBlock (ns ++ ms) r = walkBlock ns r >>= walkBlock ms := by
  induction ns generalizing r with
  | nil => rfl
  | cons n ns ih =>
      rw [List.cons_append, walkBlock_cons, walkBlock_cons, bind_assoc]
      exact bind_congr fun r => ih r

lemma walkBlock_append_of_ok {ns ms : List Node} {r r' : Resolution}
    (h : walkBlock ns r = .ok r') : walkBlock (ns ++ ms) r = walkBlock ms r' := by
  rw [walkBlock_append, h]
  rfl

lemma walkBlock_append_of_error {ns ms : List Node} {r : Resolution} {d : Diagnostic}
    (h : walkBlock ns r = .error d) : walkBlock (ns ++ ms) r = .error d := by
  rw [walkBlock_append, h]
  rfl

lemma walkBlock_singleton (n : Node) (r : Resolution) : walkBlock [n] r = n.walk r := by
  rw [walkBlock_cons]
  cases n.walk r <;> rfl

/-- A chain comes to the first alternative whose condition holds. -/
lemma walk_ofList (arms : List (Condition × List Node)) (last : Arms) (r : Resolution) :
    (Arms.ofList arms last).walk r =
      match arms.find? fun arm => arm.1.holds r.macros with
      | some (_, body) => walkBlock body r
      | none => last.walk r := by
  induction arms with
  | nil => rfl
  | cons arm arms ih =>
      obtain ⟨condition, body⟩ := arm
      have hcons : Arms.ofList ((condition, body) :: arms) last =
          .arm condition body (.ofList arms last) := rfl
      rw [hcons, Arms.walk, ih, List.find?_cons]
      cases condition.holds r.macros <;> rfl

lemma walk_ofList_of_find?_eq_some {arms : List (Condition × List Node)} {last : Arms}
    {r : Resolution} {arm : Condition × List Node}
    (h : (arms.find? fun arm => arm.1.holds r.macros) = some arm) :
    (Arms.ofList arms last).walk r = walkBlock arm.2 r := by
  rw [walk_ofList, h]

lemma walk_ofList_of_find?_eq_none {arms : List (Condition × List Node)} {last : Arms}
    {r : Resolution} (h : (arms.find? fun arm => arm.1.holds r.macros) = none) :
    (Arms.ofList arms last).walk r = last.walk r := by
  rw [walk_ofList, h]

lemma walk_arm_of_holds {c : Condition} {r : Resolution} (h : c.holds r.macros = true)
    (body : List Node) (rest : Arms) : (Arms.arm c body rest).walk r = walkBlock body r := by
  rw [Arms.walk, if_pos h]

lemma walk_arm_of_not_holds {c : Condition} {r : Resolution} (h : ¬c.holds r.macros = true)
    (body : List Node) (rest : Arms) : (Arms.arm c body rest).walk r = rest.walk r := by
  rw [Arms.walk, if_neg h]

lemma walk_arm_of_defined {name : String} {r : Resolution} (h : r.macros.isDefined name = true)
    (body : List Node) (rest : Arms) :
    (Arms.arm (.defined name) body rest).walk r = walkBlock body r := by
  rw [Arms.walk, Condition.holds, if_pos h]

lemma walk_arm_of_undefined {name : String} {r : Resolution} (h : r.macros.isDefined name = false)
    (body : List Node) (rest : Arms) :
    (Arms.arm (.defined name) body rest).walk r = rest.walk r := by
  rw [Arms.walk, Condition.holds, if_neg (Bool.eq_false_iff.1 h)]

lemma value?_resolution_define (r : Resolution) (name other : String) (value : Value) :
    (r.define name value).macros.value? other =
      if other = name then some (value.eval r.macros) else r.macros.value? other :=
  MacroTable.value?_define _ _ _ _

/-- A macro that a block defines first and does not touch again has that value in the end. -/
lemma value?_of_walkBlock_define {name : String} {value : Value} {ns : List Node}
    {r r' : Resolution} (h : walkBlock (.define name value :: ns) r = .ok r')
    (hname : name ∉ blockDefinitions ns) :
    r'.macros.value? name = some (value.eval r.macros) := by
  have hrest : walkBlock ns (r.define name value) = .ok r' := by rwa [walkBlock_cons] at h
  rw [(keeps_of_walkBlock ns hrest).value?_eq name hname, value?_resolution_define, if_pos rfl]

lemma blockDefinitions_append (ns ms : List Node) :
    blockDefinitions (ns ++ ms) = blockDefinitions ns ++ blockDefinitions ms := by
  induction ns with
  | nil => rfl
  | cons n ns ih =>
      rw [List.cons_append, blockDefinitions, blockDefinitions, ih, List.append_assoc]

/-- A macro that a block defines once, as a number, has that number in the end. -/
lemma value?_of_walkBlock_define_once {name : String} {value : Value} {ns : List Node}
    {r r' : Resolution} (h : walkBlock ns r = .ok r') (hmem : .define name value ∈ ns)
    (honce : (blockDefinitions ns).count name = 1) (hvalue : value.strings = []) :
    r'.macros.value? name = some (value.eval .empty) := by
  obtain ⟨front, back, rfl⟩ := List.append_of_mem hmem
  obtain ⟨r₁, -, hback⟩ := bind_eq_ok_iff.1 ((walkBlock_append _ _ _).symm.trans h)
  have hname : name ∉ blockDefinitions back := by
    have hcount : (blockDefinitions (front ++ .define name value :: back)).count name =
        (blockDefinitions front).count name + ((blockDefinitions back).count name + 1) := by
      rw [blockDefinitions_append, List.count_append, blockDefinitions, Node.definitions,
        List.singleton_append, List.count_cons_self]
    rw [← List.count_eq_zero]
    omega
  rw [value?_of_walkBlock_define hback hname]
  exact congrArg some (Value.eval_congr value (by simp [hvalue]))

end MathHeader.Preprocessor
