import MathHeader.Proofs.Preprocessor.Walk

/-!
# What a block leaves to its user

A user predefines macros and expects to find them again.  A walk follows one path through a block,
and of the nodes on it a `define` is the only one that can change a macro that is defined: a
`default` keeps it, and nothing makes it undefined.  Which path is taken is hard to say in general,
so the promise is about all paths: a predefined macro keeps its value if there is no `define` of it
among the nodes of the block, at whatever depth.

`blockNodes` lists these nodes, in the order of their lines.  The headers that a walk includes are
found among them in the same order.  `frame_of_resolve` is the promise for a whole block.
-/

namespace MathHeader.Preprocessor

/-! ## The nodes of a block at every depth -/

mutual

/-- A node and the nodes in its arms, in the order of its lines. -/
def Node.nodes : Node → List Node
  | .chain label arms => .chain label arms :: arms.nodes
  | n => [n]

/-- The nodes in the bodies of alternatives, those for when no condition holds included. -/
def Arms.nodes : Arms → List Node
  | .arm _ body rest => blockNodes body ++ rest.nodes
  | .otherwise body => blockNodes body
  | _ => []

/-- The nodes of a block, at every depth. -/
def blockNodes : List Node → List Node
  | [] => []
  | n :: ns => n.nodes ++ blockNodes ns

end

/-! ## Headers among the nodes -/

def Node.header? : Node → Option String
  | .include header => some header
  | _ => none

mutual

lemma Node.headers_eq : (n : Node) → n.headers = n.nodes.filterMap Node.header?
  | .chain label arms => by
      rw [Node.headers, Node.nodes, List.filterMap_cons_none rfl, Arms.headers_eq arms]
  | .include header => rfl
  | .define name value | .default name value => rfl
  | .error message | .comment text | .blank => rfl

lemma Arms.headers_eq : (arms : Arms) → arms.headers = arms.nodes.filterMap Node.header?
  | .arm condition body rest => by
      rw [Arms.headers, Arms.nodes, List.filterMap_append, blockHeaders_eq body,
        Arms.headers_eq rest]
  | .otherwise body => by rw [Arms.headers, Arms.nodes, blockHeaders_eq body]
  | .done | .fail message => rfl

lemma blockHeaders_eq : (ns : List Node) →
    blockHeaders ns = (blockNodes ns).filterMap Node.header?
  | [] => rfl
  | n :: ns => by
      rw [blockHeaders, blockNodes, List.filterMap_append, Node.headers_eq n, blockHeaders_eq ns]

end

/-! ## Macros that no node overrides -/

section Value

variable {name : String} {v : Int64}

mutual

lemma Node.value?_of_walk : (n : Node) → (∀ value, .define name value ∉ n.nodes) →
    {r r' : Resolution} → n.walk r = .ok r' → r.macros.value? name = some v →
      r'.macros.value? name = some v
  | .chain label arms, hn, _, _, h, hv => by
      rw [Node.walk] at h
      exact Arms.value?_of_walk arms (fun value hmem => hn value (List.mem_cons_of_mem _ hmem)) h hv
  | .define other value, hn, r, _, h, hv => by
      have hother : name ≠ other := fun heq => hn value (heq ▸ List.mem_singleton_self _)
      cases h
      rw [value?_resolution_define, if_neg hother, hv]
  | .default other value, _, r, _, h, hv => by
      cases h
      split
      · exact hv
      next hundefined =>
        -- The macro is defined, so it is not the one that gets its default value.
        have hother : name ≠ other := by
          rintro rfl
          exact hundefined (by rw [MacroTable.isDefined, hv]; rfl)
        rw [value?_resolution_define, if_neg hother, hv]
  | .include header, _, _, _, h, hv => by
      cases h
      exact hv
  | .error message, _, _, _, h, _ => by cases h
  | .comment text, _, _, _, h, hv => by
      cases h
      exact hv
  | .blank, _, _, _, h, hv => by
      cases h
      exact hv

lemma Arms.value?_of_walk : (arms : Arms) → (∀ value, .define name value ∉ arms.nodes) →
    {r r' : Resolution} → arms.walk r = .ok r' → r.macros.value? name = some v →
      r'.macros.value? name = some v
  | .arm condition body rest, harms, _, _, h, hv => by
      rw [Arms.walk] at h
      split at h
      · exact value?_of_walkBlock body
          (fun value hmem => harms value (List.mem_append_left _ hmem)) h hv
      · exact Arms.value?_of_walk rest
          (fun value hmem => harms value (List.mem_append_right _ hmem)) h hv
  | .done, _, _, _, h, hv => by
      cases h
      exact hv
  | .otherwise body, harms, _, _, h, hv => by
      rw [Arms.walk] at h
      exact value?_of_walkBlock body harms h hv
  | .fail message, _, _, _, h, _ => by cases h

/-- **Macros that no node overrides.**  A macro that is defined keeps its value in a block without a
`define` of it. -/
theorem value?_of_walkBlock : (ns : List Node) → (∀ value, .define name value ∉ blockNodes ns) →
    {r r' : Resolution} → walkBlock ns r = .ok r' → r.macros.value? name = some v →
      r'.macros.value? name = some v
  | [], _, _, _, h, hv => by
      cases h
      exact hv
  | n :: ns, hns, _, _, h, hv => by
      rw [walkBlock_cons] at h
      obtain ⟨r₁, hn, hrest⟩ := bind_eq_ok_iff.1 h
      have hv₁ := Node.value?_of_walk n
        (fun value hmem => hns value (List.mem_append_left _ hmem)) hn hv
      exact value?_of_walkBlock ns
        (fun value hmem => hns value (List.mem_append_right _ hmem)) hrest hv₁

end

end Value

/-! ## The whole -/

/-- **What a block leaves to its user.**  Predefined macros stay defined, and no others become
defined but those that the block defines somewhere.  A predefined macro keeps its value, the latest
one that it was given, unless there is a `define` of it; a `default` does not count.  What is
included are headers of the block, in the order of its lines. -/
theorem frame_of_resolve {nodes : List Node} {P : List (String × Int64)} {r : Resolution}
    (h : resolve nodes P = .ok r) :
    (∀ name ∈ P.map (·.1), r.macros.isDefined name = true) ∧
    (∀ name, r.macros.isDefined name = true →
      name ∈ P.map (·.1) ∨ name ∈ definedNames nodes) ∧
    (∀ name ∈ P.map (·.1), (∀ value, .define name value ∉ blockNodes nodes) →
      r.macros.value? name = P.reverse.lookup name) ∧
    r.includes.Sublist ((blockNodes nodes).filterMap Node.header?) := by
  have hkeeps := keeps_of_walkBlock nodes h
  refine ⟨fun name hname => ?_, fun name hdefined => ?_, fun name hname hnodes => ?_, ?_⟩
  · exact hkeeps.isDefined name (MacroTable.isDefined_ofList_iff.2 hname)
  · by_cases hname : name ∈ blockDefinitions nodes
    · exact .inr (List.mem_eraseDups.2 hname)
    · rw [MacroTable.isDefined, hkeeps.value?_eq name hname] at hdefined
      exact .inl (MacroTable.isDefined_ofList_iff.1 hdefined)
  · have hdefined := MacroTable.isDefined_ofList_iff.2 hname
    obtain ⟨v, hv⟩ := Option.isSome_iff_exists.1 hdefined
    rw [value?_of_walkBlock nodes hnodes h hv, ← MacroTable.value?_ofList, hv]
  · obtain ⟨taken, htaken, hincludes⟩ := hkeeps.includes
    rw [hincludes, List.nil_append, ← blockHeaders_eq]
    exact htaken

/-- A block that overrides one macro of its user, inside a chain, and keeps another one. -/
def overridingBlock : List Node :=
  [ .default "LEVEL" (.int 1),
    .chain "MODE" (.arm (.defined "MODE")
      [ .define "MODE" (.named "LEVEL"),
        .when "" (.undefined "PLAIN") [.include "inner.h", .default "DEPTH" (.bit 3)] ]
      (.otherwise [.include "other.h"])),
    .include "last.h" ]

/-- Of two values for a macro the later one is kept, and it is what the overridden one gets. -/
theorem frame_of_resolve_overridingBlock :
    ∃ r, resolve overridingBlock [("LEVEL", 5), ("MODE", 1), ("LEVEL", 6)] = .ok r ∧
      (∀ value, .define "LEVEL" value ∉ blockNodes overridingBlock) ∧
      r.macros.value? "LEVEL" = some 6 ∧ r.macros.value? "MODE" = some 6 ∧
      r.macros.value? "DEPTH" = some 8 ∧ r.includes = ["inner.h", "last.h"] ∧
      r.includes.Sublist ["inner.h", "other.h", "last.h"] := by
  have hresolve : resolve overridingBlock [("LEVEL", 5), ("MODE", 1), ("LEVEL", 6)] = .ok _ := rfl
  obtain ⟨-, -, hkept, hincludes⟩ := frame_of_resolve hresolve
  have hnodes : ∀ value, .define "LEVEL" value ∉ blockNodes overridingBlock := by
    intro value
    simp [overridingBlock, blockNodes, Node.nodes, Arms.nodes, Node.when]
  exact ⟨_, hresolve, hnodes, hkept "LEVEL" (by decide) hnodes, by decide, by decide, by decide,
    hincludes⟩

end MathHeader.Preprocessor
