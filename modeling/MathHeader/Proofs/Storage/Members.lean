import MathHeader.Proofs.Storage.Reading
import MathHeader.Proofs.Text.Numeral

/-!
# Members that are read from an alias group

The declaration of an alias group says neither where a member starts nor how many components it
covers.  Both can be recovered: the count is that of the type, and since the members lie side by
side, each starts where the ones before it end.  `readMembers` reads a group in this way, and what
it reads are the members that the group was written from, in their order: `readMembers_groupText`.

Members of one type are declared together, but only if they are neighbours, and a run goes on as
long as the type does.  So the declarations taken together name the members in their order, no two
neighbours among them have one type, and a run has no member whose count differs from that of its
type.
-/

namespace MathHeader.Storage

/-! ## Reading members -/

/-- The count of components that a suffix of the type of the elements stands for: one if there is
none, and the number behind the `x` of a vector. -/
def suffixCount? : List Char → Option Nat
  | [] => some 1
  | c :: digits => if c = 'x' then Text.numeral? 10 digits else none

/-- The count of components of a type. -/
def componentCount? (element : Scalar) (type : String) : Option Nat :=
  (after? element.token.toList type.toList).bind suffixCount?

/-- The names in a declaration, each with the count of components of the type. -/
def countNames (element : Scalar) (d : MemberDeclaration) : Option (List (String × Nat)) := do
  let count ← componentCount? element d.1
  pure (d.2.map (·, count))

/-- The members with given names and counts, one behind the other from the component `offset`
on. -/
def placeMembers (offset : Nat) : List (String × Nat) → List Member
  | [] => []
  | (name, count) :: rest => ⟨name, offset, count⟩ :: placeMembers (offset + count) rest

/-- The members that the line of an alias group declares. -/
def readMembers (element : Scalar) (line : String) : Option (List Member) := do
  let counted ← (readLine line.toList).mapM (countNames element)
  pure (placeMembers 0 counted.flatten)

/-! ## Members side by side -/

/-- **Members side by side.**  The first one starts at the component `offset`, and each further one
where the one before it ends. -/
def SideBySide (offset : Nat) : List Member → Prop
  | [] => True
  | m :: ms => m.offset = offset ∧ SideBySide (offset + m.components) ms

instance decidableSideBySide (offset : Nat) (ms : List Member) :
    Decidable (SideBySide offset ms) :=
  match ms with
  | [] => .isTrue trivial
  | m :: ms =>
    have := decidableSideBySide (offset + m.components) ms
    inferInstanceAs (Decidable (m.offset = offset ∧ SideBySide (offset + m.components) ms))

/-- Members that are laid out lie side by side. -/
theorem sideBySide_layOut (pads offset : Nat) (slots : List Slot) :
    SideBySide offset (layOut pads offset slots) := by
  induction slots generalizing pads offset with
  | nil => exact trivial
  | cons slot slots ih =>
      cases slot with
      | named name => exact ⟨rfl, ih pads (offset + name.length)⟩
      | pad => exact ⟨rfl, ih (pads + 1) (offset + 1)⟩

lemma placeMembers_of_sideBySide {offset : Nat} {ms : List Member} (h : SideBySide offset ms) :
    placeMembers offset (ms.map fun m => (m.name, m.components)) = ms := by
  induction ms generalizing offset with
  | nil => rfl
  | cons m ms ih =>
      obtain ⟨rfl, hms⟩ := h
      rw [List.map_cons, placeMembers, ih hms]

/-! ## Counts -/

/-- A member that covers as many components as an element or a vector has. -/
def Member.IsSized (m : Member) : Prop :=
  1 ≤ m.components ∧ m.components ≤ 4

instance (m : Member) : Decidable m.IsSized :=
  inferInstanceAs (Decidable (_ ∧ _))

lemma componentCount?_token (element : Scalar) (shape : Shape) :
    componentCount? element (ShapedType.token ⟨element, shape⟩) =
      suffixCount? shape.suffix.toList := by
  rw [componentCount?, ShapedType.toList_token, after?_append]
  rfl

/-- The count of components of a member can be read off its type. -/
lemma componentCount?_type (element : Scalar) {m : Member} (h : m.IsSized) :
    componentCount? element (m.type element).token = some m.components := by
  obtain ⟨name, offset, components⟩ := m
  obtain ⟨hlow, hhigh⟩ := h
  dsimp only at hlow hhigh
  have hcounts : components = 1 ∨ components = 2 ∨ components = 3 ∨ components = 4 := by omega
  rcases hcounts with rfl | rfl | rfl | rfl
  · exact componentCount?_token element .scalar
  · exact componentCount?_token element (.vector .two)
  · exact componentCount?_token element (.vector .three)
  · exact componentCount?_token element (.vector .four)

/-- In a run of sized members each name has the count of its member. -/
lemma IsRun.countNames_eq {element : Scalar} {run : List Member} (h : IsRun element run)
    (hsized : ∀ m ∈ run, m.IsSized) :
    (runDeclaration element run).map (countNames element) =
      some (some (run.map fun m => (m.name, m.components))) := by
  obtain ⟨first, rest, hrun⟩ := List.exists_cons_of_ne_nil h.ne_nil
  have hfirst : first ∈ run := hrun ▸ List.mem_cons_self
  have hcounts : ∀ m ∈ run, first.components = m.components := by
    intro m hm
    have hcount := componentCount?_type element (hsized m hm)
    rw [← h.type_eq first hfirst m hm, componentCount?_type element (hsized first hfirst)] at hcount
    exact Option.some_inj.1 hcount
  rw [h.runDeclaration_eq hfirst, Option.map_some, countNames,
    componentCount?_type element (hsized first hfirst)]
  simp only [Option.bind_eq_bind, Option.bind_some, List.map_map, Option.pure_def]
  rw [Option.some_inj, Option.some_inj]
  exact List.map_congr_left fun m hm => congrArg (m.name, ·) (hcounts m hm)

/-- The declarations of several runs name all members in their order, with their counts. -/
lemma mapM_countNames {element : Scalar} {rs : List (List Member)}
    (hruns : ∀ run ∈ rs, IsRun element run) (hsized : ∀ run ∈ rs, ∀ m ∈ run, m.IsSized) :
    (rs.filterMap (runDeclaration element)).mapM (countNames element) =
      some (rs.map fun run => run.map fun m => (m.name, m.components)) := by
  induction rs with
  | nil => rfl
  | cons run rs ih =>
      obtain ⟨hrun, hruns⟩ := List.forall_mem_cons.1 hruns
      obtain ⟨hsizedRun, hsized⟩ := List.forall_mem_cons.1 hsized
      obtain ⟨d, hd, hcount⟩ := Option.map_eq_some_iff.1 (hrun.countNames_eq hsizedRun)
      rw [List.filterMap_cons_some hd, List.mapM_cons, hcount, ih hruns hsized]
      rfl

/-! ## Neighbours -/

/-- Where the type changes from each run to the next one, it does so between their declarations. -/
lemma isChain_runDeclarations {element : Scalar} {rs : List (List Member)}
    (hruns : ∀ run ∈ rs, IsRun element run)
    (h : rs.IsChain fun a b => ∃ ha hb,
      ((a.getLast ha).type element == (b.head hb).type element) = false) :
    (rs.filterMap (runDeclaration element)).IsChain fun d d' => d.1 ≠ d'.1 := by
  induction rs with
  | nil => exact .nil
  | cons run rs ih =>
      obtain ⟨hrun, hruns⟩ := List.forall_mem_cons.1 hruns
      obtain ⟨hnext, h⟩ := List.isChain_cons.1 h
      obtain ⟨m, hm⟩ := List.exists_mem_of_ne_nil run hrun.ne_nil
      rw [List.filterMap_cons_some (hrun.runDeclaration_eq hm)]
      refine List.isChain_cons.2 ⟨fun d' hd' => ?_, ih hruns h⟩
      cases rs with
      | nil => cases hd'
      | cons next rs =>
          obtain ⟨hlast, hhead, hne⟩ := hnext next rfl
          have hnextRun := hruns next List.mem_cons_self
          rw [List.filterMap_cons_some (hnextRun.runDeclaration_eq (List.head_mem hhead))] at hd'
          cases hd'
          refine fun heq => beq_eq_false_iff_ne.1 hne ?_
          rw [← hrun.type_eq m hm _ (List.getLast_mem hlast)]
          exact ShapedType.token_inj heq

/-- Neighbouring declarations have different types. -/
lemma isChain_groupDeclarations (element : Scalar) (group : List Member) :
    (groupDeclarations element group).IsChain fun d d' => d.1 ≠ d'.1 :=
  isChain_runDeclarations (fun _ hrun => isRun_of_mem_runs hrun)
    (List.isChain_getLast_head_splitBy (fun a b => a.type element == b.type element) group)

/-! ## Groups that are read -/

/-- **Reading an alias group.**  Let the members of a group lie side by side, each with one to four
components, and let their names be shaped like identifiers.  Then exactly these members are read
from its line, in their order, and no two neighbouring declarations in it have one type. -/
theorem readMembers_groupText (element : Scalar) {group : List Member}
    (hnames : ∀ m ∈ group, isWord m.name.toList = true) (hsized : ∀ m ∈ group, m.IsSized)
    (hplaced : SideBySide 0 group) :
    readMembers element (groupText element group) = some group ∧
      (readLine (groupText element group).toList).IsChain fun d d' => d.1 ≠ d'.1 := by
  rw [readMembers, readLine_groupText element hnames]
  refine ⟨?_, isChain_groupDeclarations element group⟩
  have hruns : ∀ run ∈ runs element group, IsRun element run := fun run => isRun_of_mem_runs
  have hsizedRuns : ∀ run ∈ runs element group, ∀ m ∈ run, m.IsSized := fun run hrun m hm =>
    hsized m (mem_of_mem_splitBy hrun hm)
  have hflatten : (runs element group).flatten = group := List.flatten_splitBy _ group
  rw [groupDeclarations, mapM_countNames hruns hsizedRuns, Option.bind_eq_bind, Option.bind_some,
    ← List.map_flatten, hflatten, placeMembers_of_sideBySide hplaced]
  rfl

/-- The members of a group with padding at both ends, of two types. -/
def paddedGroup : List Member :=
  layOut 4 0 [.pad, .named "r", .named "yz", .pad]

/-- Only the members on one side of a vector are declared together. -/
theorem readMembers_paddedGroup :
    ((∀ m ∈ paddedGroup, isWord m.name.toList = true) ∧ (∀ m ∈ paddedGroup, m.IsSized) ∧
      SideBySide 0 paddedGroup) ∧
    groupText .f32 paddedGroup = "struct \x7bf32 _4, r; f32x2 yz; f32 _5;\x7d;" ∧
    readMembers .f32 (groupText .f32 paddedGroup) =
      some [⟨"_4", 0, 1⟩, ⟨"r", 1, 1⟩, ⟨"yz", 2, 2⟩, ⟨"_5", 4, 1⟩] :=
  have hnames : ∀ m ∈ paddedGroup, isWord m.name.toList = true := by decide
  have hsized : ∀ m ∈ paddedGroup, m.IsSized := by decide
  have hplaced : SideBySide 0 paddedGroup := sideBySide_layOut 4 0 _
  ⟨⟨hnames, hsized, hplaced⟩, by decide, (readMembers_groupText .f32 hnames hsized hplaced).1⟩

end MathHeader.Storage
