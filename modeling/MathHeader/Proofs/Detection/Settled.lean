import MathHeader.Detection.Target
import MathHeader.Proofs.Preprocessor.Walk

/-!
# What the detection block settles

A compiler predefines some macros, and nothing is assumed about them: there may be names that no
compiler uses, several definitions of one name, and even definitions of the names of the block.
`resolve_block` says for every such list what the block comes to.  It stops at an error in exactly
three cases, and otherwise the platform, the architecture and the byte order are settled by what is
predefined (`Settles`).

The block is walked part by part.  A part finds the predefined macros as they were, since the block
defines no macro that compilers report with (`Intact`), and it finds what the parts before it have
defined.
-/

namespace MathHeader.Detection

open Preprocessor

variable {P : List (String × Int64)} {r r' : Resolution}

/-! ## The outcome -/

/-- The macros by which compilers report an architecture. -/
def Arch.macros : Arch → List String
  | x86_64 => ["__x86_64__", "_M_X64", "__amd64__", "_M_AMD64"]
  | x86 => ["__i386__", "_M_IX86"]
  | aarch64 => ["__aarch64__", "_M_ARM64"]
  | arm => ["__arm__", "_M_ARM"]

/-- Whether a macro is predefined. -/
def Predefined (P : List (String × Int64)) (name : String) : Prop :=
  name ∈ P.map (·.1)

/-- The value of a macro among the predefined ones, of which the latest counts; it is zero if there
is none. -/
def predefinedValue (P : List (String × Int64)) (name : String) : Int64 :=
  (P.reverse.lookup name).getD 0

/-- Whether an architecture is reported. -/
def Reports (P : List (String × Int64)) (a : Arch) : Prop :=
  ∃ name ∈ a.macros, Predefined P name

instance (name : String) : Decidable (Predefined P name) :=
  inferInstanceAs (Decidable (name ∈ P.map (·.1)))

instance (a : Arch) : Decidable (Reports P a) :=
  inferInstanceAs (Decidable (∃ name ∈ a.macros, Predefined P name))

/-- No supported platform is reported. -/
def NoPlatform (P : List (String × Int64)) : Prop :=
  ¬Predefined P "__linux__" ∧ ¬Predefined P "_WIN32"

/-- No supported architecture is reported. -/
def NoArchitecture (P : List (String × Int64)) : Prop :=
  ∀ a, ¬Reports P a

/-- On Linux a byte order is reported that is none of the two. -/
def NoByteOrder (P : List (String × Int64)) : Prop :=
  (Predefined P "__linux__" ∧ Predefined P "__BYTE_ORDER__") ∧
    predefinedValue P "__BYTE_ORDER__" ≠ predefinedValue P "__ORDER_BIG_ENDIAN__" ∧
    predefinedValue P "__BYTE_ORDER__" ≠ predefinedValue P "__ORDER_LITTLE_ENDIAN__"

/-- **What is settled.**  The macros of the header have the values that the predefined macros call
for. -/
structure Settles (P : List (String × Int64)) (r : Resolution) : Prop where
  platform : r.macros.value? "RM_PLATFORM" = some (if Predefined P "__linux__" then 1 else 2)
  arch : r.macros.value? "RM_ARCH" =
    some (if Reports P .x86_64 ∨ Reports P .x86 then 1 else 2)
  archBits : r.macros.value? "RM_ARCH_BITS" =
    some (if Reports P .x86_64 then 64 else if Reports P .x86 then 32
      else if Reports P .aarch64 then 64 else 32)
  byteOrder : r.macros.value? "RM_BYTE_ORDER" = some
    (if Predefined P "__linux__" ∧ Predefined P "__BYTE_ORDER__" then
      if predefinedValue P "__BYTE_ORDER__" = predefinedValue P "__ORDER_BIG_ENDIAN__" then 4321
      else 1234
    else if Reports P .x86_64 ∨ Reports P .x86 then 1234
    else if Predefined P "__BIG_ENDIAN" ∨ Predefined P "__ARM_BIG_ENDIAN" then 4321
    else 1234)

/-! ## Predefined macros during the walk -/

/-- **Predefined macros are intact.**  Those that the block does not define have their values. -/
def Intact (P : List (String × Int64)) (r : Resolution) : Prop :=
  ∀ name, name ∉ blockDefinitions block → r.macros.value? name = P.reverse.lookup name

lemma Intact.start (P : List (String × Int64)) : Intact P ⟨.ofList P, []⟩ :=
  fun name _ => MacroTable.value?_ofList P name

/-- A part of the block leaves the predefined macros intact. -/
lemma Intact.walk {ns : List Node} (h : Intact P r) (hwalk : walkBlock ns r = .ok r')
    (hns : ∀ name ∈ blockDefinitions ns, name ∈ blockDefinitions block) : Intact P r' := by
  intro name hname
  rw [(keeps_of_walkBlock ns hwalk).value?_eq name fun hmem => hname (hns name hmem)]
  exact h name hname

lemma Intact.isDefined_iff (h : Intact P r) {name : String}
    (hname : name ∉ blockDefinitions block) :
    r.macros.isDefined name = true ↔ Predefined P name := by
  rw [MacroTable.isDefined, h name hname, ← MacroTable.value?_ofList]
  exact MacroTable.isDefined_ofList_iff

lemma Intact.valueOrZero_eq (h : Intact P r) {name : String}
    (hname : name ∉ blockDefinitions block) :
    r.macros.valueOrZero name = predefinedValue P name := by
  rw [MacroTable.valueOrZero, h name hname]
  rfl

lemma Arch.macros_notMem (a : Arch) : ∀ name ∈ a.macros, name ∉ blockDefinitions block := by
  cases a <;> decide

lemma Intact.holds_anyDefined_iff (h : Intact P r) {names : List String}
    (hnames : ∀ name ∈ names, name ∉ blockDefinitions block) :
    (Condition.anyDefined names).holds r.macros = true ↔ ∃ name ∈ names, Predefined P name := by
  rw [holds_anyDefined, List.any_eq_true]
  exact exists_congr fun name => and_congr_right fun hmem => h.isDefined_iff (hnames name hmem)

/-! ## The parts of the block -/

/-- A chain after nodes that do not fail. -/
lemma walkBlock_append_chain {ns : List Node} (hns : walkBlock ns r = .ok r') (label : String)
    (arms : Arms) : walkBlock (ns ++ [.chain label arms]) r = arms.walk r' := by
  rw [walkBlock_append_of_ok hns, walkBlock_singleton, Node.walk]

lemma walk_platformBlock (h : Intact P r) :
    (NoPlatform P ∧ walkBlock platformBlock r = .error ⟨"unsupported platform"⟩) ∨
      (¬NoPlatform P ∧ ∃ r', walkBlock platformBlock r = .ok r' ∧
        r'.macros.value? platform = some (if Predefined P "__linux__" then 1 else 2) ∧
        r'.macros.value? platformLinux = some 1) := by
  let numbers : List Node := [.define platformLinux (.hex 1), .define platformWindows (.hex 2)]
  obtain ⟨r₁, hnumbers⟩ : ∃ r₁, walkBlock numbers r = .ok r₁ := ⟨_, rfl⟩
  have h₁ : Intact P r₁ := h.walk hnumbers (by decide)
  have hlinux : r₁.macros.value? platformLinux = some 1 :=
    value?_of_walkBlock_define hnumbers (by decide)
  have hwindows : r₁.macros.value? platformWindows = some 2 := by
    cases hnumbers
    rfl
  have hasksLinux : (Condition.defined "__linux__").holds r₁.macros = true ↔ _ :=
    h₁.isDefined_iff (by decide)
  have hasksWindows : (Condition.defined "_WIN32").holds r₁.macros = true ↔ _ :=
    h₁.isDefined_iff (by decide)
  have hblock : walkBlock platformBlock r = _ := walkBlock_append_chain hnumbers _ _
  by_cases hisLinux : Predefined P "__linux__"
  · rw [if_pos hisLinux]
    refine .inr ⟨fun hno => hno.1 hisLinux, _,
      hblock.trans (walk_arm_of_holds (hasksLinux.2 hisLinux) _ _), ?_, ?_⟩
    · rw [value?_resolution_define, if_pos rfl, Value.eval, MacroTable.valueOrZero, hlinux]
      rfl
    · rw [value?_resolution_define, if_neg (by decide), hlinux]
  replace hblock := hblock.trans (walk_arm_of_not_holds (mt hasksLinux.1 hisLinux) _ _)
  rw [if_neg hisLinux]
  by_cases hisWindows : Predefined P "_WIN32"
  · obtain ⟨r₂, hbody⟩ := exists_walkBlock_eq_ok (.define platform (.named platformWindows) ::
      windowsDefaults.map fun name => .default name .flag) rfl r₁
    refine .inr ⟨fun hno => hno.2 hisWindows, r₂,
      (hblock.trans (walk_arm_of_holds (hasksWindows.2 hisWindows) _ _)).trans hbody, ?_, ?_⟩
    · rw [value?_of_walkBlock_define hbody (by decide), Value.eval, MacroTable.valueOrZero,
        hwindows]
      rfl
    · rw [(keeps_of_walkBlock _ hbody).value?_eq platformLinux (by decide), hlinux]
  · exact .inl ⟨⟨hisLinux, hisWindows⟩,
      hblock.trans (walk_arm_of_not_holds (mt hasksWindows.1 hisWindows) _ _)⟩

def Arch.definitions : Arch → List Node
  | x86_64 => x86Definitions 64
  | x86 => x86Definitions 32
  | aarch64 => armDefinitions (.union [.named archAArch64, .named archAArch32]) 64
  | arm => armDefinitions (.named archAArch32) 32

/-- The architecture of a compiler, which is the first one that it reports. -/
def reportedArch? (P : List (String × Int64)) : Option Arch :=
  Arch.all.find? fun a => Reports P a

lemma reportedArch?_eq_none_iff : reportedArch? P = none ↔ NoArchitecture P := by
  rw [reportedArch?, List.find?_eq_none, NoArchitecture]
  simp only [decide_eq_true_eq]
  exact ⟨fun h a => h a (by cases a <;> decide), fun h a _ => h a⟩

/-- The family and the width of the reported architecture, read off what is predefined. -/
lemma isX86_and_bits_of_reportedArch? {a : Arch} (h : reportedArch? P = some a) :
    (a.isX86 = true ↔ Reports P .x86_64 ∨ Reports P .x86) ∧
      a.bits = if Reports P .x86_64 then 64 else if Reports P .x86 then 32
        else if Reports P .aarch64 then 64 else 32 := by
  rw [reportedArch?, Arch.all] at h
  by_cases hx86_64 : Reports P .x86_64
  · rw [List.find?_cons_of_pos (by simpa using hx86_64)] at h
    cases h
    simp [hx86_64, Arch.isX86, Arch.bits]
  rw [List.find?_cons_of_neg (by simpa using hx86_64)] at h
  by_cases hx86 : Reports P .x86
  · rw [List.find?_cons_of_pos (by simpa using hx86)] at h
    cases h
    simp [hx86_64, hx86, Arch.isX86, Arch.bits]
  rw [List.find?_cons_of_neg (by simpa using hx86)] at h
  by_cases haarch64 : Reports P .aarch64
  · rw [List.find?_cons_of_pos (by simpa using haarch64)] at h
    cases h
    simp [hx86_64, hx86, haarch64, Arch.isX86, Arch.bits]
  · rw [List.find?_cons_of_neg (by simpa using haarch64)] at h
    cases List.mem_singleton.1 (List.mem_of_find?_eq_some h)
    simp [hx86_64, hx86, haarch64, Arch.isX86, Arch.bits]

/-- The alternatives of the chain for architectures. -/
def archArms : List (Condition × List Node) :=
  Arch.all.map fun a => (.anyDefined a.macros, a.definitions)

lemma Intact.find?_archArms (h : Intact P r) :
    archArms.find? (fun arm => arm.1.holds r.macros) =
      (reportedArch? P).map fun a => (.anyDefined a.macros, a.definitions) := by
  rw [archArms, List.find?_map, reportedArch?]
  congr 2
  funext a
  rw [Bool.eq_iff_iff, Function.comp_apply, decide_eq_true_eq]
  exact h.holds_anyDefined_iff a.macros_notMem

lemma exists_walk_definitions (a : Arch) (hx86 : r.macros.value? "RM_ARCH_X86" = some 1)
    (harm : r.macros.value? "RM_ARCH_ARM" = some 2) :
    ∃ r', walkBlock a.definitions r = .ok r' ∧
      r'.macros.value? arch = some (if a.isX86 then 1 else 2) ∧
      r'.macros.value? archBits = some a.bits ∧
      r'.macros.value? archX86 = some 1 ∧ r'.macros.value? archArm = some 2 := by
  cases a <;>
    refine ⟨_, rfl, ?_⟩ <;>
    simp [value?_resolution_define, Value.eval, MacroTable.valueOrZero, hx86, harm, arch, archX86,
      archArm, archBits, archArmIsa, Arch.isX86, Arch.bits]

lemma walk_architectureBlock (h : Intact P r) :
    (reportedArch? P = none ∧
        walkBlock architectureBlock r = .error ⟨"unsupported architecture"⟩) ∨
      ∃ a r', reportedArch? P = some a ∧ walkBlock architectureBlock r = .ok r' ∧
        r'.macros.value? arch = some (if a.isX86 then 1 else 2) ∧
        r'.macros.value? archBits = some a.bits ∧
        r'.macros.value? archX86 = some 1 ∧ r'.macros.value? archArm = some 2 := by
  let numbers : List Node :=
    [ .define archX86 (.hex 1), .define archArm (.hex 2),
      .comment "32-bit and 64-bit arm, RM_ARCH_ARM_ISA holds the supported sets",
      .define archAArch32 (.bit 0), .define archAArch64 (.bit 1) ]
  obtain ⟨r₁, hnumbers⟩ : ∃ r₁, walkBlock numbers r = .ok r₁ := ⟨_, rfl⟩
  have hx86 : r₁.macros.value? archX86 = some 1 := value?_of_walkBlock_define hnumbers (by decide)
  have harm : r₁.macros.value? archArm = some 2 := by
    cases hnumbers
    rfl
  have hblock : walkBlock architectureBlock r = (Arms.ofList archArms _).walk r₁ :=
    walkBlock_append_chain hnumbers _ _
  have hfind := (h.walk hnumbers (by decide)).find?_archArms
  cases ha : reportedArch? P with
  | none =>
      rw [ha] at hfind
      exact .inl ⟨rfl, hblock.trans (walk_ofList_of_find?_eq_none hfind)⟩
  | some a =>
      rw [ha] at hfind
      replace hblock := hblock.trans (walk_ofList_of_find?_eq_some hfind)
      obtain ⟨r', hdefinitions, hvalues⟩ := exists_walk_definitions a hx86 harm
      exact .inr ⟨a, r', rfl, hblock.trans hdefinitions, hvalues⟩

/-- The numbers of the byte orders are defined. -/
def OrdersDefined (r : Resolution) : Prop :=
  ∀ o : ByteOrder, r.macros.value? o.macroName = some o.value

lemma exists_walk_settleByteOrder (h : OrdersDefined r) (o : ByteOrder) :
    ∃ r', walkBlock [settleByteOrder o] r = .ok r' ∧
      r'.macros.value? ByteOrder.settled = some o.value := by
  refine ⟨_, rfl, ?_⟩
  rw [value?_resolution_define, if_pos rfl, Value.eval, MacroTable.valueOrZero, h o]
  rfl

lemma Intact.holds_macrosEqual_iff (h : Intact P r) {left right : String}
    (hleft : left ∉ blockDefinitions block) (hright : right ∉ blockDefinitions block) :
    (Condition.macrosEqual left right).holds r.macros = true ↔
      predefinedValue P left = predefinedValue P right := by
  rw [Condition.macrosEqual, Condition.holds, Operand.eval, Operand.eval, beq_iff_eq,
    h.valueOrZero_eq hleft, h.valueOrZero_eq hright]

lemma holds_macrosEqual_iff {left right : String} {v w : Int64}
    (hleft : r.macros.value? left = some v) (hright : r.macros.value? right = some w) :
    (Condition.macrosEqual left right).holds r.macros = true ↔ v = w := by
  rw [Condition.macrosEqual, Condition.holds, Operand.eval, Operand.eval, beq_iff_eq,
    MacroTable.valueOrZero, MacroTable.valueOrZero, hleft, hright]
  rfl

/-- The byte order that is reported on Linux. -/
lemma walk_reportedByteOrder (h : Intact P r) (horders : OrdersDefined r) :
    (predefinedValue P "__BYTE_ORDER__" ≠ predefinedValue P "__ORDER_BIG_ENDIAN__" ∧
        predefinedValue P "__BYTE_ORDER__" ≠ predefinedValue P "__ORDER_LITTLE_ENDIAN__" ∧
        walkBlock [reportedByteOrder] r = .error ⟨"unsupported byte order"⟩) ∨
      (¬(predefinedValue P "__BYTE_ORDER__" ≠ predefinedValue P "__ORDER_BIG_ENDIAN__" ∧
          predefinedValue P "__BYTE_ORDER__" ≠ predefinedValue P "__ORDER_LITTLE_ENDIAN__") ∧
        ∃ r', walkBlock [reportedByteOrder] r = .ok r' ∧
          r'.macros.value? ByteOrder.settled =
            some (if predefinedValue P "__BYTE_ORDER__" = predefinedValue P "__ORDER_BIG_ENDIAN__"
              then 4321 else 1234)) := by
  have hasksBig :
      (Condition.macrosEqual "__BYTE_ORDER__" "__ORDER_BIG_ENDIAN__").holds r.macros = true ↔ _ :=
    h.holds_macrosEqual_iff (by decide) (by decide)
  have hasksLittle :
      (Condition.macrosEqual "__BYTE_ORDER__" "__ORDER_LITTLE_ENDIAN__").holds r.macros = true ↔
        _ :=
    h.holds_macrosEqual_iff (by decide) (by decide)
  have hnode : walkBlock [reportedByteOrder] r = _ := walkBlock_singleton _ _
  by_cases hbig : predefinedValue P "__BYTE_ORDER__" = predefinedValue P "__ORDER_BIG_ENDIAN__"
  · obtain ⟨r', hbody, hvalue⟩ := exists_walk_settleByteOrder horders .big
    rw [if_pos hbig]
    exact .inr ⟨fun hne => hne.1 hbig, r',
      (hnode.trans (walk_arm_of_holds (hasksBig.2 hbig) _ _)).trans hbody, hvalue⟩
  replace hnode := hnode.trans (walk_arm_of_not_holds (mt hasksBig.1 hbig) _ _)
  by_cases hlittle :
      predefinedValue P "__BYTE_ORDER__" = predefinedValue P "__ORDER_LITTLE_ENDIAN__"
  · obtain ⟨r', hbody, hvalue⟩ := exists_walk_settleByteOrder horders .little
    rw [if_neg hbig]
    exact .inr ⟨fun hne => hne.2 hlittle, r',
      (hnode.trans (walk_arm_of_holds (hasksLittle.2 hlittle) _ _)).trans hbody, hvalue⟩
  · exact .inl ⟨hbig, hlittle,
      hnode.trans (walk_arm_of_not_holds (mt hasksLittle.1 hlittle) _ _)⟩

lemma exists_walk_armByteOrder (h : Intact P r) (horders : OrdersDefined r) :
    ∃ r', walkBlock
        [.comment "arm is bi-endian, the compiler reports big-endian targets", armByteOrder] r =
          .ok r' ∧
      r'.macros.value? ByteOrder.settled =
        some (if Predefined P "__BIG_ENDIAN" ∨ Predefined P "__ARM_BIG_ENDIAN" then 4321
          else 1234) := by
  have hasks :
      (Condition.anyDefined ["__BIG_ENDIAN", "__ARM_BIG_ENDIAN"]).holds r.macros = true ↔ _ :=
    h.holds_anyDefined_iff (by decide)
  rw [List.exists_mem_cons_iff, List.exists_mem_cons_iff] at hasks
  simp only [List.not_mem_nil, false_and, exists_const, or_false] at hasks
  have hnodes : walkBlock
      [.comment "arm is bi-endian, the compiler reports big-endian targets", armByteOrder] r = _ :=
    walkBlock_singleton _ _
  by_cases hbig : Predefined P "__BIG_ENDIAN" ∨ Predefined P "__ARM_BIG_ENDIAN"
  · obtain ⟨r', hbody, hvalue⟩ := exists_walk_settleByteOrder horders .big
    rw [if_pos hbig]
    exact ⟨r', (hnodes.trans (walk_arm_of_holds (hasks.2 hbig) _ _)).trans hbody, hvalue⟩
  · obtain ⟨r', hbody, hvalue⟩ := exists_walk_settleByteOrder horders .little
    rw [if_neg hbig]
    exact ⟨r', (hnodes.trans (walk_arm_of_not_holds (mt hasks.1 hbig) _ _)).trans hbody, hvalue⟩

lemma walk_byteOrderBlock {a : Arch} (h : Intact P r)
    (hplatform : r.macros.value? platform = some (if Predefined P "__linux__" then 1 else 2))
    (hlinux : r.macros.value? platformLinux = some 1)
    (harch : r.macros.value? arch = some (if a.isX86 then 1 else 2))
    (hx86 : r.macros.value? archX86 = some 1) (harm : r.macros.value? archArm = some 2) :
    (NoByteOrder P ∧ walkBlock byteOrderBlock r = .error ⟨"unsupported byte order"⟩) ∨
      (¬NoByteOrder P ∧ ∃ r', walkBlock byteOrderBlock r = .ok r' ∧
        r'.macros.value? ByteOrder.settled = some
          (if Predefined P "__linux__" ∧ Predefined P "__BYTE_ORDER__" then
            if predefinedValue P "__BYTE_ORDER__" = predefinedValue P "__ORDER_BIG_ENDIAN__"
            then 4321 else 1234
          else if a.isX86 then 1234
          else if Predefined P "__BIG_ENDIAN" ∨ Predefined P "__ARM_BIG_ENDIAN" then 4321
          else 1234)) := by
  -- The numbers of the two orders are defined first, which changes nothing that is asked about.
  let numbers : List Node :=
    [ .define ByteOrder.big.macroName (.int ByteOrder.big.value),
      .define ByteOrder.little.macroName (.int ByteOrder.little.value) ]
  obtain ⟨r₁, hnumbers⟩ : ∃ r₁, walkBlock numbers r = .ok r₁ := ⟨_, rfl⟩
  have h₁ : Intact P r₁ := h.walk hnumbers (by decide)
  have horders : OrdersDefined r₁ := by
    intro o
    cases hnumbers
    cases o <;> rfl
  have hkeeps := (keeps_of_walkBlock numbers hnumbers).value?_eq
  have hasksReport : (Condition.all
      [.macrosEqual platform platformLinux, .defined "__BYTE_ORDER__"]).holds r₁.macros = true ↔
        Predefined P "__linux__" ∧ Predefined P "__BYTE_ORDER__" := by
    have hasksLinux := holds_macrosEqual_iff ((hkeeps platform (by decide)).trans hplatform)
      ((hkeeps platformLinux (by decide)).trans hlinux)
    rw [Condition.holds, Condition.allHold, Condition.allHold, Condition.allHold, Bool.and_true,
      Bool.and_eq_true, hasksLinux, Condition.holds, h₁.isDefined_iff (by decide)]
    simp
  have hasksX86 := holds_macrosEqual_iff ((hkeeps arch (by decide)).trans harch)
    ((hkeeps archX86 (by decide)).trans hx86)
  have hasksArm := holds_macrosEqual_iff ((hkeeps arch (by decide)).trans harch)
    ((hkeeps archArm (by decide)).trans harm)
  have hblock : walkBlock byteOrderBlock r = _ := walkBlock_append_chain hnumbers _ _
  by_cases hreport : Predefined P "__linux__" ∧ Predefined P "__BYTE_ORDER__"
  · replace hblock := hblock.trans (walk_arm_of_holds (hasksReport.2 hreport) _ _)
    rw [if_pos hreport]
    rcases walk_reportedByteOrder h₁ horders with
      ⟨hbig, hlittle, hbody⟩ | ⟨hknown, r', hbody, hvalue⟩
    · exact .inl ⟨⟨hreport, hbig, hlittle⟩, hblock.trans hbody⟩
    · exact .inr ⟨fun hno => hknown hno.2, r', hblock.trans hbody, hvalue⟩
  replace hblock := hblock.trans (walk_arm_of_not_holds (mt hasksReport.1 hreport) _ _)
  rw [if_neg hreport]
  refine .inr ⟨fun hno => hreport hno.1, ?_⟩
  by_cases hfamily : a.isX86 = true
  · rw [if_pos hfamily] at hasksX86 ⊢
    obtain ⟨r', hbody, hvalue⟩ := exists_walk_settleByteOrder horders .little
    exact ⟨r', (hblock.trans (walk_arm_of_holds (hasksX86.2 rfl) _ _)).trans hbody, hvalue⟩
  · rw [if_neg hfamily] at hasksX86 hasksArm ⊢
    replace hblock := hblock.trans (walk_arm_of_not_holds (mt hasksX86.1 (by decide)) _ _)
    obtain ⟨r', hbody, hvalue⟩ := exists_walk_armByteOrder h₁ horders
    exact ⟨r', (hblock.trans (walk_arm_of_holds (hasksArm.2 rfl) _ _)).trans hbody, hvalue⟩

/-! ## The whole -/

/-- The part of the block that settles the target. -/
def targetBlock : List Node :=
  platformBlock ++ .blank :: architectureBlock ++ .blank :: byteOrderBlock

/-- **A settled target.**  The macros after that part, those included that the block compares
with. -/
structure TargetSettled (P : List (String × Int64)) (a : Arch) (r : Resolution) : Prop where
  intact : Intact P r
  reportedArch : reportedArch? P = some a
  platform : r.macros.value? platform = some (if Predefined P "__linux__" then 1 else 2)
  arch : r.macros.value? arch = some (if a.isX86 then 1 else 2)
  archBits : r.macros.value? archBits = some a.bits
  archX86 : r.macros.value? archX86 = some 1
  archArm : r.macros.value? archArm = some 2
  byteOrder : r.macros.value? ByteOrder.settled = some
    (if Predefined P "__linux__" ∧ Predefined P "__BYTE_ORDER__" then
      if predefinedValue P "__BYTE_ORDER__" = predefinedValue P "__ORDER_BIG_ENDIAN__"
      then 4321 else 1234
    else if a.isX86 then 1234
    else if Predefined P "__BIG_ENDIAN" ∨ Predefined P "__ARM_BIG_ENDIAN" then 4321
    else 1234)

/-- **Settling the target.**  One of three errors, or a settled target. -/
lemma walk_targetBlock (P : List (String × Int64)) :
    (NoPlatform P ∧
        walkBlock targetBlock ⟨.ofList P, []⟩ = .error ⟨"unsupported platform"⟩) ∨
      (¬NoPlatform P ∧ NoArchitecture P ∧
        walkBlock targetBlock ⟨.ofList P, []⟩ = .error ⟨"unsupported architecture"⟩) ∨
      (¬NoPlatform P ∧ ¬NoArchitecture P ∧ NoByteOrder P ∧
        walkBlock targetBlock ⟨.ofList P, []⟩ = .error ⟨"unsupported byte order"⟩) ∨
      (¬NoPlatform P ∧ ¬NoArchitecture P ∧ ¬NoByteOrder P ∧
        ∃ a r, walkBlock targetBlock ⟨.ofList P, []⟩ = .ok r ∧ TargetSettled P a r) := by
  have hstart := Intact.start P
  rcases walk_platformBlock hstart with ⟨hno, hwalk₁⟩ | ⟨hplatform, r₁, hwalk₁, hvalue, hlinux⟩
  · exact .inl ⟨hno, walkBlock_append_of_error (walkBlock_append_of_error hwalk₁)⟩
  refine .inr ?_
  have h₁ : Intact P r₁ := hstart.walk hwalk₁ (by decide)
  rcases walk_architectureBlock h₁ with
    ⟨hnone, hwalk₂⟩ | ⟨a, r₂, hreported, hwalk₂, harch, hbits, hx86, harm⟩
  · exact .inl ⟨hplatform, reportedArch?_eq_none_iff.1 hnone,
      walkBlock_append_of_error ((walkBlock_append_of_ok hwalk₁).trans hwalk₂)⟩
  refine .inr ?_
  have hknown : ¬NoArchitecture P := by
    rw [← reportedArch?_eq_none_iff, hreported]
    exact Option.some_ne_none a
  have h₂ : Intact P r₂ := h₁.walk hwalk₂ (by decide)
  have hkeeps₂ := (keeps_of_walkBlock _ hwalk₂).value?_eq
  have hwalk₁₂ :
      walkBlock (platformBlock ++ .blank :: architectureBlock) ⟨.ofList P, []⟩ = .ok r₂ :=
    (walkBlock_append_of_ok hwalk₁).trans hwalk₂
  rw [← hkeeps₂ _ (by decide)] at hvalue hlinux
  rcases walk_byteOrderBlock h₂ hvalue hlinux harch hx86 harm with
    ⟨hno, hwalk₃⟩ | ⟨horder, r₃, hwalk₃, hsettled⟩
  · exact .inl ⟨hplatform, hknown, hno, (walkBlock_append_of_ok hwalk₁₂).trans hwalk₃⟩
  have hkeeps₃ := (keeps_of_walkBlock _ hwalk₃).value?_eq
  rw [← hkeeps₃ _ (by decide)] at hvalue harch hbits hx86 harm
  exact .inr ⟨hplatform, hknown, horder, a, r₃, (walkBlock_append_of_ok hwalk₁₂).trans hwalk₃,
    h₂.walk hwalk₃ (by decide), hreported, hvalue, harch, hbits, hx86, harm, hsettled⟩

/-- The vector extensions are detected without an error, and nothing of the target changes. -/
lemma TargetSettled.exists_walk_simdBlock {a : Arch} (h : TargetSettled P a r) :
    ∃ r', walkBlock simdBlock r = .ok r' ∧ Settles P r' := by
  obtain ⟨r', hwalk⟩ := exists_walkBlock_eq_ok simdBlock rfl r
  have hkeeps := (keeps_of_walkBlock _ hwalk).value?_eq
  obtain ⟨hfamily, hbits⟩ := isX86_and_bits_of_reportedArch? h.reportedArch
  refine ⟨r', hwalk, (hkeeps _ (by decide)).trans h.platform, ?_, ?_, ?_⟩
  · rw [← if_congr hfamily rfl rfl]
    exact (hkeeps _ (by decide)).trans h.arch
  · rw [← hbits]
    exact (hkeeps _ (by decide)).trans h.archBits
  · rw [← if_congr hfamily rfl rfl]
    exact (hkeeps _ (by decide)).trans h.byteOrder

/-- **What the block comes to.**  It stops at an error in three cases, which exclude one another,
and in all other cases it settles the target. -/
theorem resolve_block (P : List (String × Int64)) :
    (resolve block P = .error ⟨"unsupported platform"⟩ ↔ NoPlatform P) ∧
    (resolve block P = .error ⟨"unsupported architecture"⟩ ↔ ¬NoPlatform P ∧ NoArchitecture P) ∧
    (resolve block P = .error ⟨"unsupported byte order"⟩ ↔
      ¬NoPlatform P ∧ ¬NoArchitecture P ∧ NoByteOrder P) ∧
    ((∃ r, resolve block P = .ok r ∧ Settles P r) ↔
      ¬NoPlatform P ∧ ¬NoArchitecture P ∧ ¬NoByteOrder P) := by
  have hblock : resolve block P =
      walkBlock (targetBlock ++ .blank :: simdBlock) ⟨.ofList P, []⟩ := rfl
  rcases walk_targetBlock P with ⟨hplatform, hwalk⟩ | ⟨hplatform, harch, hwalk⟩ |
    ⟨hplatform, harch, horder, hwalk⟩ | ⟨hplatform, harch, horder, a, r, hwalk, hsettled⟩
  · rw [hblock, walkBlock_append_of_error hwalk]
    simp [hplatform]
  · rw [hblock, walkBlock_append_of_error hwalk]
    simp [hplatform, harch]
  · rw [hblock, walkBlock_append_of_error hwalk]
    simp [hplatform, harch, horder]
  · obtain ⟨r', hsimd, hsettles⟩ := hsettled.exists_walk_simdBlock
    have hresolve : resolve block P = .ok r' :=
      hblock.trans ((walkBlock_append_of_ok hwalk).trans hsimd)
    rw [hresolve]
    simp [hplatform, harch, horder, hsettles]

end MathHeader.Detection
