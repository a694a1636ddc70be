import MathHeader.Proofs.Header.Declarations

/-!
# Reading structures

What a structure declares can be read off its text.  A line `struct TAG {` opens it, and each text
in front of a semicolon is a declaration of a type and its declarators, whether it stands on a line
of its own or inside of an alias group.  `readRecords` gives the structures of a text in order, each
with its declarations, and `readTypedefs` gives the tags that a text names as types.

An alias group declares neighbouring members of one type together, so reading it gives its runs
(`readLine_groupText`).  No member is lost by that, and none gets another type
(`exists_mem_groupDeclarations_of_mem`).
-/

namespace MathHeader.Storage

open Text (OneLine)

/-! ## Declarations -/

/-- A declaration: its type and the declarators that follow it. -/
abbrev MemberDeclaration := String × List String

/-- The declaration in a text in front of a semicolon, if it starts with a word. -/
def readDeclaration (cs : List Char) : Option MemberDeclaration := do
  let cs := cs.dropWhile (· == ' ')
  let type := cs.takeWhile isWordChar
  let name ← word? type
  pure (name, (Text.pieces ',' (cs.drop type.length)).map fun declarator =>
    String.ofList (declarator.dropWhile (· == ' ')))

/-- The declarations in a text, each of which ends in a semicolon. -/
def readDeclarations (cs : List Char) : List MemberDeclaration :=
  (Text.pieces ';' cs).dropLast.filterMap readDeclaration

/-- The declarations in a line, which may be the members of a structure without a tag. -/
def readLine (line : List Char) : List MemberDeclaration :=
  let line := line.dropWhile (· == ' ')
  readDeclarations ((after? "struct \x7b".toList line).getD line)

/-- A text that can be a declarator: it has no separator in it and does not start with a blank. -/
structure IsDeclarator (s : String) : Prop where
  comma : ',' ∉ s.toList
  semicolon : ';' ∉ s.toList
  head : s.toList.head? ≠ some ' '

instance (s : String) : Decidable (IsDeclarator s) :=
  decidable_of_iff (',' ∉ s.toList ∧ ';' ∉ s.toList ∧ s.toList.head? ≠ some ' ')
    ⟨fun ⟨hcomma, hsemicolon, hhead⟩ => ⟨hcomma, hsemicolon, hhead⟩,
      fun h => ⟨h.comma, h.semicolon, h.head⟩⟩

lemma isDeclarator_of_isWord {s : String} (h : isWord s.toList = true) : IsDeclarator s := by
  refine ⟨notMem_of_isWord h (by decide), notMem_of_isWord h (by decide), fun hblank => ?_⟩
  exact notMem_of_isWord h (by decide : isWordChar ' ' = false) (List.mem_of_head? hblank)

/-- The text of a declaration, without the semicolon. -/
def declarationText (d : MemberDeclaration) : String :=
  d.1 ++ " " ++ ", ".intercalate d.2

/-- A declaration that can be read. -/
structure IsReadable (d : MemberDeclaration) : Prop where
  type : isWord d.1.toList = true
  ne_nil : d.2 ≠ []
  declarators : ∀ s ∈ d.2, IsDeclarator s

lemma dropWhile_blank {cs : List Char} (h : cs.head? ≠ some ' ') :
    cs.dropWhile (· == ' ') = cs := by
  cases cs with
  | nil => rfl
  | cons c cs =>
      refine List.dropWhile_cons_of_neg ?_
      simpa using h

/-- A blank in front of texts that are joined by a comma and a blank is one in front of each. -/
lemma blank_intercalate {texts : List String} (hne : texts ≠ []) :
    ' ' :: (", ".intercalate texts).toList =
      [','].intercalate (texts.map fun s => ' ' :: s.toList) := by
  induction texts with
  | nil => exact absurd rfl hne
  | cons s texts ih =>
      cases texts with
      | nil => rw [String.intercalate_singleton, List.map_singleton, List.intercalate_singleton]
      | cons s' texts =>
          have hrest := ih (List.cons_ne_nil s' texts)
          rw [List.map_cons] at hrest
          rw [List.map_cons, List.map_cons, List.intercalate_cons_cons, ← hrest]
          simp [String.intercalate_cons_cons]

lemma pieces_declarators {names : List String} (hne : names ≠ [])
    (h : ∀ s ∈ names, IsDeclarator s) :
    (Text.pieces ',' (' ' :: (", ".intercalate names).toList)).map
      (fun declarator => String.ofList (declarator.dropWhile (· == ' '))) = names := by
  have hcomma : ∀ cs ∈ names.map fun s => ' ' :: s.toList, ',' ∉ cs := by
    intro cs hcs
    obtain ⟨s, hs, rfl⟩ := List.mem_map.1 hcs
    simpa using (h s hs).comma
  have hname : ∀ s ∈ names, String.ofList ((' ' :: s.toList).dropWhile (· == ' ')) = s := by
    intro s hs
    rw [List.dropWhile_cons_of_pos (by decide), dropWhile_blank (h s hs).head,
      String.ofList_toList]
  rw [blank_intercalate hne, Text.pieces_intercalate (by simpa using hne) hcomma, List.map_map]
  exact (List.map_congr_left hname).trans (List.map_id names)

section Declaration

variable {d : MemberDeclaration} (hd : IsReadable d)
include hd

/-- A declaration that is written is read again. -/
lemma readDeclaration_declarationText :
    readDeclaration (declarationText d).toList = some d := by
  obtain ⟨type, names⟩ := d
  obtain ⟨htype, hne, hnames⟩ := hd
  have htext : (declarationText (type, names)).toList =
      type.toList ++ ' ' :: (", ".intercalate names).toList := by
    simp [declarationText]
  have hhead : (type.toList ++ ' ' :: (", ".intercalate names).toList).head? ≠ some ' ' := by
    obtain ⟨c, cs, hcs⟩ := List.exists_cons_of_ne_nil (ne_nil_of_isWord htype)
    have hc : c ≠ ' ' := by
      rintro rfl
      exact notMem_of_isWord htype (by decide) (hcs ▸ List.mem_cons_self)
    simpa [hcs] using hc
  have hword : (type.toList ++ ' ' :: (", ".intercalate names).toList).takeWhile isWordChar =
      type.toList :=
    takeWhile_append_cons (List.all_eq_true.1 (all_isWordChar_of_isWord htype)) (by decide) _
  rw [readDeclaration, htext, dropWhile_blank hhead]
  simp only [hword, word?_of_isWord htype, List.drop_left, Option.bind_eq_bind, Option.bind_some,
    pieces_declarators hne hnames]
  rfl

lemma semicolon_notMem_declarationText : ';' ∉ (declarationText d).toList := by
  simp only [declarationText, Text.notMem_append]
  exact ⟨⟨notMem_of_isWord hd.type (by decide), by decide⟩,
    Text.notMem_intercalate (by decide) fun s hs => (hd.declarators s hs).semicolon⟩

lemma readDeclarations_declarationText_append (rest : List Char) :
    readDeclarations ((declarationText d).toList ++ ';' :: rest) = d :: readDeclarations rest := by
  rw [readDeclarations, Text.pieces_append_cons (semicolon_notMem_declarationText hd),
    List.dropLast_cons_of_ne_nil (Text.pieces_ne_nil ';' rest),
    List.filterMap_cons_some (readDeclaration_declarationText hd)]
  rfl

end Declaration

/-- A blank in front of a declaration makes no difference. -/
lemma readDeclarations_blank (cs : List Char) :
    readDeclarations (' ' :: cs) = readDeclarations cs := by
  obtain ⟨p, ps, hpieces⟩ := List.exists_cons_of_ne_nil (Text.pieces_ne_nil ';' cs)
  have hblank : Text.pieces ';' (' ' :: cs) = (' ' :: p) :: ps := by
    rw [Text.pieces_cons, hpieces]
    rfl
  rw [readDeclarations, readDeclarations, hblank, hpieces]
  cases ps with
  | nil => rfl
  | cons q ps => rfl

/-! ## Alias groups -/

/-- The runs of a group: neighbouring members of one type. -/
def runs (element : Scalar) (group : List Member) : List (List Member) :=
  group.splitBy fun a b => a.type element == b.type element

/-- **A run.**  One or several members of one type. -/
structure IsRun (element : Scalar) (run : List Member) : Prop where
  ne_nil : run ≠ []
  type_eq : ∀ m ∈ run, ∀ m' ∈ run, m.type element = m'.type element

/-- Neighbours in a run have one type, so any two members of it do. -/
lemma isRun_of_mem_runs {element : Scalar} {group run : List Member}
    (h : run ∈ runs element group) : IsRun element run := by
  refine ⟨List.ne_nil_of_mem_splitBy h, fun m hm m' hm' => ?_⟩
  have hneighbours := (List.isChain_of_mem_splitBy h).imp fun _ _ h => beq_iff_eq.1 h
  have : Std.Symm fun a b : Member => a.type element = b.type element := ⟨fun _ _ h => h.symm⟩
  have hpairs : run.Pairwise fun a b => a.type element = b.type element := hneighbours.pairwise
  refine hpairs.forall_of_forall (fun _ _ => ?_) hm hm'
  rfl

def runDeclaration (element : Scalar) (run : List Member) : Option MemberDeclaration :=
  run.head?.map fun m => ((m.type element).token, run.map Member.name)

lemma IsRun.runDeclaration_eq {element : Scalar} {run : List Member} (h : IsRun element run)
    {m : Member} (hm : m ∈ run) :
    runDeclaration element run = some ((m.type element).token, run.map Member.name) := by
  obtain ⟨first, rest, rfl⟩ := List.exists_cons_of_ne_nil h.ne_nil
  rw [h.type_eq m hm first List.mem_cons_self]
  rfl

def groupDeclarations (element : Scalar) (group : List Member) : List MemberDeclaration :=
  (runs element group).filterMap (runDeclaration element)

lemma groupText_eq (element : Scalar) (group : List Member) :
    groupText element group =
      "struct \x7b" ++
        " ".intercalate ((groupDeclarations element group).map fun d => declarationText d ++ ";") ++
          "\x7d;" := by
  have hruns : ∀ run ∈ runs element group, ∃ m rest, run = m :: rest := fun run hrun =>
    List.exists_cons_of_ne_nil fun hnil => List.nil_notMem_splitBy _ _ (hnil ▸ hrun)
  have hdeclarations : (runs element group).map (declaration element) =
      (groupDeclarations element group).map fun d => declarationText d ++ ";" := by
    rw [groupDeclarations, List.map_filterMap, ← List.filterMap_eq_map]
    refine List.filterMap_congr fun run hrun => ?_
    obtain ⟨m, rest, rfl⟩ := hruns run hrun
    rfl
  rw [groupText, ← runs, hdeclarations]

lemma exists_member_of_mem_groupDeclarations {element : Scalar} {group : List Member}
    {d : MemberDeclaration} (hd : d ∈ groupDeclarations element group) :
    ∃ m ∈ group, d.1 = (m.type element).token := by
  obtain ⟨run, hrun, hd⟩ := List.mem_filterMap.1 hd
  obtain ⟨m, hm, rfl⟩ := Option.map_eq_some_iff.1 hd
  exact ⟨m, mem_of_mem_splitBy hrun (List.mem_of_head? hm), rfl⟩

/-- Each member of a group is declared, and with its own type. -/
theorem exists_mem_groupDeclarations_of_mem {element : Scalar} {group : List Member} {m : Member}
    (hm : m ∈ group) :
    ∃ d ∈ groupDeclarations element group, d.1 = (m.type element).token ∧ m.name ∈ d.2 := by
  rw [← List.flatten_splitBy (fun a b => a.type element == b.type element) group,
    List.mem_flatten] at hm
  obtain ⟨run, hrun, hm⟩ := hm
  have hdeclaration := (isRun_of_mem_runs hrun).runDeclaration_eq hm
  exact ⟨_, List.mem_filterMap.2 ⟨run, hrun, hdeclaration⟩, rfl, List.mem_map_of_mem hm⟩

lemma isReadable_of_mem_groupDeclarations {element : Scalar} {group : List Member}
    (hnames : ∀ m ∈ group, isWord m.name.toList = true) {d : MemberDeclaration}
    (hd : d ∈ groupDeclarations element group) : IsReadable d := by
  obtain ⟨run, hrun, hd⟩ := List.mem_filterMap.1 hd
  obtain ⟨m, hm, rfl⟩ := Option.map_eq_some_iff.1 hd
  refine ⟨ShapedType.isWord_token _, ?_, ?_⟩
  · exact fun hnil => List.ne_nil_of_mem (List.mem_of_head? hm) (List.map_eq_nil_iff.1 hnil)
  · rw [List.forall_mem_map]
    exact fun m' hm' => isDeclarator_of_isWord (hnames m' (mem_of_mem_splitBy hrun hm'))

/-- Declarations in one line are read one after the other. -/
lemma readDeclarations_intercalate {ds : List MemberDeclaration} (h : ∀ d ∈ ds, IsReadable d) :
    readDeclarations ((" ".intercalate (ds.map fun d => declarationText d ++ ";")).toList ++
      ['\x7d', ';']) = ds := by
  induction ds with
  | nil => rfl
  | cons d ds ih =>
      obtain ⟨hd, hds⟩ := List.forall_mem_cons.1 h
      have hone (rest : List Char) :
          readDeclarations ((declarationText d ++ ";").toList ++ rest) =
            d :: readDeclarations rest := by
        rw [String.toList_append, List.append_assoc]
        exact readDeclarations_declarationText_append hd rest
      cases ds with
      | nil =>
          rw [List.map_singleton, String.intercalate_singleton, hone]
          rfl
      | cons d' ds =>
          -- The blank between two declarations is read as the start of the second.
          rw [List.map_cons, List.map_cons, String.intercalate_cons_cons, String.toList_append,
            String.toList_append, List.append_assoc, List.append_assoc, hone]
          exact congrArg (d :: ·) ((readDeclarations_blank _).trans (ih hds))

lemma readLine_member (text : String) :
    readLine ("        " ++ text).toList = readLine text.toList := by
  have hindentation : "        ".toList.all (· == ' ') = true := rfl
  rw [readLine, readLine, String.toList_append,
    List.dropWhile_append_of_pos (List.all_eq_true.1 hindentation)]

/-- **Reading a group.**  The line of a group whose members are named by words declares the members,
each run of one type together. -/
theorem readLine_groupText (element : Scalar) {group : List Member}
    (hnames : ∀ m ∈ group, isWord m.name.toList = true) :
    readLine (groupText element group).toList = groupDeclarations element group := by
  have htext : (groupText element group).toList = "struct \x7b".toList ++
      ((" ".intercalate ((groupDeclarations element group).map fun d =>
        declarationText d ++ ";")).toList ++ ['\x7d', ';']) := by
    rw [groupText_eq, String.toList_append, String.toList_append, List.append_assoc]
    rfl
  have hhead : (groupText element group).toList.head? ≠ some ' ' := by
    rw [htext]
    exact fun hblank => absurd (Option.some.inj hblank) (by decide)
  rw [readLine, dropWhile_blank hhead, htext, after?_append, Option.getD_some]
  exact readDeclarations_intercalate fun d hd => isReadable_of_mem_groupDeclarations hnames hd

example : readLine "struct \x7bf32x2 xy; f32 _0, _1;\x7d;".toList =
    [("f32x2", ["xy"]), ("f32", ["_0", "_1"])] := by
  decide

/-- The line of a member that has a declaration of its own.  It does not read as a structure
without a tag, since no token starts as the keyword does. -/
lemma readLine_declarator (type : ShapedType) {declarator : String} (h : IsDeclarator declarator) :
    readLine ("        " ++ (type.token ++ " " ++ declarator ++ ";")).toList =
      [(type.token, [declarator])] := by
  have hd : IsReadable (type.token, [declarator]) :=
    ⟨type.isWord_token, List.cons_ne_nil _ _, List.forall_mem_singleton.2 h⟩
  have htokens : ∀ s ∈ Scalar.all, s.token.toList.head? ≠ some ' ' ∧
      s.token.toList.head? ≠ some 's' := by
    decide
  obtain ⟨hblank, hkeyword⟩ := htokens type.element type.element.mem_all
  obtain ⟨c, cs, hchars⟩ := List.exists_cons_of_ne_nil (ne_nil_of_isWord type.element.isWord_token)
  rw [hchars] at hblank hkeyword
  have htext : (type.token ++ " " ++ declarator ++ ";").toList =
      c :: (cs ++ (type.shape.suffix ++ " " ++ declarator ++ ";").toList) := by
    simp [ShapedType.token, hchars]
  have hhead : (type.token ++ " " ++ declarator ++ ";").toList.head? ≠ some ' ' := by
    rw [htext]
    exact hblank
  have hstruct : after? "struct \x7b".toList (type.token ++ " " ++ declarator ++ ";").toList =
      none := by
    rw [htext]
    exact after?_eq_none_of_head fun heq => hkeyword (congrArg some heq)
  rw [readLine_member, readLine, dropWhile_blank hhead, hstruct, Option.getD_none,
    String.toList_append]
  exact readDeclarations_declarationText_append hd []

/-! ## Structures -/

/-- A structure as it is read: its tag and its declarations. -/
abbrev RecordDeclaration := String × List MemberDeclaration

/-- What is read of a text from its end on: the declarations that no structure has been found for
yet, and the structures. -/
abbrev RecordState := List MemberDeclaration × List RecordDeclaration

/-- A line opens a structure of the declarations behind it, or it has declarations itself. -/
def readRecordLine (line : List Char) (state : RecordState) : RecordState :=
  match structName? line with
  | some tag => ([], (tag, state.1) :: state.2)
  | none => (readLine line ++ state.1, state.2)

/-- The structures of a text. -/
def readRecords (text : String) : List RecordDeclaration :=
  ((Text.pieces '\n' text.toList).foldr readRecordLine ([], [])).2

def recordDeclarations (t : ShapedType) : List MemberDeclaration :=
  match t.shape with
  | .scalar => []
  | .vector w =>
    (members w).flatMap (groupDeclarations t.element) ++
      [(t.element.token, ["raw[" ++ w.digits ++ "]"])]
  | .matrix rows cols =>
    [((ShapedType.ofWidth t.element rows).token, ["cols[" ++ cols.digits ++ "]"]),
     (t.element.token, ["raw[" ++ cols.digits ++ "][" ++ rows.digits ++ "]"])]

/-- Inert lines open no structures. -/
lemma foldr_readRecordLine {ls : List String} (h : ∀ l ∈ ls, isInert l.toList = true)
    (state : RecordState) :
    (ls.map String.toList).foldr readRecordLine state =
      (ls.flatMap (fun l => readLine l.toList) ++ state.1, state.2) := by
  induction ls with
  | nil => rfl
  | cons l ls ih =>
      obtain ⟨hl, hls⟩ := List.forall_mem_cons.1 h
      rw [List.map_cons, List.foldr_cons, ih hls, readRecordLine, structName?_of_isInert hl]
      exact congrArg (·, state.2) (List.append_assoc _ _ _).symm

lemma foldr_unionRecord {tag : String} (htag : isWord tag.toList = true) {memberLines : List String}
    (h : ∀ l ∈ memberLines, isInert l.toList = true) (records : List RecordDeclaration) :
    ((unionRecord tag memberLines).map String.toList).foldr readRecordLine ([], records) =
      ([], (tag, memberLines.flatMap fun l => readLine l.toList) :: records) := by
  have hopen : structName? ("struct " ++ tag ++ " \x7b").toList = some tag := by
    rw [String.toList_append, String.toList_append, List.append_assoc]
    exact structName?_of_isWord htag
  have hinert : ∀ l ∈ ["    union \x7b"] ++ memberLines ++ ["    \x7d;", "\x7d;"],
      isInert l.toList = true :=
    List.forall_mem_append.2 ⟨List.forall_mem_append.2 ⟨by decide, h⟩, by decide⟩
  have hopening : readLine "    union \x7b".toList = [] := by decide
  have hclosing : ["    \x7d;", "\x7d;"].flatMap (fun l => readLine l.toList) = [] := by decide
  have hlines : (["    union \x7b"] ++ memberLines ++ ["    \x7d;", "\x7d;"]).flatMap
      (fun l => readLine l.toList) = memberLines.flatMap fun l => readLine l.toList := by
    rw [List.flatMap_append, List.flatMap_append, List.flatMap_singleton, hopening, hclosing,
      List.nil_append, List.append_nil]
  have hrecord : unionRecord tag memberLines = ("struct " ++ tag ++ " \x7b") ::
      (["    union \x7b"] ++ memberLines ++ ["    \x7d;", "\x7d;"]) := rfl
  rw [hrecord, List.map_cons, List.foldr_cons, foldr_readRecordLine hinert, hlines, readRecordLine,
    hopen, List.append_nil]

lemma readLine_vectorMembers (element : Scalar) (w : Width) :
    (vectorMembers element w).flatMap (fun l => readLine l.toList) =
      recordDeclarations (.ofWidth element w) := by
  have hwords : ∀ w ∈ Width.all, ∀ group ∈ members w, ∀ m ∈ group,
      isWord m.name.toList = true := by
    decide
  have hgroups : ((members w).map fun group => "        " ++ groupText element group).flatMap
      (fun l => readLine l.toList) = (members w).flatMap (groupDeclarations element) := by
    rw [List.flatMap_map]
    refine List.flatMap_congr fun group hgroup => ?_
    rw [readLine_member, readLine_groupText element (hwords w w.mem_all group hgroup)]
  have hdeclarator : ∀ w ∈ Width.all, IsDeclarator ("raw[" ++ w.digits ++ "]") := by decide
  have hraw : readLine ("        " ++ element.token ++ " raw[" ++ w.digits ++ "];").toList =
      [(element.token, ["raw[" ++ w.digits ++ "]"])] := by
    simpa using
      readLine_declarator ⟨element, .scalar⟩ (hdeclarator w w.mem_all)
  have hblank : readLine "".toList = [] := rfl
  rw [vectorMembers, List.flatMap_append, hgroups, List.flatMap_cons, List.flatMap_singleton,
    hblank, hraw]
  rfl

lemma readLine_matrixMembers (element : Scalar) (rows cols : Width) :
    (matrixMembers element rows cols).flatMap (fun l => readLine l.toList) =
      recordDeclarations ⟨element, .matrix rows cols⟩ := by
  have hdeclarators : ∀ cols ∈ Width.all, IsDeclarator ("cols[" ++ cols.digits ++ "]") ∧
      ∀ rows ∈ Width.all, IsDeclarator ("raw[" ++ cols.digits ++ "][" ++ rows.digits ++ "]") := by
    decide
  obtain ⟨hcolumns, helements⟩ := hdeclarators cols cols.mem_all
  have hcols : readLine ("        " ++ (ShapedType.ofWidth element rows).token ++ " cols[" ++
      cols.digits ++ "];").toList =
      [((ShapedType.ofWidth element rows).token, ["cols[" ++ cols.digits ++ "]"])] := by
    simpa using readLine_declarator (.ofWidth element rows) hcolumns
  have hraw : readLine ("        " ++ element.token ++ " raw[" ++ cols.digits ++ "][" ++
      rows.digits ++ "];").toList =
      [(element.token, ["raw[" ++ cols.digits ++ "][" ++ rows.digits ++ "]"])] := by
    simpa using
      readLine_declarator ⟨element, .scalar⟩ (helements rows rows.mem_all)
  rw [matrixMembers, List.flatMap_cons, List.flatMap_singleton, hcols, hraw]
  rfl

lemma foldr_recordLines {ty : ShapedType} (h : ty.shape ≠ .scalar)
    (records : List RecordDeclaration) :
    ((recordLines ty).map String.toList).foldr readRecordLine ([], records) =
      ([], (recordTag ty, recordDeclarations ty) :: records) := by
  obtain ⟨element, shape⟩ := ty
  cases shape with
  | scalar => exact absurd rfl h
  | vector w =>
      rw [← readLine_vectorMembers]
      exact foldr_unionRecord (isWord_recordTag _)
        (fun l hl => (vectorMembers_spec element w l hl).2) records
  | matrix rows cols =>
      rw [← readLine_matrixMembers]
      exact foldr_unionRecord (isWord_recordTag _)
        (fun l hl => (matrixMembers_spec element rows cols l hl).2) records

/-- The structures of several types are read one after the other. -/
lemma foldr_flatMap_recordLines {tys : List ShapedType} (h : ∀ ty ∈ tys, ty.shape ≠ .scalar) :
    ((tys.flatMap recordLines).map String.toList).foldr readRecordLine ([], []) =
      ([], tys.map fun ty => (recordTag ty, recordDeclarations ty)) := by
  induction tys with
  | nil => rfl
  | cons ty tys ih =>
      obtain ⟨hty, htys⟩ := List.forall_mem_cons.1 h
      rw [List.flatMap_cons, List.map_append, List.foldr_append, ih htys, foldr_recordLines hty]
      rfl

/-- No line of the types and structures has a newline in it. -/
lemma oneLine_of_mem_shapes (t : Taxonomy) : ∀ l ∈ (Section.shapes t).lines, OneLine l :=
  (shows_shapes (by decide : isIdentifier "f" = true) t).oneLine

/-- **Reading the structures of a taxonomy.**  The text has a structure for each declared type, in
order, with the tag of the type and what its structure declares. -/
theorem readRecords_structLines (t : Taxonomy) :
    readRecords (Text.unlines (structLines t)) =
      t.declared.map fun ty => (recordTag ty, recordDeclarations ty) := by
  have hshapes : ∀ ty ∈ t.declared, ty.shape ≠ .scalar := fun ty hty =>
    shape_ne_scalar_of_mem_declared hty
  have hlines : ∀ l ∈ structLines t, OneLine l := fun l hl =>
    oneLine_of_mem_shapes t l (List.mem_append_right _ (List.mem_cons_of_mem _ hl))
  rw [readRecords, Text.pieces_unlines hlines, List.foldr_append, structLines]
  exact congrArg Prod.snd (foldr_flatMap_recordLines hshapes)

/-! ## Types -/

/-- The tag and the name in a line `typedef struct TAG NAME;`. -/
def readTypedef (line : List Char) : Option (String × String) := do
  let rest ← after? "typedef struct ".toList line
  let tag := rest.takeWhile isWordChar
  let rest ← after? [' '] (rest.drop tag.length)
  let name := rest.takeWhile isWordChar
  let _ ← after? [';'] (rest.drop name.length)
  pure (← word? tag, ← word? name)

/-- The tags that a text names as types, with the names. -/
def readTypedefs (text : String) : List (String × String) :=
  (Text.pieces '\n' text.toList).filterMap readTypedef

lemma readTypedef_typedefLine {tag name : String} (htag : isWord tag.toList = true)
    (hname : isWord name.toList = true) :
    readTypedef (typedefLine tag name).toList = some (tag, name) := by
  have htext (front : String) : (front ++ tag ++ " " ++ name ++ ";").toList =
      front.toList ++ (tag.toList ++ ' ' :: (name.toList ++ [';'])) := by
    simp
  have hword {s : String} (hs : isWord s.toList = true) {c : Char} (hc : isWordChar c = false)
      (rest : List Char) : (s.toList ++ c :: rest).takeWhile isWordChar = s.toList :=
    takeWhile_append_cons (List.all_eq_true.1 (all_isWordChar_of_isWord hs)) hc rest
  have hblank : after? [' '] (' ' :: (name.toList ++ [';'])) = some (name.toList ++ [';']) :=
    after?_append [' '] _
  have hend : after? [';'] [';'] = some [] := after?_append [';'] []
  unfold typedefLine readTypedef
  rw [htext, after?_append]
  simp only [Option.bind_eq_bind, Option.bind_some, hword htag (by decide : isWordChar ' ' = false),
    List.drop_left, hblank, hword hname (by decide : isWordChar ';' = false), hend,
    word?_of_isWord htag, word?_of_isWord hname]
  rfl

/-- **Reading the types of a taxonomy.**  The text names the structure of each declared type as that
type, in order. -/
theorem readTypedefs_typedefLines (t : Taxonomy) :
    readTypedefs (Text.unlines (typedefLines t)) =
      t.declared.map fun ty => (recordTag ty, ty.token) := by
  have hlines : ∀ l ∈ typedefLines t, OneLine l := fun l hl =>
    oneLine_of_mem_shapes t l (List.mem_append_left _ hl)
  have hread (ty : ShapedType) :
      readTypedef (typedefLine (recordTag ty) ty.token).toList = some (recordTag ty, ty.token) :=
    readTypedef_typedefLine (isWord_recordTag ty) ty.isWord_token
  have hrest : readTypedef [] = none := rfl
  rw [readTypedefs, Text.pieces_unlines hlines, List.filterMap_append,
    List.filterMap_cons_none hrest, List.filterMap_nil, List.append_nil, typedefLines,
    List.map_map, List.filterMap_map, ← List.filterMap_eq_map]
  exact List.filterMap_congr fun ty _ => hread ty

end MathHeader.Storage
