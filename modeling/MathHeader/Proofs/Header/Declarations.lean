import MathHeader.Header.Section
import MathHeader.Proofs.Header.Block
import MathHeader.Proofs.Names.Library
import Mathlib.Data.List.SplitBy

/-!
# Reading the sections of declarations

Each section of declarations lists its names apart from its lines, and the two are written by
different functions.  Here they are compared: the lines of a section show the listed names, though
not always in the listed order or as often.  There is one lemma for each kind of declaration, such
as `shows_typedefLine` and `shows_recordLines`, and one for each section, from `shows_primitives` to
`shows_constants`.
-/

namespace MathHeader

open Preprocessor Storage
open Text (OneLine oneLine_append oneLine_ofList)

/-! ## Macros -/

/-- Whether the parameters and the body of a macro have no newlines. -/
def MacroDefinition.IsOneLine (d : MacroDefinition) : Prop :=
  (∀ p ∈ d.params.getD [], OneLine p) ∧ OneLine d.body

instance (d : MacroDefinition) : Decidable d.IsOneLine :=
  inferInstanceAs (Decidable (_ ∧ _))

/-- A macro whose line can be read: its name is a word, and the rest is on the same line. -/
structure MacroDefinition.Fits (d : MacroDefinition) : Prop where
  name : isWord d.name.toList = true
  isOneLine : d.IsOneLine

lemma MacroDefinition.IsOneLine.parameterText {d : MacroDefinition} (h : d.IsOneLine) :
    OneLine d.parameterText := by
  have hall := h.1
  unfold MacroDefinition.parameterText
  cases hparams : d.params with
  | none => decide
  | some params =>
      rw [hparams, Option.getD_some] at hall
      exact oneLine_append.2 ⟨oneLine_append.2 ⟨by decide,
        OneLine.intercalate (by decide) hall⟩, by decide⟩

/-! ## Texts on one line -/

lemma oneLine_token (ty : ShapedType) : OneLine ty.token :=
  oneLine_of_isWord ty.isWord_token

lemma Scalar.oneLine_token (s : Scalar) : OneLine s.token :=
  oneLine_of_isWord s.isWord_token

lemma Width.oneLine_digits (w : Width) : OneLine w.digits :=
  oneLine_toString_nat w.toNat

lemma oneLine_hexPadded (width n : Nat) : OneLine (Text.hexPadded width n) := by
  rw [Text.hexPadded, oneLine_ofList, List.mem_append, not_or]
  refine ⟨fun h => ?_, newline_notMem_toDigits (by decide) n⟩
  exact absurd (List.eq_of_mem_replicate h) (by decide)

lemma oneLine_compoundLiteral {type : String} (htype : OneLine type)
    {fields : List (String × String)} (h : ∀ f ∈ fields, OneLine f.1 ∧ OneLine f.2) :
    OneLine (compoundLiteral type fields) := by
  have hsettings : ∀ s ∈ fields.map fun f => "." ++ f.1 ++ " = " ++ f.2, OneLine s := by
    rw [List.forall_mem_map]
    intro f hf
    exact oneLine_append.2 ⟨oneLine_append.2 ⟨oneLine_append.2 ⟨by decide, (h f hf).1⟩,
      by decide⟩, (h f hf).2⟩
  exact oneLine_append.2 ⟨oneLine_append.2 ⟨oneLine_append.2 ⟨oneLine_append.2
    ⟨by decide, htype⟩, by decide⟩, OneLine.intercalate (by decide) hsettings⟩, by decide⟩

lemma mem_of_mem_splitBy {α : Type} {r : α → α → Bool} {l run : List α} (h : run ∈ l.splitBy r)
    {a : α} (ha : a ∈ run) : a ∈ l := by
  rw [← List.flatten_splitBy r l]
  exact List.mem_flatten.2 ⟨run, h, ha⟩

lemma oneLine_groupText (element : Scalar) {group : List Member}
    (h : ∀ m ∈ group, OneLine m.name) : OneLine (groupText element group) := by
  have hdeclaration {run : List Member} (hrun : ∀ m ∈ run, OneLine m.name) :
      OneLine (declaration element run) := by
    unfold declaration
    split
    next => decide
    next m rest =>
      refine oneLine_append.2 ⟨oneLine_append.2 ⟨oneLine_append.2 ⟨oneLine_token _, by decide⟩,
        OneLine.intercalate (by decide) ?_⟩, by decide⟩
      rwa [List.forall_mem_map]
  have hruns : ∀ s ∈ (group.splitBy fun a b => a.type element == b.type element).map
      (declaration element), OneLine s := by
    rw [List.forall_mem_map]
    intro run hrun
    exact hdeclaration fun m hm => h m (mem_of_mem_splitBy hrun hm)
  exact oneLine_append.2 ⟨oneLine_append.2
    ⟨by decide, OneLine.intercalate (by decide) hruns⟩, by decide⟩

/-! ## Macros that fit -/

lemma fits_of_mem_fixedNames {d : MacroDefinition} (hname : d.name ∈ fixedNames)
    (h : d.IsOneLine) : d.Fits :=
  ⟨isWord_of_isIdentifier (fixedNames_spec d.name hname).1, h⟩

lemma fits_constant : ∀ d ∈ constants, d.Fits := by
  intro d hd
  have hname : d.name ∈ fixedNames :=
    List.mem_append_left _ (List.mem_append_right _ (List.mem_map_of_mem hd))
  obtain ⟨c, -, hd⟩ := List.mem_flatMap.1 hd
  obtain ⟨⟨float, unsigned⟩, -, rfl⟩ := List.mem_map.1 hd
  refine fits_of_mem_fixedNames hname ⟨fun _ h => absurd h List.not_mem_nil, ?_⟩
  have hcast : OneLine (BitCast.ofBits float unsigned).name :=
    oneLine_append.2 ⟨oneLine_append.2 ⟨unsigned.oneLine_token, by decide⟩, float.oneLine_token⟩
  have hpattern : OneLine (c.pattern float) := by
    cases float <;> exact oneLine_hexPadded _ _
  exact oneLine_append.2 ⟨oneLine_append.2 ⟨oneLine_append.2 ⟨hcast, by decide⟩, hpattern⟩,
    by decide⟩

lemma fits_utility : ∀ d ∈ utilities, d.Fits := by
  intro d hd
  have hname : d.name ∈ fixedNames := List.mem_append_right _ (List.mem_map_of_mem hd)
  have hlines : ∀ d ∈ utilities, d.IsOneLine := by decide
  exact fits_of_mem_fixedNames hname (hlines d hd)

lemma fits_bitCast : ∀ c ∈ BitCast.all, c.definition.Fits := by
  intro c hc
  have hname : c.name ∈ fixedNames := by
    simp only [fixedNames, List.mem_append]
    exact .inl (.inl (.inl (.inr (List.mem_map_of_mem hc))))
  have hlines : ∀ c ∈ BitCast.all, c.definition.IsOneLine := by decide
  exact fits_of_mem_fixedNames hname (hlines c hc)

lemma fits_componentList (w : Width) : (componentList w).Fits := by
  have hname : (componentList w).name ∈ fixedNames := by
    simp only [fixedNames, List.mem_append]
    exact .inl (.inl (.inr (List.mem_map_of_mem w.mem_all)))
  have hlines : ∀ w ∈ Width.all, (componentList w).IsOneLine := by decide
  exact fits_of_mem_fixedNames hname (hlines w w.mem_all)

/-- The arguments of the constructors of a vector. -/
def argumentLists (w : Width) : List (List Argument) :=
  List.replicate w.toNat .component :: (composites w).map (·.2)

/-- What an argument list says does not depend on the elements. -/
lemma oneLine_overArguments : ∀ w ∈ Width.all, ∀ arguments ∈ argumentLists w,
    (∀ p ∈ overArguments Argument.parameter w.components arguments, OneLine p) ∧
      ∀ f ∈ w.components.zip (overArguments Argument.values w.components arguments),
        OneLine f.1 ∧ OneLine f.2 := by
  decide

lemma oneLine_constructorFrom (s : Scalar) (w : Width) (suffix : String)
    {arguments : List Argument} (h : arguments ∈ argumentLists w) :
    (constructorFrom s w suffix arguments).IsOneLine := by
  obtain ⟨hparams, hfields⟩ := oneLine_overArguments w w.mem_all arguments h
  exact ⟨hparams, oneLine_compoundLiteral (oneLine_token _) hfields⟩

lemma oneLine_vectorConstructor {s : Scalar} {w : Width} {d : MacroDefinition}
    (h : d ∈ vectorConstructors s w) : d.IsOneLine := by
  simp only [vectorConstructors, List.mem_cons, List.mem_map] at h
  rcases h with rfl | rfl | ⟨⟨suffix, arguments⟩, hmem, rfl⟩
  · exact oneLine_constructorFrom s w "" List.mem_cons_self
  · have hfields : ∀ w ∈ Width.all, ∀ f ∈ w.components.map fun c => (c, "(_s)"),
        OneLine f.1 ∧ OneLine f.2 := by
      decide
    have hparams : ∀ p ∈ ["_s"], OneLine p := by decide
    exact ⟨hparams, oneLine_compoundLiteral (oneLine_token _) (hfields w w.mem_all)⟩
  · exact oneLine_constructorFrom s w suffix
      (List.mem_cons_of_mem _ (List.mem_map_of_mem hmem))

lemma fits_constructor {t : Taxonomy} : ∀ d ∈ constructors t, d.Fits := by
  intro d hd
  rcases List.mem_append.1 hd with hd | hd
  · obtain ⟨s, hs, hd⟩ := List.mem_flatMap.1 hd
    obtain ⟨w, hw, hd⟩ := List.mem_flatMap.1 hd
    have hname : d.name ∈ constructorNames t :=
      List.mem_flatMap.2 ⟨s, hs, List.mem_flatMap.2 ⟨w, hw, List.mem_map_of_mem hd⟩⟩
    exact ⟨isWord_of_isIdentifier (constructorNames_spec hname).1, oneLine_vectorConstructor hd⟩
  · obtain ⟨w, -, rfl⟩ := List.mem_map.1 hd
    exact fits_componentList w

/-! ## Members of structures -/

lemma isWord_recordTag (ty : ShapedType) : isWord (recordTag ty).toList = true := by
  rw [toList_recordTag]
  exact isWord_append ty.isWord_token (by decide)

lemma memberLine_spec {declared : String} (h : OneLine declared) :
    OneLine ("        " ++ declared) ∧ isInert ("        " ++ declared).toList = true := by
  have hleads : Leads "        " := fun rest => rfl
  exact ⟨oneLine_append.2 ⟨by decide, h⟩, (hleads.append declared).isInert⟩

lemma vectorMembers_spec (s : Scalar) (w : Width) :
    ∀ l ∈ vectorMembers s w, OneLine l ∧ isInert l.toList = true := by
  have hnames : ∀ w ∈ Width.all, ∀ group ∈ members w, ∀ m ∈ group, OneLine m.name := by
    decide
  have hraw : OneLine (s.token ++ (" raw[" ++ (w.digits ++ "];"))) :=
    oneLine_append.2 ⟨s.oneLine_token, oneLine_append.2 ⟨by decide,
      oneLine_append.2 ⟨w.oneLine_digits, by decide⟩⟩⟩
  simp only [vectorMembers, List.forall_mem_append, List.forall_mem_map, List.forall_mem_cons,
    String.append_assoc]
  refine ⟨fun group hgroup => ?_, by decide, memberLine_spec hraw,
    fun _ h => absurd h List.not_mem_nil⟩
  exact memberLine_spec (oneLine_groupText s (hnames w w.mem_all group hgroup))

lemma matrixMembers_spec (s : Scalar) (rows cols : Width) :
    ∀ l ∈ matrixMembers s rows cols, OneLine l ∧ isInert l.toList = true := by
  have hcols : OneLine ((ShapedType.ofWidth s rows).token ++ (" cols[" ++ (cols.digits ++ "];"))) :=
    oneLine_append.2 ⟨oneLine_token _, oneLine_append.2 ⟨by decide,
      oneLine_append.2 ⟨cols.oneLine_digits, by decide⟩⟩⟩
  have hraw : OneLine (s.token ++ (" raw[" ++ (cols.digits ++ ("][" ++ (rows.digits ++ "];"))))) :=
    oneLine_append.2 ⟨s.oneLine_token, oneLine_append.2 ⟨by decide,
      oneLine_append.2 ⟨cols.oneLine_digits, oneLine_append.2 ⟨by decide,
        oneLine_append.2 ⟨rows.oneLine_digits, by decide⟩⟩⟩⟩⟩
  simp only [matrixMembers, List.forall_mem_cons, String.append_assoc]
  exact ⟨memberLine_spec hcols, memberLine_spec hraw, fun _ h => absurd h List.not_mem_nil⟩

section Declarations

variable {specifier : String} (hspecifier : isIdentifier specifier = true)
include hspecifier

/-- The line of a macro shows it; after the name comes a parenthesis or a space. -/
lemma shows_macro {d : MacroDefinition} (h : d.Fits) : Shows specifier [d.line] [d.name] [] := by
  have hrest : ∀ c, (d.parameterText ++ " " ++ d.body).toList.head? = some c →
      isWordChar c = false := by
    intro c hc
    unfold MacroDefinition.parameterText at hc
    split at hc <;> simp only [String.toList_append] at hc <;> cases hc <;> decide
  have hshows := shows_define hspecifier h.name hrest (oneLine_append.2
    ⟨oneLine_append.2 ⟨h.isOneLine.parameterText, by decide⟩, h.isOneLine.2⟩)
  have hline : d.line = "#define " ++ d.name ++ (d.parameterText ++ " " ++ d.body) := by
    simp [MacroDefinition.line, String.append_assoc]
  rwa [hline]

lemma shows_macros {ds : List MacroDefinition} (h : ∀ d ∈ ds, d.Fits) :
    Shows specifier (ds.map MacroDefinition.line) (ds.map (·.name)) [] :=
  Shows.map_introduced fun d hd => shows_macro hspecifier (h d hd)

/-! ## Types and structures -/

lemma shows_typedefLine {tag name : String} (htag : OneLine tag)
    (hname : isWord name.toList = true) : Shows specifier [typedefLine tag name] [name] [] := by
  have hline : typedefLine tag name = "typedef " ++ ("struct " ++ tag) ++ " " ++ name ++ ";" := by
    have hfront : "typedef struct " = "typedef " ++ "struct " := by decide
    unfold typedefLine
    simp only [hfront, String.append_assoc]
  rw [hline]
  exact shows_typedef hspecifier (oneLine_append.2 ⟨by decide, htag⟩) hname

lemma shows_unionRecord {tag : String} (htag : isWord tag.toList = true)
    {memberLines : List String} (h : ∀ l ∈ memberLines, OneLine l ∧ isInert l.toList = true) :
    Shows specifier (unionRecord tag memberLines) [tag] [] := by
  have hclose : Shows specifier ["    \x7d;", "\x7d;"] [] [] := shows_inert hspecifier (by decide)
  have hopen : Shows specifier ["    union \x7b"] [] [] := shows_inert hspecifier (by decide)
  have hmembers := (shows_inert hspecifier h).append hclose
  exact (shows_struct hspecifier htag).append (hopen.append hmembers)

/-! ## Aliases and the specifier -/

lemma shows_primitiveLines : Shows specifier primitiveLines primitiveNames [] := by
  have hheaders : Shows specifier (blockLines (standardHeaders.map .include)) [] [] :=
    shows_inert hspecifier (by decide)
  have haliases : ∀ a ∈ aliases, OneLine a.2 ∧ isWord a.1.toList = true := by decide
  have hnames : Shows specifier (aliases.map fun a => "typedef " ++ a.2 ++ " " ++ a.1 ++ ";")
      primitiveNames [] :=
    Shows.map_introduced fun a ha =>
      shows_typedef hspecifier (haliases a ha).1 (haliases a ha).2
  exact hheaders.append ((shows_emptyLine hspecifier).append hnames)

/-- The specifier is defined on four branches. -/
lemma shows_specifierLines :
    Shows specifier (specifierLines specifier) (List.replicate 4 specifier) [] := by
  have hdefine {replacement : String} (h : OneLine replacement) :
      Shows specifier [(MacroDefinition.object specifier replacement).line] [specifier] [] :=
    shows_macro hspecifier
      ⟨isWord_of_isIdentifier hspecifier, fun _ h => absurd h List.not_mem_nil, h⟩
  have hinert {l : String} (h : OneLine l ∧ isInert l.toList = true) :
      Shows specifier [l] [] [] :=
    shows_inert hspecifier fun l' hl' => List.mem_singleton.1 hl' ▸ h
  exact (hinert (by decide)).cons <| (hinert (by decide)).cons <|
    (hdefine (by decide)).cons <| (hinert (by decide)).cons <|
    (hdefine (by decide)).cons <| (hinert (by decide)).cons <|
    (hdefine (by decide)).cons <| (hinert (by decide)).cons <|
    (hinert (by decide)).cons <| (hdefine (by decide)).cons <|
    hinert (by decide)

/-! ## Overlays and structures -/

lemma shows_overlayLines {float : Scalar} (h : float ∈ overlayTypes) :
    Shows specifier (overlayLines float) [overlayTag float] [] := by
  have htag : ∀ float ∈ overlayTypes, isWord (overlayTag float).toList = true := by decide
  have htail : ∀ float ∈ overlayTypes, ∀ l ∈ (overlayLines float).tail,
      OneLine l ∧ isInert l.toList = true := by
    decide
  have hhead : overlayLines float =
      ("struct " ++ overlayTag float ++ " \x7b") :: (overlayLines float).tail := by
    simp only [overlayTypes, List.mem_cons, List.not_mem_nil, or_false] at h
    rcases h with rfl | rfl <;> rfl
  rw [hhead]
  exact (shows_struct hspecifier (htag float h)).append (shows_inert hspecifier (htail float h))

lemma shows_recordLines {ty : ShapedType} (h : ty.shape ≠ .scalar) :
    Shows specifier (recordLines ty) [recordTag ty] [] := by
  obtain ⟨s, shape⟩ := ty
  cases shape with
  | scalar => exact absurd rfl h
  | vector w => exact shows_unionRecord hspecifier (isWord_recordTag _) (vectorMembers_spec s w)
  | matrix rows cols =>
      exact shows_unionRecord hspecifier (isWord_recordTag _) (matrixMembers_spec s rows cols)

/-! ## The sections -/

lemma shows_overlays :
    Shows specifier Section.overlays.lines
      (overlayTypes.map overlayName ++ overlayTypes.map overlayTag ++
        BitCast.all.map (·.name)) [] := by
  have hwords : ∀ float ∈ overlayTypes,
      OneLine (overlayTag float) ∧ isWord (overlayName float).toList = true := by
    decide
  have htypedefs : Shows specifier overlayTypedefs (overlayTypes.map overlayName) [] :=
    Shows.map_introduced fun float hfloat =>
      shows_typedefLine hspecifier (hwords float hfloat).1 (hwords float hfloat).2
  have hstructs : Shows specifier (overlayTypes.flatMap fun float => overlayLines float ++ [""])
      (overlayTypes.map overlayTag) [] := by
    rw [List.map_eq_flatMap]
    exact Shows.flatMap_introduced fun float hfloat =>
      (shows_overlayLines hspecifier hfloat).append (shows_emptyLine hspecifier)
  have hcasts : Shows specifier (BitCast.all.map fun c => c.definition.line)
      (BitCast.all.map (·.name)) [] :=
    Shows.map_introduced fun c hc => shows_macro hspecifier (fits_bitCast c hc)
  have hall := htypedefs.append ((shows_emptyLine hspecifier).append (hstructs.append hcasts))
  simpa [Section.overlays] using hall

lemma shows_primitives :
    Shows specifier (Section.primitives specifier).lines
      (primitiveNames ++ List.replicate 4 specifier) [] :=
  (shows_primitiveLines hspecifier).append
    ((shows_emptyLine hspecifier).append (shows_specifierLines hspecifier))

lemma shows_shapes (t : Taxonomy) :
    Shows specifier (Section.shapes t).lines
      (t.declared.map ShapedType.token ++ t.declared.map recordTag) [] := by
  have htypedefs : Shows specifier (typedefLines t) (t.declared.map ShapedType.token) [] :=
    Shows.map_introduced fun ty _ =>
      shows_typedefLine hspecifier (oneLine_of_isWord (isWord_recordTag ty)) ty.isWord_token
  have hstructs : Shows specifier (structLines t) (t.declared.map recordTag) [] := by
    rw [List.map_eq_flatMap]
    exact Shows.flatMap_introduced fun ty hty =>
      shows_recordLines hspecifier (shape_ne_scalar_of_mem_declared hty)
  exact htypedefs.append ((shows_emptyLine hspecifier).append hstructs)

lemma shows_vectors (t : Taxonomy) :
    Shows specifier (Section.vectors t).lines ((constructors t).map (·.name)) [] :=
  shows_macros hspecifier fits_constructor

lemma shows_constants :
    Shows specifier Section.constants.lines
      (constants.map (·.name) ++ utilities.map (·.name)) [] :=
  (shows_macros hspecifier fits_constant).append
    ((shows_emptyLine hspecifier).append (shows_macros hspecifier fits_utility))

end Declarations

end MathHeader
