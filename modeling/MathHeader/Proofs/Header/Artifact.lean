import MathHeader.Proofs.Generation.Trace
import MathHeader.Proofs.Header.Banner
import MathHeader.Proofs.Header.Declarations
import MathHeader.Proofs.Header.Definition
import Mathlib.Data.Finset.Card

/-!
# Reading an artifact

An artifact is a text, and what it declares can be read off its lines.  For a legible input, that is
when no license is taken over as it stands and no string in the input breaks a line, the text shows
exactly what the generation did.  The functions that are defined in it are those of the operations
that the catalog has for the types of the taxonomy, in that order and each once:
`functions_of_artifact`.  The names that are introduced in it are those that the generation claimed
for macros, structures and types, and the statistics count them: `names_of_artifact`.
-/

namespace MathHeader

open Preprocessor Storage
open Text (OneLine oneLine_append)

/-! ## Legible inputs -/

/-- **Inputs whose artifacts can be read.**  A license is wrapped in a comment and not taken over as
one, and neither the strings of the detection block nor the names of parameters have newlines. -/
structure Legible (catalog : Catalog) (detection : List Node) (c : Config) : Prop where
  license : ∀ license, c.license = some license → startsComment (Text.trimEnd license) = false
  detection : ∀ s ∈ blockStrings detection, OneLine s
  params : ∀ o ∈ catalog.operations, ∀ p ∈ o.params, OneLine p.1

/-! ## Functions -/

/-- A line of a body is inert: it is indented, unless it is empty. -/
lemma indent_spec {line : String} (h : OneLine line) :
    OneLine (indent line) ∧ isInert (indent line).toList = true := by
  have hleads : Leads "    " := fun rest => rfl
  refine ⟨oneLine_indent h, ?_⟩
  unfold indent
  split
  · decide
  · exact (hleads.append line).isInert

lemma oneLine_parameters {s : Signature} (hnames : ∀ p ∈ s.params, OneLine p.name)
    (htypes : ∀ p ∈ s.params, OneLine p.type) : OneLine s.parameters := by
  unfold Signature.parameters
  split
  · decide
  · refine OneLine.intercalate (by decide) ?_
    rw [List.forall_mem_map]
    intro p hp
    exact oneLine_append.2 ⟨oneLine_append.2 ⟨oneLine_append.2 ⟨by decide, htypes p hp⟩,
      by decide⟩, hnames p hp⟩

section Header

variable {specifier : String} (hspecifier : isIdentifier specifier = true)
include hspecifier

lemma shows_functionSymbol {f : FunctionSymbol} {o : Operation} {ty : ShapedType}
    (hfits : f.Fits o ty) (hname : isIdentifier f.name = true)
    (hparams : ∀ p ∈ o.params, OneLine p.1) :
    Shows specifier (f.lines specifier ++ [""]) [] [f.name] := by
  obtain ⟨-, ret, -, hret⟩ := hfits.ret
  have hretWord : isWord f.signature.ret.toList = true := hret ▸ ret.isWord_token
  have hnames : ∀ p ∈ f.signature.params, OneLine p.name := by
    intro p hp
    obtain ⟨d, hd, hname⟩ := List.mem_map.1 (hfits.params p hp).1
    exact hname ▸ hparams d hd
  have htypes : ∀ p ∈ f.signature.params, OneLine p.type := by
    intro p hp
    obtain ⟨-, r, -, hr⟩ := (hfits.params p hp).2
    exact hr ▸ oneLine_token r
  have hhead := shows_function hspecifier hretWord (isWord_of_isIdentifier hname)
    (oneLine_parameters hnames htypes)
  have hbody : Shows specifier ((Text.lines f.body).map indent) [] [] := by
    refine shows_inert hspecifier ?_
    rw [List.forall_mem_map]
    exact fun l hl => indent_spec (Text.oneLine_of_mem_lines hl)
  have hclose : Shows specifier ["\x7d"] [] [] := shows_inert hspecifier (by decide)
  exact (hhead.append (hbody.append hclose)).append (shows_emptyLine hspecifier)

/-! ## The opening -/

/-- A license that is wrapped shows nothing, and neither does the remark. -/
lemma shows_bannerLines {c : Config}
    (h : ∀ license, c.license = some license → startsComment (Text.trimEnd license) = false) :
    Shows specifier c.bannerLines [] [] := by
  have hremark : Shows specifier [generatedRemark] [] [] :=
    shows_inert hspecifier (by decide)
  have hcomment {line : String} (hline : OneLine line) :
      OneLine (commentLine line) ∧ isInert (commentLine line).toList = true := by
    have hleads : Leads " * " := fun rest => rfl
    refine ⟨oneLine_commentLine hline, ?_⟩
    unfold commentLine
    split
    · decide
    · exact (hleads.append _).isInert
  unfold Config.bannerLines
  split
  next license hlicense =>
    have hlines : licenseLines license = wrapComment (Text.lines (Text.trimEnd license)) := by
      simp [licenseLines, h license hlicense]
    have hopen : Shows specifier ["/*"] [] [] := shows_inert hspecifier (by decide)
    have hclose : Shows specifier [" */"] [] [] := shows_inert hspecifier (by decide)
    have hbody : Shows specifier ((Text.lines (Text.trimEnd license)).map commentLine) [] [] := by
      refine shows_inert hspecifier ?_
      rw [List.forall_mem_map]
      exact fun l hl => hcomment (Text.oneLine_of_mem_lines hl)
    have hwrapped : Shows specifier (licenseLines license) [] [] := by
      rw [hlines, wrapComment, List.cons_append]
      exact hopen.cons (hbody.append hclose)
    exact (hwrapped.append (shows_emptyLine hspecifier)).append hremark
  next => exact hremark

lemma shows_opening {c : Config} (hguard : isIdentifier c.guard = true)
    (h : ∀ license, c.license = some license → startsComment (Text.trimEnd license) = false) :
    Shows specifier (Header.opening c) [c.guard] [] := by
  have hword := isWord_of_isIdentifier hguard
  have hleads : Leads "#ifndef " := fun rest => rfl
  have hcheck : Shows specifier ["#ifndef " ++ c.guard] [] [] :=
    (hleads.append c.guard).shows hspecifier
      (oneLine_append.2 ⟨by decide, oneLine_of_isWord hword⟩)
  have hdefine : Shows specifier ["#define " ++ c.guard] [c.guard] [] := by
    have hline : "#define " ++ c.guard = "#define " ++ c.guard ++ "" := String.append_empty.symm
    rw [hline]
    exact shows_define hspecifier hword (fun _ h => nomatch h) (by decide)
  have hempty := shows_emptyLine hspecifier
  exact (shows_bannerLines hspecifier h).append
    (hempty.append (hcheck.append (hdefine.append hempty)))

/-! ## Sections of a header -/

lemma shows_titledLines {title : String} (htitle : OneLine title)
    {body names functions : List String} (h : Shows specifier body names functions) :
    Shows specifier (titledLines title body) names functions := by
  have hleads : Leads "/* ==== " := fun rest => rfl
  have hbanner : Shows specifier [sectionBanner title] [] [] :=
    ((hleads.append title).append " ==== */").shows hspecifier
      (oneLine_append.2 ⟨oneLine_append.2 ⟨by decide, htitle⟩, by decide⟩)
  have hempty := shows_emptyLine hspecifier
  have hall := hbanner.append (hempty.append (h.append hempty))
  rwa [List.append_nil, List.append_nil, List.nil_append, List.nil_append] at hall

lemma shows_functionLines {catalog : Catalog} {detection : List Node} {c : Config}
    (hlegible : Legible catalog detection c) {fs : List FunctionSymbol}
    (hfits : ∀ f ∈ fs, ∃ o ∈ catalog.operations, ∃ ty, f.Fits o ty)
    (hnames : ∀ f ∈ fs, isIdentifier f.name = true) :
    Shows specifier (functionLines specifier fs) [] (fs.map (·.name)) := by
  have hone : ∀ f ∈ fs, Shows specifier (f.lines specifier ++ [""]) [] [f.name] := by
    intro f hf
    obtain ⟨o, ho, ty, hfit⟩ := hfits f hf
    exact shows_functionSymbol hspecifier hfit (hnames f hf) (hlegible.params o ho)
  rw [List.map_eq_flatMap]
  exact Shows.flatMap_functions hone

end Header

/-! ## A whole header -/

/-- The names that the lines of a header introduce: the guard, and then those of each section.  A
macro of the detection block occurs on every branch that defines it, and the specifier has four
branches. -/
def shownNames (t : Taxonomy) (detection : List Node) (c : Config) : List String :=
  [ [c.guard],
    blockDefinitions detection,
    primitiveNames ++ List.replicate 4 c.specifier,
    overlayTypes.map overlayName ++ overlayTypes.map overlayTag ++ BitCast.all.map (·.name),
    t.declared.map ShapedType.token ++ t.declared.map recordTag,
    (constructors t).map (·.name),
    constants.map (·.name) ++ utilities.map (·.name) ].flatten

lemma mem_flatMap_pair {α β : Type} {xs : List α} {f g : α → β} {y : β} :
    y ∈ (xs.flatMap fun x => [f x, g x]) ↔ y ∈ xs.map g ∨ y ∈ xs.map f := by
  simp only [List.mem_flatMap, List.mem_cons, List.not_mem_nil, or_false, List.mem_map]
  constructor
  · rintro ⟨x, hx, rfl | rfl⟩
    · exact .inr ⟨x, hx, rfl⟩
    · exact .inl ⟨x, hx, rfl⟩
  · rintro (⟨x, hx, rfl⟩ | ⟨x, hx, rfl⟩)
    · exact ⟨x, hx, .inr rfl⟩
    · exact ⟨x, hx, .inl rfl⟩

/-- The names that are shown are those that are claimed, in another order and not as often. -/
lemma mem_shownNames {t : Taxonomy} {detection : List Node} {c : Config} {name : String} :
    name ∈ shownNames t detection c ↔ name ∈ (declarationClaims t detection c).map (·.1) := by
  have hspecifier : name ∈ List.replicate 4 c.specifier ↔ name = c.specifier := by simp
  rw [map_fst_declarationClaims]
  simp only [shownNames, definedNames, overlayNames, List.flatten_cons, List.flatten_nil,
    List.append_nil, List.mem_append, List.mem_cons, List.not_mem_nil, or_false,
    List.mem_eraseDups, mem_flatMap_pair, hspecifier, or_assoc]

section Header

variable {catalog : Catalog} {detection : List Node} {c : Config}
  (hlegible : Legible catalog detection c) (hspecifier : isIdentifier c.specifier = true)
include hlegible hspecifier

lemma shows_declarationSections (t : Taxonomy)
    (hnames : ∀ name ∈ blockDefinitions detection, isIdentifier name = true) :
    Shows c.specifier
      ((declarationSections t detection c).flatMap fun s => titledLines s.title s.lines)
      (shownNames t detection c).tail [] := by
  have htitles : ∀ title ∈ sectionOrder, OneLine title := by decide
  have hbody (part : Section) (hpart : part ∈ declarationSections t detection c)
      {names : List String} (h : Shows c.specifier part.lines names []) :
      Shows c.specifier (titledLines part.title part.lines) names [] := by
    refine shows_titledLines hspecifier (htitles part.title ?_) h
    rw [sectionOrder_eq t detection c]
    exact List.mem_append_left _ (List.mem_map_of_mem hpart)
  have hdetection := hbody (.detection detection) (by simp [declarationSections])
    (shows_block hspecifier detection hlegible.detection hnames)
  have hprimitives := hbody (.primitives c.specifier) (by simp [declarationSections])
    (shows_primitives hspecifier)
  have hoverlays := hbody .overlays (by simp [declarationSections]) (shows_overlays hspecifier)
  have hshapes := hbody (.shapes t) (by simp [declarationSections]) (shows_shapes hspecifier t)
  have hvectors := hbody (.vectors t) (by simp [declarationSections]) (shows_vectors hspecifier t)
  have hconstants := hbody .constants (by simp [declarationSections]) (shows_constants hspecifier)
  exact hdetection.append (hprimitives.append (hoverlays.append (hshapes.append
    (hvectors.append (hconstants.append Shows.nil)))))

lemma shows_functionSections {t : Taxonomy}
    (hnames : ∀ k ∈ Category.all, ∀ f ∈ functionsOf catalog t k, isIdentifier f.name = true) :
    Shows c.specifier
      (Category.all.flatMap fun k =>
        titledLines k.title (functionLines c.specifier (functionsOf catalog t k)))
      [] (Category.all.flatMap fun k => (functionsOf catalog t k).map (·.name)) := by
  have hcategory : ∀ k ∈ Category.all, Shows c.specifier
      (titledLines k.title (functionLines c.specifier (functionsOf catalog t k)))
      [] ((functionsOf catalog t k).map (·.name)) := by
    intro k hk
    refine shows_titledLines hspecifier ?_ ?_
    · cases k <;> decide
    · refine shows_functionLines hspecifier hlegible (fun f hf => ?_) (hnames k hk)
      obtain ⟨o, ho, ty, -, hfits⟩ := fits_of_mem_functionsOf hf
      exact ⟨o, ho, ty, hfits⟩
  exact Shows.flatMap_functions hcategory

/-- **A header shows what was generated.**  Its lines introduce the names of the declarations, and
they define the functions of each category in order. -/
theorem shows_header {t : Taxonomy} (hguard : isIdentifier c.guard = true)
    (hnames : ∀ name ∈ claimedNames (events catalog t detection c), isIdentifier name = true) :
    Shows c.specifier (headerOf catalog t detection c).lines (shownNames t detection c)
      (Category.all.flatMap fun k => (functionsOf catalog t k).map (·.name)) := by
  rw [claimedNames_events, List.forall_mem_append] at hnames
  have hopening := shows_opening hspecifier hguard hlegible.license
  have hdeclarations : Shows c.specifier
      ((declarationSections t detection c).flatMap fun s => titledLines s.title s.lines)
      (shownNames t detection c).tail [] := by
    refine shows_declarationSections hlegible hspecifier t fun name hname => ?_
    refine hnames.1 name (mem_shownNames.1 ?_)
    simp [shownNames, hname]
  have hfunctions : Shows c.specifier
      (Category.all.flatMap fun k =>
        titledLines k.title (functionLines c.specifier (functionsOf catalog t k)))
      [] (Category.all.flatMap fun k => (functionsOf catalog t k).map (·.name)) := by
    refine shows_functionSections hlegible hspecifier fun k hk f hf => ?_
    exact hnames.2 f.name (List.mem_flatMap.2 ⟨k, hk, List.mem_map_of_mem hf⟩)
  have hclosing : Shows c.specifier [Header.closing c] [] [] :=
    shows_endLine hspecifier (oneLine_of_isWord (isWord_of_isIdentifier hguard))
  have hall := ((hopening.append hdeclarations).append hfunctions).append hclosing
  rw [List.append_nil, List.append_nil, List.append_nil, List.nil_append] at hall
  rw [Header.lines, headerOf, List.flatMap_map]
  exact hall

end Header

/-! ## Reading an artifact -/

namespace Artifact

/-- The functions that the text of an artifact defines, in order. -/
def functionNames (a : Artifact) (specifier : String) : List String :=
  (Text.lines a.text).filterMap fun l => functionName? specifier l.toList

/-- The names of macros, types and structures that the text of an artifact introduces, in order. -/
def introducedNames (a : Artifact) : List String :=
  (Text.lines a.text).filterMap fun l => introducedName? l.toList

lemma of_reads {h : Header} {s : Session} {specifier : String} {names functions : List String}
    (hshows : Shows specifier h.lines names functions) :
    (of h s).introducedNames = names ∧ (of h s).functionNames specifier = functions := by
  have hlines : Text.lines (of h s).text = h.lines.map fun l => String.ofList (Text.stripped l) :=
    Text.lines_unlines hshows.oneLine
  constructor
  · rw [introducedNames, hlines, List.filterMap_map, ← hshows.introduced_eq]
    simp only [Function.comp_def, String.toList_ofList]
  · rw [functionNames, hlines, List.filterMap_map, ← hshows.functions_eq]
    simp only [Function.comp_def, String.toList_ofList]

end Artifact

/-! ## A small header -/

/-- A catalog with one operation, which has derived functions. -/
def smallCatalog : Catalog where
  operations := [
    { name := "and"
      category := .boolean
      shapes := .vector
      types := .any
      params := [("a", .operand), ("b", .operand)]
      ret := .operand
      bodies := [(.any, ⟨"and", [.text "return a && b;".toList]⟩)]
      broadcast := .vectorScalar }]

/-- A block that defines one macro on two branches. -/
def smallDetection : List Node :=
  [.when "wide" (.defined "__AVX__") [.define "WIDE" .flag], .default "WIDE" (.int 0)]

/-- Settings with a license that would end its comment. -/
def smallConfig : Config :=
  ⟨"SMALL_H", some "Kept */ on one line.", "INLINE"⟩

lemma legible_small : Legible smallCatalog smallDetection smallConfig := by
  refine ⟨?_, by decide, by decide⟩
  rintro license ⟨⟩
  decide

lemma exists_generate_small :
    ∃ a, generate smallCatalog (.ofList [.bool]) smallDetection smallConfig = .ok a :=
  exists_generate_of_firstFault rfl (by decide +kernel)

/-! ## What the text declares -/

section Reading

variable {catalog : Catalog} {t : Taxonomy} {detection : List Node} {c : Config} {a : Artifact}

/-- What a generation of a legible input gives can be read off its text. -/
lemma reads_of_generate (h : generate catalog t detection c = .ok a)
    (hlegible : Legible catalog detection c) :
    a.introducedNames = shownNames t detection c ∧
      a.functionNames c.specifier =
        Category.all.flatMap fun k => (functionsOf catalog t k).map (·.name) := by
  obtain ⟨hvalid, -, hnames, -⟩ := exists_generate_eq_ok_iff.1 ⟨a, h⟩
  obtain ⟨hguard, hspecifier⟩ := Config.validate_eq_ok_iff.1 hvalid
  obtain ⟨-, s, -, rfl⟩ := generate_eq_ok_iff.1 h
  exact Artifact.of_reads (shows_header hlegible hspecifier hguard hnames)

lemma mapM_instantiate_requests (h : AllInstantiate (events catalog t detection c)) :
    ((Category.all.flatMap (requests catalog t)).mapM fun r => r.1.instantiate r.2) =
      .ok ((Category.all.flatMap (requests catalog t)).map fun r => returned r.1 r.2) := by
  rw [mapM_eq_ok_iff, List.forall₂_map_right_iff, List.forall₂_same]
  intro r hr
  obtain ⟨k, hk, hrequest⟩ := List.mem_flatMap.1 hr
  obtain ⟨fs, hfs⟩ := h r.1 r.2 (instantiate_mem_events_iff.2 ⟨k, hk, hrequest⟩)
  rw [returned, hfs]

/-- **The functions that are defined.**  For a legible input, the functions that the text of an
artifact defines are those that the operations give for the types of the taxonomy, by category, type
and operation.  They have the keys that the catalog has, in that order, and no two have one name. -/
theorem functions_of_artifact (h : generate catalog t detection c = .ok a)
    (hlegible : Legible catalog detection c) :
    ∃ functions,
      ((Category.all.flatMap (requests catalog t)).mapM fun r => r.1.instantiate r.2) =
        .ok functions ∧
      functions.flatten.map (·.key) = functionKeys catalog t ∧
      a.functionNames c.specifier = functions.flatten.map (·.key.name) ∧
      (a.functionNames c.specifier).Nodup := by
  obtain ⟨-, hinstantiate, -, hnodup⟩ := exists_generate_eq_ok_iff.1 ⟨a, h⟩
  have hreads := (reads_of_generate h hlegible).2
  have hkeys := map_key_functionsOf hinstantiate
  have hflatten : ((Category.all.flatMap (requests catalog t)).map
      fun r => returned r.1 r.2).flatten = Category.all.flatMap (functionsOf catalog t) := by
    rw [← List.flatMap_def, List.flatMap_assoc]
    rfl
  refine ⟨_, mapM_instantiate_requests hinstantiate, ?_, ?_, ?_⟩
  · rw [hflatten, List.map_flatMap]
    exact hkeys
  · rw [hflatten, hreads, map_name_functionsOf hinstantiate, ← hkeys, List.map_flatMap,
      List.map_flatMap]
    simp only [List.map_map]
    rfl
  · rw [hreads]
    rw [claimedNames_events] at hnodup
    exact (List.nodup_append.1 hnodup).2.1

/-- A function is defined for each width, and after it the derived one. -/
theorem functions_of_small_artifact :
    ∃ a, generate smallCatalog (.ofList [.bool]) smallDetection smallConfig = .ok a ∧
      Legible smallCatalog smallDetection smallConfig ∧
      a.functionNames "INLINE" =
        ["rm_and_boolx2", "rm_ands_boolx2", "rm_and_boolx3", "rm_ands_boolx3",
          "rm_and_boolx4", "rm_ands_boolx4"] := by
  obtain ⟨a, ha⟩ := exists_generate_small
  obtain ⟨functions, -, hkeys, hnames, -⟩ := functions_of_artifact ha legible_small
  refine ⟨a, ha, legible_small, hnames.trans ?_⟩
  have hmap : functions.flatten.map (·.key.name) =
      (functionKeys smallCatalog (.ofList [.bool])).map SymbolKey.name := by
    rw [← hkeys, List.map_map]
    rfl
  rw [hmap]
  decide

/-- **The names that are introduced.**  For a legible input, the macros, types and structures that
the text of an artifact introduces are those that its run declared.  All of them have an owner in
the end, so each was looked up before it was taken, and the statistics give their number. -/
theorem names_of_artifact (h : generate catalog t detection c = .ok a)
    (hlegible : Legible catalog detection c) :
    ∃ s, build catalog t detection c = .ok (headerOf catalog t detection c, s) ∧
      runEvents .fresh (trace catalog t detection c) = .ok s ∧
      a.introducedNames.toFinset = (declaredNames (trace catalog t detection c)).toFinset ∧
      (∀ name ∈ a.introducedNames, (s.names.owner? name).isSome = true) ∧
      a.stats.declarations = a.introducedNames.toFinset.card := by
  obtain ⟨-, -, -, hnodup⟩ := exists_generate_eq_ok_iff.1 ⟨a, h⟩
  have hreads := (reads_of_generate h hlegible).1
  obtain ⟨hvalid, s, hrun, rfl⟩ := generate_eq_ok_iff.1 h
  have htracks := tracks_of_runEvents hrun
  have hdeclared : declaredNames (trace catalog t detection c) =
      (declarationClaims t detection c).map (·.1) := by
    rw [← declaredNames_filter_isFinish, filter_trace, declaredNames_events]
  have hset : (shownNames t detection c).toFinset =
      (declaredNames (trace catalog t detection c)).toFinset := by
    ext name
    rw [List.mem_toFinset, List.mem_toFinset, mem_shownNames, hdeclared]
  rw [claimedNames_events] at hnodup
  refine ⟨s, ?_, hrun, ?_, ?_, ?_⟩
  · exact build_eq_ok_iff.2 ⟨hvalid, hrun, rfl⟩
  · rw [hreads, hset]
  · intro name hname
    rw [hreads, ← List.mem_toFinset, hset, List.mem_toFinset] at hname
    exact htracks.isSome_owner? hname
  · calc (Artifact.of (headerOf catalog t detection c) s).stats.declarations
        = (declaredNames (trace catalog t detection c)).length := htracks.declarations
      _ = (declaredNames (trace catalog t detection c)).toFinset.card := by
        rw [hdeclared, List.toFinset_card_of_nodup (List.nodup_append.1 hnodup).1]
      _ = (Artifact.of (headerOf catalog t detection c) s).introducedNames.toFinset.card := by
        rw [hreads, hset]

/-- The macro of both branches is introduced, and counted once. -/
theorem names_of_small_artifact :
    ∃ a, generate smallCatalog (.ofList [.bool]) smallDetection smallConfig = .ok a ∧
      Legible smallCatalog smallDetection smallConfig ∧
      "WIDE" ∈ a.introducedNames ∧ a.stats.declarations = a.introducedNames.toFinset.card := by
  obtain ⟨a, ha⟩ := exists_generate_small
  obtain ⟨s, -, -, hset, -, hcount⟩ := names_of_artifact ha legible_small
  have hwide : "WIDE" ∈
      declaredNames (trace smallCatalog (.ofList [.bool]) smallDetection smallConfig) := by
    decide
  rw [← List.mem_toFinset, ← hset, List.mem_toFinset] at hwide
  exact ⟨a, ha, legible_small, hwide, hcount⟩

end Reading

end MathHeader
