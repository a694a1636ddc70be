import MathHeader.Catalog.Basic
import MathHeader.Proofs.Names.Library
import MathHeader.Proofs.Template.Glyphs

/-!
# What functions call

The body of a function is either a filled-in template or a call of the function that it is derived
from.  Both are written down as glyphs (`Operation.glyphs?`), so that what a body may call can be
compared with what there is before any type is known: constructors of the types that the body has a
mark for, and functions of operations for these types.

`callable` lists the names that a function of an operation may call: those of operations in earlier
categories, those of earlier operations in its own category for its own type, and constructors.  An
operation `callsEarlier` if every segment of its bodies is harmless or one of these names, and a
catalog `isOrdered` if all of its operations do.
-/

namespace MathHeader

open Glyph

/-! ## Bodies -/

namespace Operation

/-- The name of a function of an operation, for the type that a placeholder stands for. -/
def nameGlyphs (o : Operation) (v : Variant) (p : Placeholder) : List Glyph :=
  ofText ("rm_" ++ v.decorate o.name ++ "_") ++ [.hole p none]

/-- A scalar operand spread over a vector. -/
def spreadGlyphs (operand : String) : List Glyph :=
  ofText "rm_" ++ .hole .operand none :: ofText "s(" ++ ofText operand ++ ofText ")"

/-- The body of a derived function. -/
def derivedGlyphs (v : Variant) (called : List Glyph) (a b : String) : List Glyph :=
  let (a, b) := match v with
    | .base => (ofText a, ofText b)
    | .vectorScalar => (ofText a, spreadGlyphs b)
    | .scalarVector => (spreadGlyphs a, ofText b)
  ofText "return " ++ called ++ ofText "(" ++ a ++ ofText ", " ++ b ++ ofText ");"

/-- The body of a function for the types of a kind and a shape. -/
def glyphs? (o : Operation) (kind : ScalarKind) (shape : Shape) : Variant → Option (List Glyph)
  | .base =>
    (o.bodies.find? fun (types, _) => types.containsKind kind).map fun (_, template) =>
      template.glyphs shape
  | v =>
    match o.params with
    | [(a, _), (b, _)] => some (derivedGlyphs v (o.nameGlyphs .base .operand) a b)
    | _ => none

variable {o : Operation} {t : ShapedType}

lemma written_nameGlyphs {v : Variant} {p : Placeholder} {ty : ShapedType}
    (h : p.value? t none = some ty.token) :
    written t (o.nameGlyphs v p) = (SymbolKey.mk o.name ty v).name.toList := by
  simp [nameGlyphs, SymbolKey.name, Glyph.chars, h]

lemma written_derivedGlyphs {v : Variant} {called : List Glyph} {name : String}
    (h : written t called = name.toList) (a b : String) :
    written t (derivedGlyphs v called a b) = (derivedBody v name t a b).toList := by
  cases v <;>
    simp [derivedGlyphs, derivedBody, spreadGlyphs, h, Glyph.chars, Placeholder.value?,
      ShapedType.splatName, ShapedType.constructorName]

lemma glyphs?_of_ne_base {v : Variant} (hv : v ≠ .base) {a b : String} {va vb : ValueType}
    (hparams : o.params = [(a, va), (b, vb)]) (kind : ScalarKind) (shape : Shape) :
    o.glyphs? kind shape v = some (derivedGlyphs v (o.nameGlyphs .base .operand) a b) := by
  cases v with
  | base => exact absurd rfl hv
  | vectorScalar | scalarVector => simp only [glyphs?, hparams]

/-- **Functions and their glyphs.**  Each function that an operation gives has the name of its key
and the body of its glyphs. -/
theorem written_of_instantiate {fs : List FunctionSymbol} (h : o.instantiate t = .ok fs) :
    List.Forall₂ (fun v f => f.name = (SymbolKey.mk o.name t v).name ∧
        ∃ gs, o.glyphs? t.element.kind t.shape v = some gs ∧ f.body.toList = written t gs)
      (.base :: o.variants t.shape) fs := by
  obtain ⟨base, derived, rfl, hbase, hderived⟩ := instantiate_eq_ok h
  obtain ⟨template, htemplate, hbody⟩ := hbase.body
  have hglyphs : o.glyphs? t.element.kind t.shape .base = some (template.glyphs t.shape) := by
    unfold bodyFor at htemplate
    split at htemplate
    next types template' hfind =>
      cases htemplate
      rw [glyphs?]
      exact congrArg _ hfind
    next => cases htemplate
  have hname : base.name = (SymbolKey.mk o.name t .base).name := by rw [hbase.name, hbase.key]
  refine .cons ⟨hname, _, hglyphs, Template.written_of_render hbody⟩ ?_
  have hvariants : ∀ v ∈ o.variants t.shape, v ≠ .base :=
    fun v hv heq => o.base_notMem_variants t.shape (heq ▸ hv)
  refine ((List.forall₂_and_left _ _).2 ⟨hvariants, hderived⟩).imp ?_
  rintro v f ⟨hv, a, va, b, vb, hparams, hf⟩
  obtain ⟨s, -, hf⟩ := bind_eq_ok_iff.1 hf
  cases hf
  exact ⟨rfl, _, glyphs?_of_ne_base hv hparams _ _,
    (written_derivedGlyphs (written_nameGlyphs rfl) a b).symm⟩

end Operation

/-! ## Names that may be called -/

/-- The types that a body has a mark for: the placeholder and the shape. -/
def Shape.marked (s : Shape) : List (Placeholder × Shape) :=
  (.element, .scalar) :: (.operand, s) :: (s.column?.map (.column, ·)).toList

/-- The constructors that a body may call. -/
def Shape.constructorGlyphs : Shape → List (List Glyph)
  | .scalar => []
  | .vector _ =>
    [ ofText "rm_" ++ [.hole .operand none], ofText "rm_" ++ [.hole .operand none, .char 's'],
      ofText "rm_" ++ [.boolVector] ]
  | .matrix _ _ =>
    [ ofText "rm_" ++ [.hole .column none], ofText "rm_" ++ [.hole .column none, .char 's'] ]

/-- Whether a category comes before another one in the header. -/
def Category.isBefore (k k' : Category) : Bool :=
  (Category.all.takeWhile (· != k')).contains k

/-- Every kind of numbers. -/
def ScalarKind.all : List ScalarKind :=
  [bool, unsigned, signed, float]

namespace Operation

/-- The operations whose functions for a shape stand in front of those of `o` for the shape `s`:
those of earlier categories, and for `s` itself those before `o` in its own category. -/
def preceding (operations earlier : List Operation) (o : Operation) (s shape : Shape) :
    List Operation :=
  operations.filter (fun e => e.category.isBefore o.category) ++
    if shape = s then earlier.filter (·.category == o.category) else []

lemma mem_preceding {operations earlier : List Operation} {o e : Operation} {s shape : Shape} :
    e ∈ preceding operations earlier o s shape ↔
      e ∈ operations ∧ e.category.isBefore o.category = true ∨
        shape = s ∧ e ∈ earlier ∧ e.category = o.category := by
  rw [preceding, List.mem_append, List.mem_filter]
  refine or_congr Iff.rfl ?_
  split
  next h => rw [List.mem_filter, beq_iff_eq, and_iff_right h]
  next h => exact iff_of_false List.not_mem_nil fun hand => h hand.1

def callable (operations earlier : List Operation) (o : Operation) (kind : ScalarKind)
    (s : Shape) : List (List Glyph) :=
  s.constructorGlyphs ++ s.marked.flatMap fun (p, shape) =>
    ((preceding operations earlier o s shape).filter fun e =>
      e.types.containsKind kind && e.shapes.contains shape).flatMap fun e =>
        (.base :: e.variants shape).map (e.nameGlyphs · p)

/-- Whether the functions of an operation for a kind and a shape call earlier functions only; a
derived function calls its declared one. -/
def callsEarlier (operations earlier : List Operation) (o : Operation) (kind : ScalarKind)
    (s : Shape) : Bool :=
  (.base :: o.variants s).all fun v =>
    match o.glyphs? kind s v with
    | some gs => (segments gs).all fun seg =>
        isHarmless ['m', '_'] seg || (v != .base && seg == o.nameGlyphs .base .operand) ||
          (callable operations earlier o kind s).contains seg
    | none => true

end Operation

/-- Whether the operations of a list, after those in `earlier`, call earlier functions only. -/
def isOrdered (operations : List Operation) : List Operation → List Operation → Bool
  | _, [] => true
  | earlier, o :: rest =>
    (ScalarKind.all.all fun kind => Shape.all.all fun s =>
      !(o.types.containsKind kind && o.shapes.contains s) ||
        o.callsEarlier operations earlier kind s) &&
    isOrdered operations (o :: earlier) rest

/-! ## What callable names stand for -/

/-- Whether the value of a glyph is a token, or it is a character. -/
def Glyph.isToken : Glyph → Bool
  | char _ => true
  | hole p _ => p == .element || p == .operand || p == .column
  | boolVector => true

section

variable {t : ShapedType}

lemma ShapedType.isWordChar_of_mem_token {c : Char} (h : c ∈ t.token.toList) :
    isWordChar c = true :=
  List.all_eq_true.1 (all_isWordChar_of_isWord t.isWord_token) c h

lemma isWordChar_of_mem_written {seg : List Glyph} (hseg : ∀ g ∈ seg, g.separates = false)
    (htokens : ∀ g ∈ seg, g.isToken = true) : ∀ c ∈ written t seg, isWordChar c = true := by
  intro c hc
  obtain ⟨g, hg, hc⟩ := List.mem_flatMap.1 hc
  have hsep := hseg g hg
  have htoken := htokens g hg
  cases g with
  | char d =>
      rw [List.mem_singleton.1 hc]
      simpa [separates] using hsep
  | boolVector => exact ShapedType.isWordChar_of_mem_token hc
  | hole p component =>
      have hvalue {type : Option ShapedType}
          (h : c ∈ ((type.map ShapedType.token).getD "").toList) : isWordChar c = true := by
        cases type with
        | none => exact absurd h List.not_mem_nil
        | some ty => exact ShapedType.isWordChar_of_mem_token h
      cases p with
      | element => exact List.all_eq_true.1 (all_isWordChar_of_isWord t.element.isWord_token) c hc
      | operand => exact ShapedType.isWordChar_of_mem_token hc
      | column => exact hvalue hc
      | _ => cases htoken

lemma value?_of_mem_marked {p : Placeholder} {shape : Shape} (h : (p, shape) ∈ t.shape.marked) :
    p.value? t none = some (ShapedType.mk t.element shape).token ∧
      (Glyph.hole p none).isToken = true := by
  rw [Shape.marked, List.mem_cons, List.mem_cons, Option.mem_toList, Option.map_eq_some_iff] at h
  rcases h with h | h | ⟨column, hcolumn, h⟩ <;> cases h
  · exact ⟨congrArg some (ShapedType.token_scalar t.element).symm, rfl⟩
  · exact ⟨rfl, rfl⟩
  · refine ⟨?_, rfl⟩
    rw [Placeholder.value?, ValueType.token?, ValueType.type?, hcolumn]
    rfl

lemma isToken_of_mem_ofText {text : String} : ∀ g ∈ ofText text, g.isToken = true := by
  intro g hg
  obtain ⟨c, -, rfl⟩ := List.mem_map.1 hg
  rfl

/-- The constructors that a body may call are those of vectors with its elements or with truth
values. -/
lemma exists_constructor_of_mem {seg : List Glyph} (h : seg ∈ t.shape.constructorGlyphs) :
    (∀ g ∈ seg, g.isToken = true) ∧ ∃ s w, (s = t.element ∨ s = .bool) ∧
      (written t seg = (ShapedType.ofWidth s w).constructorName.toList ∨
        written t seg = (ShapedType.ofWidth s w).splatName.toList) := by
  obtain ⟨element, shape⟩ := t
  have htokens {gs : List Glyph} (hgs : gs.all isToken = true) :
      ∀ g ∈ ofText "rm_" ++ gs, g.isToken = true :=
    List.forall_mem_append.2 ⟨isToken_of_mem_ofText, List.all_eq_true.1 hgs⟩
  cases shape with
  | scalar => exact absurd h List.not_mem_nil
  | vector w =>
      rw [Shape.constructorGlyphs, List.mem_cons, List.mem_cons, List.mem_singleton] at h
      rcases h with rfl | rfl | rfl
      · refine ⟨htokens rfl, element, w, .inl rfl, .inl ?_⟩
        simp [ShapedType.constructorName, Glyph.chars, Placeholder.value?]
      · refine ⟨htokens rfl, element, w, .inl rfl, .inr ?_⟩
        simp [ShapedType.constructorName, ShapedType.splatName, Glyph.chars, Placeholder.value?]
      · refine ⟨htokens rfl, .bool, w, .inr rfl, .inl ?_⟩
        simp [ShapedType.constructorName, Glyph.chars]
  | matrix rows cols =>
      rw [Shape.constructorGlyphs, List.mem_cons, List.mem_singleton] at h
      rcases h with rfl | rfl
      · refine ⟨htokens rfl, element, rows, .inl rfl, .inl ?_⟩
        simp [ShapedType.constructorName, Glyph.chars, Placeholder.value?, ValueType.token?,
          ValueType.type?, Shape.column?]
      · refine ⟨htokens rfl, element, rows, .inl rfl, .inr ?_⟩
        simp [ShapedType.constructorName, ShapedType.splatName, Glyph.chars, Placeholder.value?,
          ValueType.token?, ValueType.type?, Shape.column?]

end

namespace Operation

variable {operations earlier : List Operation} {o : Operation} {t : ShapedType}

lemma written_nameGlyphs_of_mem_marked {v : Variant} {p : Placeholder} {shape : Shape}
    (h : (p, shape) ∈ t.shape.marked) :
    (∀ g ∈ o.nameGlyphs v p, g.isToken = true) ∧
      written t (o.nameGlyphs v p) =
        (SymbolKey.mk o.name ⟨t.element, shape⟩ v).name.toList := by
  obtain ⟨hvalue, htoken⟩ := value?_of_mem_marked h
  exact ⟨List.forall_mem_append.2 ⟨isToken_of_mem_ofText, List.forall_mem_singleton.2 htoken⟩,
    written_nameGlyphs hvalue⟩

/-- **What is called.**  A name of the library in the body of a function is that of the function it
is derived from, of a constructor, or of a function of an operation that precedes. -/
theorem called_of_callsEarlier {v : Variant} {gs : List Glyph} {w : List Char}
    (h : o.callsEarlier operations earlier t.element.kind t.shape = true)
    (hv : v ∈ .base :: o.variants t.shape) (hgs : o.glyphs? t.element.kind t.shape v = some gs)
    (hword : Text.WordIn w (written t gs)) (hlibrary : libraryPrefix <+: w) :
    (v ≠ .base ∧ w = (SymbolKey.mk o.name t .base).name.toList) ∨
      (∃ s width, (s = t.element ∨ s = .bool) ∧
        (w = (ShapedType.ofWidth s width).constructorName.toList ∨
          w = (ShapedType.ofWidth s width).splatName.toList)) ∨
      ∃ shape, ∃ e ∈ preceding operations earlier o t.shape shape,
        ∃ v' ∈ .base :: e.variants shape, e.appliesTo ⟨t.element, shape⟩ = true ∧
          w = (SymbolKey.mk e.name ⟨t.element, shape⟩ v').name.toList := by
  obtain ⟨seg, hmem, hsep, hseg⟩ := exists_segment_of_wordIn hword
  have hsegments := List.all_eq_true.1 h v hv
  rw [hgs] at hsegments
  have hcase := List.all_eq_true.1 hsegments seg hmem
  -- A segment of tokens makes one word, so the word that was found is all of it.
  have hwhole (htokens : ∀ g ∈ seg, g.isToken = true) : w = written t seg :=
    hseg.eq_of_all (isWordChar_of_mem_written hsep htokens)
  rw [Bool.or_eq_true, Bool.or_eq_true, Bool.and_eq_true, bne_iff_ne, beq_iff_eq,
    List.contains_iff_mem, callable, List.mem_append] at hcase
  rcases hcase with (hharmless | ⟨hne, rfl⟩) | hconstructor | hfunction
  · exact absurd hlibrary (not_prefix_of_isHarmless hsep hharmless hseg)
  · have hmarked : (Placeholder.operand, t.shape) ∈ t.shape.marked :=
      List.mem_cons_of_mem _ List.mem_cons_self
    obtain ⟨htokens, hwritten⟩ := written_nameGlyphs_of_mem_marked hmarked
    exact .inl ⟨hne, (hwhole htokens).trans hwritten⟩
  · obtain ⟨htokens, s, width, hs, hwritten⟩ := exists_constructor_of_mem hconstructor
    rw [← hwhole htokens] at hwritten
    exact .inr (.inl ⟨s, width, hs, hwritten⟩)
  · obtain ⟨⟨p, shape⟩, hmarked, hfunction⟩ := List.mem_flatMap.1 hfunction
    obtain ⟨e, he, hname⟩ := List.mem_flatMap.1 hfunction
    obtain ⟨v', hv', rfl⟩ := List.mem_map.1 hname
    obtain ⟨hpreceding, happlies⟩ := List.mem_filter.1 he
    obtain ⟨htokens, hwritten⟩ := written_nameGlyphs_of_mem_marked hmarked
    exact .inr (.inr ⟨shape, e, hpreceding, v', hv', happlies,
      (hwhole htokens).trans hwritten⟩)

end Operation

/-! ## Ordered catalogs -/

lemma callsEarlier_of_isOrdered {operations earlier front rest : List Operation} {o : Operation}
    (h : isOrdered operations earlier (front ++ o :: rest) = true) {t : ShapedType}
    (happlies : o.appliesTo t = true) :
    o.callsEarlier operations (front.reverse ++ earlier) t.element.kind t.shape = true := by
  induction front generalizing earlier with
  | nil =>
      rw [List.nil_append, isOrdered, Bool.and_eq_true, List.all_eq_true] at h
      have hkind : t.element.kind ∈ ScalarKind.all := by cases t.element.kind <;> decide
      have hshape := List.all_eq_true.1 (h.1 _ hkind) t.shape t.shape.mem_all
      have hboth : (o.types.containsKind t.element.kind && o.shapes.contains t.shape) = true :=
        happlies
      rw [hboth, Bool.not_true, Bool.false_or] at hshape
      exact hshape
  | cons e front ih =>
      rw [List.cons_append, isOrdered, Bool.and_eq_true] at h
      rw [List.reverse_cons, List.append_assoc]
      exact ih h.2

end MathHeader
