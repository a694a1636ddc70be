import MathHeader.Proofs.Template.Fits
import MathHeader.Proofs.Template.Reading

/-!
# What a template asks of a type

Whether a template gives a body for a type is a matter of three questions.  Some placeholders stand
for something that only a float has, some for something that only a matrix has, and an expansion
needs a vector.  It makes no difference how often a mark occurs and where it stands, in the function
of a chain or in an expression; so the answer depends on the kind of the elements and on the kind of
the shape only, and a template with an expansion and a placeholder for matrices gives no body at
all.

A template that fails lacks one of its own marks: the one that is reported occurs in it, and the
type does not have what that mark asks for.  `Template.render_outcome` has both outcomes.
-/

namespace MathHeader

/-! ## Marks that occur -/

/-- The marks of a text, in order. -/
def Piece.marks {μ : Type} (ps : List (Piece μ)) : List μ :=
  ps.filterMap fun
    | text _ => none
    | mark m => some m

lemma Piece.mem_marks {μ : Type} {ps : List (Piece μ)} {m : μ} : m ∈ marks ps ↔ mark m ∈ ps := by
  rw [marks, List.mem_filterMap]
  constructor
  · rintro ⟨p, hp, hm⟩
    cases p with
    | text cs => cases hm
    | mark m' =>
        cases hm
        exact hp
  · exact fun hm => ⟨mark m, hm, rfl⟩

/-- The placeholders in a mark: itself, or those in the function and the expression of an
expansion. -/
def Mark.placeholders : Mark → List Placeholder
  | hole p => [p]
  | expand _ func expr => Piece.marks func ++ Piece.marks expr

/-- The join of an expansion. -/
def Mark.join? : Mark → Option Join
  | hole _ => none
  | expand j _ _ => some j

namespace Template

/-- The placeholders that occur anywhere in a template. -/
def placeholders (template : Template) : List Placeholder :=
  (Piece.marks template.pieces).flatMap Mark.placeholders

/-- The joins of the expansions of a template. -/
def joins (template : Template) : List Join :=
  (Piece.marks template.pieces).filterMap Mark.join?

end Template

/-! ## What is asked, and what is missing -/

namespace Placeholder

def asksFloat : Placeholder → Bool
  | signedTwin | suffix | threshold => true
  | _ => false

def asksMatrix : Placeholder → Bool
  | rows | cols | column | transposed => true
  | _ => false

/-- **What a placeholder asks of a type.** -/
structure Has (t : ShapedType) (p : Placeholder) : Prop where
  float : p.asksFloat = true → t.element.isFloat = true
  matrix : p.asksMatrix = true → t.shape.isMatrix = true

variable {t : ShapedType} {p : Placeholder}

lemma has_of_fits (h : p.fits t = true) : p.Has t := by
  cases p <;> constructor <;> simp_all [fits, asksFloat, asksMatrix]

/-- Of the components nothing is asked but a vector. -/
lemma fits_of_has (h : p.Has t) (hcomponent : p = .component → t.shape.isVector = true) :
    p.fits t = true := by
  obtain ⟨hfloat, hmatrix⟩ := h
  cases p <;> simp_all [fits, asksFloat, asksMatrix]

end Placeholder

/-- **What a template asks of a type.**  The elements are floats if a placeholder for floats occurs,
the shape is a matrix if a placeholder for matrices occurs, and it is a vector if there is an
expansion. -/
structure Template.Suits (template : Template) (t : ShapedType) : Prop where
  float : (∃ p ∈ template.placeholders, p.asksFloat = true) → t.element.isFloat = true
  matrix : (∃ p ∈ template.placeholders, p.asksMatrix = true) → t.shape.isMatrix = true
  vector : template.joins ≠ [] → t.shape.isVector = true

/-- **What a type is missing for a template.**  A placeholder that occurs asks for something that
the type does not have, or an expansion occurs and the type is no vector. -/
def Template.Lacks (template : Template) (t : ShapedType) : Missing → Prop
  | .placeholder p => p ∈ template.placeholders ∧
      (p.asksFloat = true ∧ t.element.isFloat = false ∨
        p.asksMatrix = true ∧ t.shape.isMatrix = false)
  | .expansion j => j ∈ template.joins ∧ t.shape.isVector = false
  | .value _ => False

namespace Template

variable {template : Template} {t : ShapedType} {m : Mark}

lemma suits_of_forall (hplaceholders : ∀ p ∈ template.placeholders, p.Has t)
    (hjoins : ∀ j ∈ template.joins, t.shape.isVector = true) : template.Suits t := by
  refine ⟨?_, ?_, fun hne => ?_⟩
  · rintro ⟨p, hp, hasks⟩
    exact (hplaceholders p hp).float hasks
  · rintro ⟨p, hp, hasks⟩
    exact (hplaceholders p hp).matrix hasks
  · obtain ⟨j, hj⟩ := List.exists_mem_of_ne_nil _ hne
    exact hjoins j hj

lemma Lacks.not_suits {what : Missing} (h : template.Lacks t what) : ¬template.Suits t := by
  intro hsuits
  cases what with
  | placeholder p =>
      obtain ⟨hp, ⟨hasks, hno⟩ | ⟨hasks, hno⟩⟩ := h
      · rw [hsuits.float ⟨p, hp, hasks⟩] at hno
        cases hno
      · rw [hsuits.matrix ⟨p, hp, hasks⟩] at hno
        cases hno
  | expansion j =>
      obtain ⟨hj, hno⟩ := h
      rw [hsuits.vector (List.ne_nil_of_mem hj)] at hno
      cases hno
  | value v => exact h

lemma mem_placeholders (hm : .mark m ∈ template.pieces) {p : Placeholder}
    (hp : p ∈ m.placeholders) : p ∈ template.placeholders :=
  List.mem_flatMap.2 ⟨m, Piece.mem_marks.2 hm, hp⟩

lemma mem_joins (hm : .mark m ∈ template.pieces) {j : Join} (hj : m.join? = some j) :
    j ∈ template.joins :=
  List.mem_filterMap.2 ⟨m, Piece.mem_marks.2 hm, hj⟩

/-- A placeholder that occurs and asks for too much is missing. -/
lemma lacks_of_not_has {p : Placeholder} (hp : p ∈ template.placeholders) (h : ¬p.Has t) :
    template.Lacks t (.placeholder p) := by
  refine ⟨hp, ?_⟩
  by_contra hno
  rw [not_or, not_and, not_and, Bool.not_eq_false, Bool.not_eq_false] at hno
  exact h ⟨hno.1, hno.2⟩

end Template

/-! ## Bodies that are given -/

lemma Mark.has_of_fits {m : Mark} {t : ShapedType} (h : m.fits t = true) :
    (∀ p ∈ m.placeholders, p.Has t) ∧ ∀ j, m.join? = some j → t.shape.isVector = true := by
  have hphrase {fits : Placeholder → Bool} (hfits : ∀ p, fits p = true → p.fits t = true)
      {phrase : Phrase} (h : phrase.all (Piece.fits fits) = true) :
      ∀ p ∈ Piece.marks phrase, p.Has t := fun p hp =>
    Placeholder.has_of_fits (hfits p (List.all_eq_true.1 h (.mark p) (Piece.mem_marks.1 hp)))
  have houtside (p : Placeholder) (h : p.fitsOutside t = true) : p.fits t = true :=
    (Bool.and_eq_true_iff.1 h).1
  cases m with
  | hole p =>
      refine ⟨fun q hq => ?_, fun j hj => nomatch hj⟩
      rw [List.mem_singleton.1 hq]
      exact Placeholder.has_of_fits (houtside p h)
  | expand j func expr =>
      rw [Mark.fits, Bool.and_eq_true, Bool.and_eq_true] at h
      obtain ⟨⟨hvector, hexpr⟩, hfunc⟩ := h
      refine ⟨fun p hp => ?_, fun _ _ => hvector⟩
      rcases List.mem_append.1 hp with hp | hp
      · exact hphrase houtside hfunc p hp
      · exact hphrase (fun _ h => h) hexpr p hp

lemma Template.suits_of_fits {template : Template} {t : ShapedType}
    (h : template.fits t = true) : template.Suits t := by
  have hmark {m : Mark} (hm : m ∈ Piece.marks template.pieces) : m.fits t = true :=
    List.all_eq_true.1 h (.mark m) (Piece.mem_marks.1 hm)
  refine suits_of_forall (fun p hp => ?_) fun j hj => ?_
  · obtain ⟨m, hm, hp⟩ := List.mem_flatMap.1 hp
    exact (Mark.has_of_fits (hmark hm)).1 p hp
  · obtain ⟨m, hm, hj⟩ := List.mem_filterMap.1 hj
    exact (Mark.has_of_fits (hmark hm)).2 j hj

/-! ## The mark that is reported -/

/-- A text that cannot be filled in fails as one of its marks does. -/
lemma exists_mark_of_fillAll_eq_error {μ : Type} {fill : μ → Except Missing (List Char)}
    {ps : List (Piece μ)} {what : Missing} (h : Piece.fillAll fill ps = .error what) :
    ∃ m, .mark m ∈ ps ∧ fill m = .error what := by
  have hmap : ps.mapM (Piece.fill fill) = .error what := by
    unfold Piece.fillAll at h
    cases hparts : ps.mapM (Piece.fill fill) with
    | ok parts =>
        rw [hparts] at h
        cases h
    | error what' =>
        rw [hparts] at h
        cases h
        rfl
  obtain ⟨p, hp, hfill⟩ := mapM_eq_error hmap
  cases p with
  | text cs => cases hfill
  | mark m => exact ⟨m, hp, hfill⟩

namespace Placeholder

variable {p : Placeholder} {t : ShapedType} {what : Missing}

lemma fill_eq_error {component : Option Nat} (h : p.fill t component = .error what) :
    what = .placeholder p ∧ (p.value? t component).isSome = false := by
  unfold fill at h
  split at h
  next => cases h
  next hnone =>
    cases h
    exact ⟨rfl, by rw [hnone]; rfl⟩

/-- Outside of expansions a placeholder that is no component fails for what it asks. -/
lemma not_has_of_fill_outside (hp : p ≠ .component) (h : p.fill t none = .error what) :
    what = .placeholder p ∧ ¬p.Has t := by
  obtain ⟨hwhat, hnone⟩ := fill_eq_error h
  refine ⟨hwhat, fun hhas => ?_⟩
  have hfits : p.fits t = true := fits_of_has hhas fun hc => absurd hc hp
  have hplain : p.isPerComponent = false := isPerComponent_eq_false_iff.2 hp
  rw [isSome_value?_outside, fitsOutside, hfits, hplain] at hnone
  cases hnone

/-- At a component of a vector every placeholder fails for what it asks. -/
lemma not_has_of_fill_inside {w : Width} {k : Nat} (hw : t.shape.width? = some w)
    (hk : k < w.toNat) (h : p.fill t (some k) = .error what) :
    what = .placeholder p ∧ ¬p.Has t := by
  obtain ⟨hwhat, hnone⟩ := fill_eq_error h
  refine ⟨hwhat, fun hhas => ?_⟩
  have hvector : t.shape.isVector = true := by rw [Shape.isVector_eq, hw, Option.isSome_some]
  rw [p.isSome_value?_inside hw hk, fits_of_has hhas fun _ => hvector] at hnone
  cases hnone

end Placeholder

/-- **The mark that is reported.**  A mark of a template that cannot be filled in is an expansion
for a type that is no vector, or has a placeholder that asks for what the type does not have. -/
lemma Mark.lacks_of_fill_eq_error {m : Mark} (hm : m.WellFormed) {t : ShapedType}
    {what : Missing} (h : m.fill t = .error what) :
    (∃ p ∈ m.placeholders, what = .placeholder p ∧ ¬p.Has t) ∨
      ∃ j, m.join? = some j ∧ what = .expansion j ∧ t.shape.isVector = false := by
  cases m with
  | hole p => exact .inl ⟨p, List.mem_singleton_self p, Placeholder.not_has_of_fill_outside hm h⟩
  | expand j func expr =>
      rw [Mark.fill] at h
      cases hw : t.shape.width? with
      | none =>
          rw [hw] at h
          cases h
          exact .inr ⟨j, rfl, rfl, by rw [Shape.isVector_eq, hw]; rfl⟩
      | some w =>
          rw [hw] at h
          left
          rcases bind_eq_error_iff.1 h with h | ⟨items, -, h⟩
          · -- The expression fails at a component.
            obtain ⟨k, hk, h⟩ := mapM_eq_error h
            obtain ⟨p, hp, h⟩ := exists_mark_of_fillAll_eq_error h
            exact ⟨p, List.mem_append_right _ (Piece.mem_marks.2 hp),
              Placeholder.not_has_of_fill_inside hw (List.mem_range.1 hk) h⟩
          · rcases bind_eq_error_iff.1 h with h | ⟨called, -, h⟩
            · obtain ⟨p, hp, h⟩ := exists_mark_of_fillAll_eq_error h
              exact ⟨p, List.mem_append_left _ (Piece.mem_marks.2 hp),
                Placeholder.not_has_of_fill_outside (hm.component p hp) h⟩
            · cases h

/-! ## Both outcomes -/

namespace Template

variable {template : Template} {t : ShapedType} {e : GenError}

/-- What is reported of a template whose marks are well formed is missing. -/
lemma lacks_of_render_eq_error (hmarks : ∀ m, .mark m ∈ template.pieces → m.WellFormed)
    (h : template.render t = .error e) :
    ∃ what, e = .unresolved what template.op t ∧ template.Lacks t what := by
  unfold render at h
  split at h
  next => cases h
  next what hfill =>
    cases h
    obtain ⟨m, hm, h⟩ := exists_mark_of_fillAll_eq_error hfill
    refine ⟨what, rfl, ?_⟩
    rcases Mark.lacks_of_fill_eq_error (hmarks m hm) h with ⟨p, hp, rfl, hhas⟩ | ⟨j, hj, rfl, hno⟩
    · exact lacks_of_not_has (mem_placeholders hm hp) hhas
    · exact ⟨mem_joins hm hj, hno⟩

lemma exists_render_iff_suits (hmarks : ∀ m, .mark m ∈ template.pieces → m.WellFormed) :
    (∃ body, template.render t = .ok body) ↔ template.Suits t := by
  constructor
  · exact fun h => suits_of_fits (exists_render_eq_ok_iff.1 h)
  · intro hsuits
    cases hrender : template.render t with
    | ok body => exact ⟨body, rfl⟩
    | error e =>
        obtain ⟨what, -, hlacks⟩ := lacks_of_render_eq_error hmarks hrender
        exact absurd hsuits hlacks.not_suits

/-- **When a template gives a body, and why it does not.**  A template that can be read gives a body
for a type exactly if

* the elements are floats, if a placeholder for floats occurs anywhere in it,
* the shape is a matrix, if a placeholder for matrices occurs anywhere in it, and
* the shape is a vector, if there is an expansion in it.

So it gives none if there is an expansion and a placeholder for matrices, and for two types whose
elements are of one kind and whose shapes are of one kind it gives a body for both or for neither.
The failure is that of its operation for the type, and names a placeholder or an expansion that
occurs in it and that the type does not suit. -/
theorem render_outcome {op source : String} (h : parse op source = .ok template) :
    (∀ t, (∃ body, template.render t = .ok body) ↔ template.Suits t) ∧
    (template.joins ≠ [] → (∃ p ∈ template.placeholders, p.asksMatrix = true) →
      ∀ t body, template.render t ≠ .ok body) ∧
    (∀ t u, t.element.kind = u.element.kind → t.shape.isVector = u.shape.isVector →
      t.shape.isMatrix = u.shape.isMatrix →
      ((∃ body, template.render t = .ok body) ↔ ∃ body, template.render u = .ok body)) ∧
    ∀ t e, template.render t = .error e →
      ∃ what, e = .unresolved what op t ∧ template.Lacks t what := by
  obtain ⟨rfl, hpieces⟩ := parse_eq_ok_iff.1 h
  obtain ⟨-, -, hmarks⟩ := readPieces_spec hpieces
  have hsuits (t : ShapedType) : (∃ body, template.render t = .ok body) ↔ template.Suits t :=
    exists_render_iff_suits hmarks
  refine ⟨hsuits, fun hjoins hmatrix t body hrender => ?_, fun t u hkind hvector hmatrix => ?_,
    fun t e => lacks_of_render_eq_error hmarks⟩
  · -- No shape is both a vector and a matrix.
    have ht := (hsuits t).1 ⟨body, hrender⟩
    have hboth := And.intro (ht.vector hjoins) (ht.matrix hmatrix)
    cases hshape : t.shape <;> simp [hshape, Shape.isVector, Shape.isMatrix] at hboth
  · have hfloat : t.element.isFloat = u.element.isFloat := congrArg (· == ScalarKind.float) hkind
    rw [hsuits t, hsuits u]
    constructor
    · exact fun ⟨hf, hm, hv⟩ => ⟨hfloat ▸ hf, hmatrix ▸ hm, hvector ▸ hv⟩
    · exact fun ⟨hf, hm, hv⟩ => ⟨hfloat ▸ hf, hmatrix ▸ hm, hvector ▸ hv⟩

/-- A placeholder for matrices in the function of a chain is enough for a template to give no body
for any type. -/
theorem render_outcome_mixed :
    parse "least" "{@chain:min_{VC}:v.{c}}" =
      .ok ⟨"least", [.mark (.expand .chain [.text "min_".toList, .mark .column]
        [.text "v.".toList, .mark .component])]⟩ ∧
    ∀ t body, render ⟨"least", [.mark (.expand .chain [.text "min_".toList, .mark .column]
      [.text "v.".toList, .mark .component])]⟩ t ≠ .ok body :=
  have h : parse "least" "{@chain:min_{VC}:v.{c}}" =
      .ok ⟨"least", [.mark (.expand .chain [.text "min_".toList, .mark .column]
        [.text "v.".toList, .mark .component])]⟩ := by
    decide
  ⟨h, (render_outcome h).2.1 (by decide) (by decide)⟩

end Template

end MathHeader
