import MathHeader.Proofs.Traversal
import MathHeader.Template.Render

/-!
# Templates that fit a type

A template can be filled in for a type exactly if the type has what the marks of the template ask
for.  `Template.fits` decides that without writing any text: a placeholder needs a float, a vector
or a matrix, or nothing, and an expansion needs a vector and whatever the placeholders in it need.
The component is the only placeholder whose place matters, since there is one inside an expansion
only.  `Template.exists_render_eq_ok_iff` says that the decision is right.
-/

namespace MathHeader

/-! ## What a type has to have -/

/-- Whether a type has a value for a placeholder, in an expansion at least. -/
def Placeholder.fits (t : ShapedType) : Placeholder → Bool
  | element | operand | upper => true
  | signedTwin | suffix | threshold => t.element.isFloat
  | component => t.shape.isVector
  | rows | cols | column | transposed => t.shape.isMatrix

def Placeholder.fitsOutside (t : ShapedType) (p : Placeholder) : Bool :=
  p.fits t && !p.isPerComponent

/-- Whether the mark of a piece fits, if it has one. -/
def Piece.fits {μ : Type} (fits : μ → Bool) : Piece μ → Bool
  | text _ => true
  | mark m => fits m

def Mark.fits (t : ShapedType) : Mark → Bool
  | hole p => p.fitsOutside t
  | expand _ func expr =>
    t.shape.isVector && expr.all (Piece.fits (Placeholder.fits t)) &&
      func.all (Piece.fits (Placeholder.fitsOutside t))

def Template.fits (template : Template) (t : ShapedType) : Bool :=
  template.pieces.all (Piece.fits (Mark.fits t))

/-! ## Placeholders -/

/-- The vectors are the shapes with a count of components. -/
lemma Shape.isVector_eq (s : Shape) : s.isVector = s.width?.isSome := by
  cases s <;> rfl

namespace Placeholder

lemma isSome_value?_outside (p : Placeholder) (t : ShapedType) :
    (p.value? t none).isSome = p.fitsOutside t := by
  obtain ⟨s, shape⟩ := t
  cases p with
  | signedTwin | suffix | threshold => cases s <;> rfl
  | component | rows | cols | column | transposed => cases shape <;> rfl
  | _ => rfl

lemma isSome_value?_inside (p : Placeholder) {t : ShapedType} {w : Width} {k : Nat}
    (hw : t.shape.width? = some w) (hk : k < w.toNat) :
    (p.value? t (some k)).isSome = p.fits t := by
  obtain ⟨s, shape⟩ := t
  cases shape with
  | scalar => cases hw
  | matrix rows cols => cases hw
  | vector w' =>
      cases hw
      cases p with
      | component =>
          have hcomponent : w.components[k]?.isSome = true := by
            rw [isSome_getElem?, w.length_components]
            exact hk
          exact hcomponent
      | signedTwin | suffix | threshold => cases s <;> rfl
      | _ => rfl

lemma exists_fill_eq_ok_iff {p : Placeholder} {t : ShapedType} {component : Option Nat} :
    (∃ cs, p.fill t component = .ok cs) ↔ (p.value? t component).isSome = true := by
  unfold fill
  cases p.value? t component <;> simp

end Placeholder

/-! ## Texts with marks -/

/-- A text with marks can be filled in exactly if every mark in it can. -/
lemma exists_fillAll_eq_ok_iff {μ : Type} {fill : μ → Except Missing (List Char)}
    {fits : μ → Bool} (hfill : ∀ m, (∃ cs, fill m = .ok cs) ↔ fits m = true)
    {ps : List (Piece μ)} :
    (∃ cs, Piece.fillAll fill ps = .ok cs) ↔ ps.all (Piece.fits fits) = true := by
  have hpiece (p : Piece μ) : (∃ cs, p.fill fill = .ok cs) ↔ p.fits fits = true := by
    cases p with
    | text cs => exact ⟨fun _ => rfl, fun _ => ⟨cs, rfl⟩⟩
    | mark m => exact hfill m
  have hmap : (∃ cs, Piece.fillAll fill ps = .ok cs) ↔
      ∃ parts, ps.mapM (Piece.fill fill) = .ok parts := by
    unfold Piece.fillAll
    cases ps.mapM (Piece.fill fill) <;> simp [Functor.map, Except.map]
  rw [hmap, exists_mapM_eq_ok_iff, List.all_eq_true]
  exact forall₂_congr fun p _ => hpiece p

/-! ## Templates -/

lemma exists_fillAll_outside_iff {t : ShapedType} {phrase : Phrase} :
    (∃ cs, Piece.fillAll (Placeholder.fill t none) phrase = .ok cs) ↔
      phrase.all (Piece.fits (Placeholder.fitsOutside t)) = true :=
  exists_fillAll_eq_ok_iff fun p => by
    rw [Placeholder.exists_fill_eq_ok_iff, p.isSome_value?_outside]

lemma exists_fillAll_inside_iff {t : ShapedType} {w : Width} {k : Nat}
    (hw : t.shape.width? = some w) (hk : k < w.toNat) {phrase : Phrase} :
    (∃ cs, Piece.fillAll (Placeholder.fill t (some k)) phrase = .ok cs) ↔
      phrase.all (Piece.fits (Placeholder.fits t)) = true :=
  exists_fillAll_eq_ok_iff fun p => by
    rw [Placeholder.exists_fill_eq_ok_iff, p.isSome_value?_inside hw hk]

/-- The expression of an expansion can be filled in for all components exactly if it fits.  Since
every vector has a component, one of them is enough for the converse. -/
lemma exists_fill_components_iff {t : ShapedType} {w : Width} (hw : t.shape.width? = some w)
    {expr : Phrase} :
    (∃ items, ((List.range w.toNat).mapM fun k =>
        Piece.fillAll (Placeholder.fill t (some k)) expr) = .ok items) ↔
      expr.all (Piece.fits (Placeholder.fits t)) = true := by
  have hpos : 0 < w.toNat := by cases w <;> decide
  rw [exists_mapM_eq_ok_iff]
  constructor
  · intro h
    exact (exists_fillAll_inside_iff hw hpos).1 (h 0 (List.mem_range.2 hpos))
  · intro h k hk
    exact (exists_fillAll_inside_iff hw (List.mem_range.1 hk)).2 h

lemma Mark.exists_fill_eq_ok_iff {m : Mark} {t : ShapedType} :
    (∃ cs, m.fill t = .ok cs) ↔ m.fits t = true := by
  cases m with
  | hole p =>
      rw [Mark.fill, Mark.fits, Placeholder.exists_fill_eq_ok_iff, p.isSome_value?_outside]
  | expand j func expr =>
      rw [Mark.fill, Mark.fits, Shape.isVector_eq]
      cases hw : t.shape.width? with
      | none => simp
      | some w =>
          rw [Option.isSome_some, Bool.true_and, Bool.and_eq_true,
            ← exists_fill_components_iff hw, ← exists_fillAll_outside_iff]
          simp only [exists_bind_eq_ok_iff]
          constructor
          · rintro ⟨items, hitems, called, hcalled, -⟩
            exact ⟨⟨items, hitems⟩, called, hcalled⟩
          · rintro ⟨⟨items, hitems⟩, called, hcalled⟩
            exact ⟨items, hitems, called, hcalled, _, rfl⟩

/-- **Templates that can be filled in.**  A template gives a body for a type exactly if the type has
what its marks ask for. -/
theorem Template.exists_render_eq_ok_iff {template : Template} {t : ShapedType} :
    (∃ body, template.render t = .ok body) ↔ template.fits t = true := by
  rw [Template.fits, ← exists_fillAll_eq_ok_iff fun _ => Mark.exists_fill_eq_ok_iff]
  unfold Template.render
  cases Piece.fillAll (Mark.fill t) template.pieces <;> simp

end MathHeader
