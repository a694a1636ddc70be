import MathHeader.Shape

/-!
# Taxonomies

A header may be generated for some of the scalar types only.  A `Taxonomy` is that choice.  The
order of the types in the header does not depend on how the choice was written down, so a
taxonomy is a sublist of the list of all types: `ofList` forgets order and repetition.

Comparisons return vectors of `bool` whatever they compare.  These vector types are therefore
declared as soon as any type is chosen, `bool` or not.
-/

namespace MathHeader

/-! ## Choices of scalar types -/

/-- The scalar types that a header is generated for, in the order of the header. -/
structure Taxonomy where
  scalars : List Scalar
  sublist : scalars.Sublist Scalar.all

namespace Taxonomy

@[ext] theorem ext {t u : Taxonomy} (h : t.scalars = u.scalars) : t = u := by
  cases t
  cases u
  cases h
  rfl

/-- Every scalar type. -/
def standard : Taxonomy :=
  ⟨Scalar.all, List.Sublist.refl _⟩

def ofList (wanted : List Scalar) : Taxonomy :=
  ⟨Scalar.all.filter wanted.contains, List.filter_sublist⟩

/-- Whether a type is chosen. -/
def contains (t : Taxonomy) (s : Scalar) : Bool :=
  t.scalars.contains s

theorem mem_ofList {wanted : List Scalar} {s : Scalar} :
    s ∈ (ofList wanted).scalars ↔ s ∈ wanted := by
  simp [ofList, Scalar.mem_all]

/-! ## The types of a choice -/

/-- The element types that get vectors: the chosen ones, and `bool` with any of them. -/
def vectorElements (t : Taxonomy) : List Scalar :=
  Scalar.all.filter fun s => t.contains s || (s == .bool && !t.scalars.isEmpty)

/-- Every type that operations are generated for, by element and then by shape. -/
def combinations (t : Taxonomy) : List ShapedType :=
  t.scalars.flatMap fun s => Shape.all.map fun shape => ⟨s, shape⟩

theorem mem_combinations {t : Taxonomy} {ty : ShapedType} :
    ty ∈ t.combinations ↔ ty.element ∈ t.scalars := by
  simp only [combinations, List.mem_flatMap, List.mem_map]
  constructor
  · rintro ⟨s, hs, shape, -, rfl⟩
    exact hs
  · intro h
    exact ⟨ty.element, h, ty.shape, ty.shape.mem_all, rfl⟩

/-- Every type that needs a structure: the vectors by element and width, then the matrices of the
chosen types. -/
def declared (t : Taxonomy) : List ShapedType :=
  (t.vectorElements.flatMap fun s => Width.all.map fun w => .ofWidth s w) ++
    t.combinations.filter fun ty => ty.shape.isMatrix

theorem mem_declared {t : Taxonomy} {ty : ShapedType} :
    ty ∈ t.declared ↔ (∃ s ∈ t.vectorElements, ∃ w, ty = .ofWidth s w) ∨
      ty ∈ t.combinations ∧ ty.shape.isMatrix = true := by
  simp only [declared, List.mem_append, List.mem_flatMap, List.mem_map, List.mem_filter]
  constructor
  · rintro (⟨s, hs, w, -, rfl⟩ | hmatrix)
    · exact .inl ⟨s, hs, w, rfl⟩
    · exact .inr hmatrix
  · rintro (⟨s, hs, w, rfl⟩ | hmatrix)
    · exact .inl ⟨s, hs, w, w.mem_all, rfl⟩
    · exact .inr hmatrix

end Taxonomy

end MathHeader
