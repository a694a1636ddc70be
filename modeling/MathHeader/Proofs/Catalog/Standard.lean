import MathHeader.Catalog.Standard
import MathHeader.Identifier
import MathHeader.Proofs.Operation.Instantiate
import Mathlib.Data.List.Flatten
import Mathlib.Data.List.Nodup

/-!
# Facts about the standard catalog

The tables of the standard catalog are closed, so what is said of them here is found by going
through their rows: each template can be read and fits every type that its operation exists for
(`exists_instantiate_of_standard`), and for one shape no two functions get the same name
(`nodup_markedNames`).

Reading the characters of a long text one after the other is slow, since every step decodes the text
from its front.  The templates of the catalog are plain text, a byte for each character, and
`byteChars` reads all of the bytes at once; `toList_eq_byteChars` says that nothing else changes.
-/

namespace MathHeader

/-! ## Plain text -/

namespace Text

def byteChars (s : String) : List Char :=
  s.toByteArray.data.toList.map fun b => Char.ofNat b.toNat

/-- Whether every byte of a text is a character of its own. -/
def isPlain (s : String) : Bool :=
  s.toByteArray.data.toList.all (· < 128)

/-- A byte of a plain text is the whole code of its character. -/
lemma utf8EncodeChar_ofNat {b : UInt8} (h : b < 128) :
    String.utf8EncodeChar (Char.ofNat b.toNat) = [b] := by
  have hall : ∀ n < 128, String.utf8EncodeChar (Char.ofNat n) = [UInt8.ofNat n] := by decide
  rw [hall b.toNat h, UInt8.ofNat_toNat]

lemma toList_eq_byteChars {s : String} (h : isPlain s = true) : s.toList = byteChars s := by
  have hbytes : (byteChars s).flatMap String.utf8EncodeChar = s.toByteArray.data.toList := by
    rw [byteChars, List.flatMap_map]
    have hcongr : ∀ b ∈ s.toByteArray.data.toList,
        String.utf8EncodeChar (Char.ofNat b.toNat) = [b] := fun b hb =>
      utf8EncodeChar_ofNat (of_decide_eq_true (List.all_eq_true.1 h b hb))
    rw [List.flatMap_congr hcongr, List.flatMap_singleton']
  rw [← String.toList_ofList (l := byteChars s)]
  refine congrArg String.toList (String.toByteArray_inj.1 (ByteArray.ext ?_))
  rw [String.toByteArray_ofList, List.utf8Encode, hbytes, List.data_toByteArray]

end Text

/-! ## Rows -/

namespace OperationSpec

/-- The operation that a declaration with plain templates describes. -/
def readPlain (spec : OperationSpec) : Except TemplateFault Operation := do
  let bodies ← spec.bodies.mapM fun (types, source) => do
    pure (types, ⟨spec.name, ← Piece.ofChars Lexeme.inTemplate (Text.byteChars source)⟩)
  pure { spec with bodies := bodies }

/-- Whether the templates of a row are plain and can be read, and the row fits every type that its
operation exists for. -/
def isComplete (spec : OperationSpec) : Bool :=
  spec.bodies.all (fun body => Text.isPlain body.2) &&
  match spec.readPlain with
  | .ok o => Taxonomy.standard.combinations.all fun t => !o.appliesTo t || o.fits t
  | .error _ => false

lemma parse_eq_ok {op source : String} (hplain : Text.isPlain source = true)
    {ps : List (Piece Mark)}
    (h : Piece.ofChars Lexeme.inTemplate (Text.byteChars source) = .ok ps) :
    Template.parse op source = .ok ⟨op, ps⟩ := by
  rw [Template.parse, Template.readPieces, Text.toList_eq_byteChars hplain, h]

lemma ofSpec_eq_ok {spec : OperationSpec} {o : Operation}
    (hplain : ∀ body ∈ spec.bodies, Text.isPlain body.2 = true) (h : spec.readPlain = .ok o) :
    Operation.ofSpec spec = .ok o := by
  obtain ⟨bodies, hbodies, h⟩ := bind_eq_ok_iff.1 h
  cases h
  refine bind_eq_ok_iff.2 ⟨bodies, ?_, rfl⟩
  rw [mapM_eq_ok_iff] at hbodies ⊢
  refine ((List.forall₂_and_left _ _).2 ⟨hplain, hbodies⟩).imp ?_
  rintro ⟨types, source⟩ body ⟨hsource, hbody⟩
  obtain ⟨ps, hps, hbody⟩ := bind_eq_ok_iff.1 hbody
  cases hbody
  exact bind_eq_ok_iff.2 ⟨_, parse_eq_ok hsource hps, rfl⟩

lemma mem_combinations_standard (t : ShapedType) : t ∈ Taxonomy.standard.combinations :=
  Taxonomy.mem_combinations.2 t.element.mem_all

lemma exists_ofSpec {spec : OperationSpec} (h : spec.isComplete = true) :
    ∃ o, Operation.ofSpec spec = .ok o ∧
      ∀ t, o.appliesTo t = true → ∃ fs, o.instantiate t = .ok fs := by
  rw [isComplete, Bool.and_eq_true] at h
  obtain ⟨hplain, hfits⟩ := h
  cases hread : spec.readPlain with
  | error fault => simp [hread] at hfits
  | ok o =>
      rw [hread] at hfits
      refine ⟨o, ofSpec_eq_ok (List.all_eq_true.1 hplain) hread, fun t happlies => ?_⟩
      have ht := List.all_eq_true.1 hfits t (mem_combinations_standard t)
      rw [happlies, Bool.not_true, Bool.false_or] at ht
      exact Operation.exists_instantiate_eq_ok_iff.2 ht

lemma isComplete_of_mem : ∀ spec ∈ Catalog.standardRows, spec.isComplete = true := by
  decide +kernel

end OperationSpec

/-! ## The catalog -/

namespace Catalog

/-- The standard catalog exists: every template in it can be read. -/
lemma exists_standard_eq_ok : ∃ catalog, standard = .ok catalog := by
  have hrows : ∀ spec ∈ standardRows, ∃ o, Operation.ofSpec spec = .ok o := by
    intro spec hspec
    obtain ⟨o, ho, -⟩ := OperationSpec.exists_ofSpec (OperationSpec.isComplete_of_mem spec hspec)
    exact ⟨o, ho⟩
  obtain ⟨operations, hoperations⟩ := exists_mapM_eq_ok_iff.2 hrows
  exact ⟨⟨operations⟩, by rw [standard, ofSpecs, hoperations]; rfl⟩

lemma forall₂_standardRows {catalog : Catalog} (h : standard = .ok catalog) :
    List.Forall₂ (fun spec o => Operation.ofSpec spec = .ok o) standardRows
      catalog.operations := by
  rw [standard, ofSpecs] at h
  cases hread : standardRows.mapM Operation.ofSpec with
  | error e =>
      rw [hread] at h
      cases h
  | ok operations =>
      rw [hread] at h
      cases h
      exact mapM_eq_ok_iff.1 hread

/-- **The standard catalog is complete.**  Each operation gives functions for every type that it
exists for. -/
theorem exists_instantiate_of_standard {catalog : Catalog} (h : standard = .ok catalog)
    {o : Operation} (ho : o ∈ catalog.operations) {t : ShapedType}
    (happlies : o.appliesTo t = true) : ∃ fs, o.instantiate t = .ok fs := by
  obtain ⟨spec, hspec, hread⟩ := exists_of_forall₂_of_mem (forall₂_standardRows h) ho
  obtain ⟨o', hread', hfunctions⟩ :=
    OperationSpec.exists_ofSpec (OperationSpec.isComplete_of_mem spec hspec)
  rw [hread] at hread'
  cases hread'
  exact hfunctions t happlies

end Catalog

/-! ## Names for one type -/

/-- An operation without its bodies. -/
def Operation.bare (o : Operation) : Operation :=
  { o with bodies := [] }

/-- The operation that a declaration describes, without its bodies. -/
def OperationSpec.bare (spec : OperationSpec) : Operation :=
  { spec with bodies := [] }

lemma bare_of_ofSpec {spec : OperationSpec} {o : Operation}
    (h : Operation.ofSpec spec = .ok o) : o.bare = spec.bare := by
  obtain ⟨bodies, -, h⟩ := bind_eq_ok_iff.1 h
  cases h
  rfl

/-- The names of operations of a category for a shape, with the marks of variants. -/
def markedNames (operations : List Operation) (k : Category) (shape : Shape) : List String :=
  (operations.filter fun o => o.category == k && o.shapes.contains shape).flatMap fun o =>
    (.base :: o.variants shape).map (·.decorate o.name)

/-- Bodies have no influence on names. -/
lemma markedNames_map_bare (operations : List Operation) (k : Category) (shape : Shape) :
    markedNames (operations.map Operation.bare) k shape = markedNames operations k shape := by
  rw [markedNames, List.filter_map, List.flatMap_map]
  rfl

namespace Catalog

lemma map_bare_standard {catalog : Catalog} (h : standard = .ok catalog) :
    catalog.operations.map Operation.bare = standardRows.map OperationSpec.bare := by
  rw [← List.forall₂_eq_eq_eq, List.forall₂_map_left_iff, List.forall₂_map_right_iff]
  exact List.Forall₂.flip ((forall₂_standardRows h).imp fun _ _ hread => bare_of_ofSpec hread)

lemma isWordChar_of_mem_standard {catalog : Catalog} (h : standard = .ok catalog) {o : Operation}
    (ho : o ∈ catalog.operations) : o.name.toList.all isWordChar = true := by
  have hall : ∀ spec ∈ standardRows, spec.name.toList.all isWordChar = true := by
    decide
  obtain ⟨spec, hspec, hread⟩ := exists_of_forall₂_of_mem (forall₂_standardRows h) ho
  have hname : o.name = spec.name := congrArg Operation.name (bare_of_ofSpec hread)
  rw [hname]
  exact hall spec hspec

/-- **No two functions of one type have the same name.**  The marks of variants included, the names
of the operations that the catalog has for a shape are distinct, in all categories together. -/
lemma nodup_markedNames {catalog : Catalog} (h : standard = .ok catalog) (shape : Shape) :
    (Category.all.flatMap fun k => markedNames catalog.operations k shape).Nodup := by
  have hall : ∀ shape ∈ Shape.all, (Category.all.flatMap fun k =>
      markedNames (standardRows.map OperationSpec.bare) k shape).Nodup := by
    decide
  have hshape := hall shape shape.mem_all
  simp only [← map_bare_standard h, markedNames_map_bare] at hshape
  exact hshape

lemma sublist_markedNames (catalog : Catalog) (k : Category) (t : ShapedType) :
    ((catalog.operationsFor k t).flatMap fun o =>
      (.base :: o.variants t.shape).map (·.decorate o.name)).Sublist
        (markedNames catalog.operations k t.shape) := by
  refine List.Sublist.flatMap (List.monotone_filter_right _ fun o ho => ?_) _
  simp only [Operation.appliesTo, Bool.and_eq_true] at ho ⊢
  exact ⟨ho.1, ho.2.2⟩

end Catalog

end MathHeader
