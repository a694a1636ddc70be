import MathHeader.Proofs.Template.Reading

/-!
# Templates put together

A template can be put together from two sources as long as the cut goes through nothing: the first
source can be read by itself, and it does not end in a brace with nothing but a name behind it,
which the second source could turn into a mark.  Then whatever is wrong with the whole is wrong with
the second part, and the body of the whole is the two bodies, one after the other:
`Template.parse_append`.

Where the sources meet, a text of the first may join one of the second, so the pieces of the whole
are not those of the parts.  They are filled in alike, however, since merging texts makes no
difference to the result: `Piece.fillAll_mergeTexts`.
-/

namespace MathHeader

variable {μ : Type}

/-! ## Pieces side by side -/

namespace Piece

variable {fill : μ → Except Missing (List Char)}

lemma fillAll_append (ps qs : List (Piece μ)) :
    fillAll fill (ps ++ qs) = (do
      let front ← fillAll fill ps
      let rest ← fillAll fill qs
      pure (front ++ rest)) := by
  unfold fillAll
  rw [List.mapM_append]
  cases ps.mapM (Piece.fill fill) with
  | error what => rfl
  | ok front =>
      cases qs.mapM (Piece.fill fill) with
      | error what => rfl
      | ok rest => exact congrArg Except.ok List.flatten_append

lemma fillAll_singleton (p : Piece μ) : fillAll fill [p] = p.fill fill := by
  unfold fillAll
  rw [List.mapM_cons, List.mapM_nil]
  cases p.fill fill with
  | error what => rfl
  | ok cs => exact congrArg Except.ok (List.append_nil cs)

/-- It makes no difference whether two texts are merged. -/
lemma fillAll_attach (p : Piece μ) (ps : List (Piece μ)) :
    fillAll fill (p.attach ps) = fillAll fill (p :: ps) := by
  unfold attach
  split
  next cs ds ps =>
    have htexts : fillAll fill [text cs, text ds] = pure (cs ++ ds) := by
      rw [← List.singleton_append, fillAll_append, fillAll_singleton, fillAll_singleton]
      rfl
    have hone : fillAll fill [text (cs ++ ds)] = pure (cs ++ ds) := fillAll_singleton _
    rw [← List.singleton_append, fillAll_append, hone, ← htexts, ← fillAll_append]
    rfl
  next => rfl

/-- **Merging makes no difference.**  Pieces are filled in alike before and after their texts are
merged. -/
lemma fillAll_mergeTexts (ps : List (Piece μ)) :
    fillAll fill (mergeTexts ps) = fillAll fill ps := by
  induction ps with
  | nil => rfl
  | cons p ps ih =>
      rw [mergeTexts_cons, fillAll_attach, ← List.singleton_append, fillAll_append, ih,
        ← fillAll_append, List.singleton_append]

end Piece

/-! ## Sources side by side -/

namespace Template

/-- The body of pieces side by side is the body of the first followed by that of the second. -/
lemma render_mergeTexts_append (op : String) (ps qs : List (Piece Mark)) (type : ShapedType) :
    render ⟨op, Piece.mergeTexts (ps ++ qs)⟩ type = (do
      let body₁ ← render ⟨op, Piece.mergeTexts ps⟩ type
      let body₂ ← render ⟨op, Piece.mergeTexts qs⟩ type
      pure (body₁ ++ body₂)) := by
  unfold render
  dsimp only
  rw [Piece.fillAll_mergeTexts, Piece.fillAll_mergeTexts, Piece.fillAll_mergeTexts,
    Piece.fillAll_append]
  cases Piece.fillAll (Mark.fill type) ps with
  | error what => rfl
  | ok front =>
      cases Piece.fillAll (Mark.fill type) qs with
      | error what => rfl
      | ok rest => exact congrArg Except.ok String.ofList_append

/-- **Sources side by side.**  Let a source be read, and let it not end in a brace with nothing but
a name behind it.  Another source can be put behind it exactly if it can be read, and if it cannot,
the fault of the whole is that of the second source.  For every type the body of the whole is the
body of the first followed by that of the second; if one of them cannot be filled in, the whole
fails as the first that fails. -/
theorem parse_append {op s₁ s₂ : String} {t₁ : Template} (h₁ : parse op s₁ = .ok t₁)
    (hend : ¬EndsOpen s₁.toList) :
    (∀ e, parse op (s₁ ++ s₂) = .error e ↔ parse op s₂ = .error e) ∧
    ∀ t₂, parse op s₂ = .ok t₂ → ∃ t, parse op (s₁ ++ s₂) = .ok t ∧
      ∀ type, t.render type = (do
        let body₁ ← t₁.render type
        let body₂ ← t₂.render type
        pure (body₁ ++ body₂)) := by
  obtain ⟨op', pieces⟩ := t₁
  obtain ⟨rfl, hpieces⟩ := parse_eq_ok_iff.1 h₁
  obtain ⟨qs₁, hqs₁, rfl⟩ := map_eq_ok_iff.1 hpieces
  -- The end of the first source is closed, so the lexemes of the whole are those of the two.
  have hwhole : readPieces (s₁ ++ s₂) =
      (fun qs₂ => Piece.mergeTexts (qs₁ ++ qs₂)) <$>
        (lexemes s₂.toList).mapM Lexeme.inTemplate := by
    have hopened : ∀ p, Lexeme.inTemplate .opened ≠ .ok p := fun _ h => by cases h
    rw [readPieces, String.toList_append, Piece.ofChars,
      mapM_lexemes_append hopened hqs₁ (apart_of_not_endsOpen hend _)]
    cases (lexemes s₂.toList).mapM Lexeme.inTemplate <;> rfl
  have hrest : readPieces s₂ =
      (Piece.mergeTexts ·) <$> (lexemes s₂.toList).mapM Lexeme.inTemplate := rfl
  unfold parse
  rw [hwhole, hrest]
  cases (lexemes s₂.toList).mapM Lexeme.inTemplate with
  | error fault =>
      refine ⟨fun e => Iff.rfl, fun t₂ h₂ => ?_⟩
      cases h₂
  | ok qs₂ =>
      refine ⟨fun e => ?_, fun t₂ h₂ => ?_⟩
      · constructor <;> intro h <;> cases h
      · cases h₂
        exact ⟨_, rfl, render_mergeTexts_append op' qs₁ qs₂⟩

/-- The front of a block, whose brace is closed by the second source only. -/
theorem parse_append_block :
    ¬EndsOpen "\x7b {V} r = {@vec:-a.{c}};".toList ∧
    parse "negate" ("\x7b {V} r = {@vec:-a.{c}};" ++ " {R}\x7d\x7b@vec") =
      .error (.template "negate" .unterminatedExpansion) ∧
    ∃ t, parse "negate" ("\x7b {V} r = {@vec:-a.{c}};" ++ " return r; \x7d") = .ok t ∧
      t.render ⟨.f32, .vector .two⟩ =
        .ok "\x7b f32x2 r = rm_f32x2(-a.x, -a.y); return r; \x7d" := by
  have h₁ : parse "negate" "\x7b {V} r = {@vec:-a.{c}};" = .ok ⟨"negate",
      [.text "\x7b ".toList, .mark (.hole .operand), .text " r = ".toList,
       .mark (.expand .vector [] [.text "-a.".toList, .mark .component]), .text [';']]⟩ := by
    decide
  have h₂ : parse "negate" " return r; \x7d" =
      .ok ⟨"negate", [.text " return r; \x7d".toList]⟩ := by
    decide
  have hend : ¬EndsOpen "\x7b {V} r = {@vec:-a.{c}};".toList := by
    have hlast : "\x7b {V} r = {@vec:-a.{c}};".toList =
        "\x7b {V} r = {@vec:-a.{c}}".toList ++ [';'] := by
      decide
    rw [hlast]
    exact not_endsOpen_concat (by decide) (by decide) _
  obtain ⟨t, ht, hrender⟩ := (parse_append h₁ hend).2 _ h₂
  refine ⟨hend, ((parse_append h₁ hend).1 _).2 (by decide), t, ht, ?_⟩
  rw [hrender]
  decide

end Template

end MathHeader
