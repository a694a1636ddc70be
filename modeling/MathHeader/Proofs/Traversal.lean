import Mathlib.Data.List.Forall2

/-!
# Traversals that can fail

A generation is a chain of steps, each of which may fail.  These lemmas say when a chain of two
steps succeeds and when it fails (`bind_eq_ok_iff`, `bind_eq_error_iff`), and the same of a step
that is done for every element of a list (`mapM_eq_ok_iff`, `mapM_eq_error_iff`).
-/

namespace MathHeader

variable {α β ε : Type}

/-! ## Two steps -/

lemma bind_eq_ok_iff {x : Except ε α} {f : α → Except ε β} {b : β} :
    x >>= f = .ok b ↔ ∃ a, x = .ok a ∧ f a = .ok b := by
  cases x with
  | error e =>
      have hbind : (.error e : Except ε α) >>= f = .error e := rfl
      simp [hbind]
  | ok a =>
      have hbind : (.ok a : Except ε α) >>= f = f a := rfl
      simp [hbind]

lemma bind_eq_error_iff {x : Except ε α} {f : α → Except ε β} {e : ε} :
    x >>= f = .error e ↔ x = .error e ∨ ∃ a, x = .ok a ∧ f a = .error e := by
  cases x with
  | error e' =>
      have hbind : (.error e' : Except ε α) >>= f = .error e' := rfl
      simp [hbind]
  | ok a =>
      have hbind : (.ok a : Except ε α) >>= f = f a := rfl
      simp [hbind]

lemma map_eq_ok_iff {f : α → β} {x : Except ε α} {b : β} :
    f <$> x = .ok b ↔ ∃ a, x = .ok a ∧ f a = b := by
  cases x <;> simp [Functor.map, Except.map]

/-- A chain can succeed exactly if its second step can, after the first one. -/
lemma exists_bind_eq_ok_iff {x : Except ε α} {f : α → Except ε β} :
    (∃ b, x >>= f = .ok b) ↔ ∃ a, x = .ok a ∧ ∃ b, f a = .ok b := by
  constructor
  · rintro ⟨b, hb⟩
    obtain ⟨a, ha, hb⟩ := bind_eq_ok_iff.1 hb
    exact ⟨a, ha, b, hb⟩
  · rintro ⟨a, ha, b, hb⟩
    exact ⟨b, bind_eq_ok_iff.2 ⟨a, ha, hb⟩⟩

/-- A chain whose second step cannot fail fails as its first step does. -/
lemma bind_pure_eq_error_iff {x : Except ε α} {f : α → β} {e : ε} :
    (x >>= fun a => pure (f a)) = .error e ↔ x = .error e := by
  rw [bind_eq_error_iff]
  exact or_iff_left fun ⟨_, _, h⟩ => nomatch h

lemma exists_bind_pure_eq_ok_iff {x : Except ε α} {f : α → β} :
    (∃ b, (x >>= fun a => pure (f a)) = .ok b) ↔ ∃ a, x = .ok a := by
  rw [exists_bind_eq_ok_iff]
  exact exists_congr fun a => and_iff_left ⟨_, rfl⟩

/-! ## A step for every element -/

lemma mapM_eq_ok_iff {f : α → Except ε β} {xs : List α} {ys : List β} :
    xs.mapM f = .ok ys ↔ List.Forall₂ (fun x y => f x = .ok y) xs ys := by
  induction xs generalizing ys with
  | nil =>
      rw [List.mapM_nil, List.forall₂_nil_left_iff]
      exact ⟨fun h => by cases h; rfl, fun h => by rw [h]; rfl⟩
  | cons x xs ih =>
      simp only [List.mapM_cons, bind_eq_ok_iff, List.forall₂_cons_left_iff, ih]
      constructor
      · rintro ⟨y, hy, rest, hrest, h⟩
        cases h
        exact ⟨y, rest, hy, hrest, rfl⟩
      · rintro ⟨y, rest, hy, hrest, rfl⟩
        exact ⟨y, hy, rest, hrest, rfl⟩

/-- Every element on the right of a pointwise relation has a partner on the left. -/
lemma exists_of_forall₂_of_mem {R : α → β → Prop} {xs : List α} {ys : List β}
    (h : List.Forall₂ R xs ys) {y : β} (hy : y ∈ ys) : ∃ x ∈ xs, R x y := by
  induction h with
  | nil => cases hy
  | @cons x y' xs ys hx _ ih =>
      rcases List.mem_cons.1 hy with rfl | hy
      · exact ⟨x, List.mem_cons_self, hx⟩
      · obtain ⟨x', hmem, hx'⟩ := ih hy
        exact ⟨x', List.mem_cons_of_mem x hmem, hx'⟩

/-- A traversal succeeds exactly if every element does. -/
lemma exists_mapM_eq_ok_iff {f : α → Except ε β} {xs : List α} :
    (∃ ys, xs.mapM f = .ok ys) ↔ ∀ x ∈ xs, ∃ y, f x = .ok y := by
  induction xs with
  | nil => exact ⟨fun _ _ h => (List.not_mem_nil h).elim, fun _ => ⟨[], rfl⟩⟩
  | cons x xs ih =>
      rw [List.mapM_cons, exists_bind_eq_ok_iff, List.forall_mem_cons, ← ih]
      constructor
      · rintro ⟨y, hy, ys, h⟩
        obtain ⟨ys', hys, -⟩ := bind_eq_ok_iff.1 h
        exact ⟨⟨y, hy⟩, ys', hys⟩
      · rintro ⟨⟨y, hy⟩, ys, hys⟩
        exact ⟨y, hy, y :: ys, bind_eq_ok_iff.2 ⟨ys, hys, rfl⟩⟩

/-- Where one step is another one with a function after it, so is its traversal. -/
lemma mapM_eq_map_mapM {γ : Type} {f : α → Except ε γ} {g : α → Except ε β} {h : β → γ}
    {xs : List α} (hf : ∀ x ∈ xs, f x = h <$> g x) :
    xs.mapM f = List.map h <$> xs.mapM g := by
  induction xs with
  | nil => rfl
  | cons x xs ih =>
      obtain ⟨hx, hxs⟩ := List.forall_mem_cons.1 hf
      rw [List.mapM_cons, List.mapM_cons, hx, ih hxs]
      cases g x with
      | error e => rfl
      | ok y => cases xs.mapM g <;> rfl

/-- **Where a traversal fails.**  It fails as the first of its elements that fails. -/
lemma mapM_eq_error_iff {f : α → Except ε β} {xs : List α} {e : ε} :
    xs.mapM f = .error e ↔ ∃ front x back, xs = front ++ x :: back ∧
      (∀ y ∈ front, ∃ b, f y = .ok b) ∧ f x = .error e := by
  induction xs with
  | nil =>
      refine ⟨fun h => (nomatch h), ?_⟩
      rintro ⟨front, x, back, h, -⟩
      exact absurd h.symm (List.append_ne_nil_of_right_ne_nil _ (List.cons_ne_nil _ _))
  | cons x xs ih =>
      have hcons : (x :: xs).mapM f = .error e ↔
          f x = .error e ∨ ∃ y, f x = .ok y ∧ xs.mapM f = .error e := by
        rw [List.mapM_cons, bind_eq_error_iff]
        exact or_congr_right (exists_congr fun y => and_congr_right fun _ => bind_pure_eq_error_iff)
      rw [hcons, ih]
      constructor
      · rintro (h | ⟨y, hy, front, x', back, rfl, hfront, h⟩)
        · exact ⟨[], x, xs, rfl, List.forall_mem_nil _, h⟩
        · exact ⟨x :: front, x', back, rfl, List.forall_mem_cons.2 ⟨⟨y, hy⟩, hfront⟩, h⟩
      · rintro ⟨front, x', back, heq, hfront, h⟩
        cases front with
        | nil =>
            cases heq
            exact .inl h
        | cons x'' front =>
            cases heq
            obtain ⟨⟨y, hy⟩, hfront⟩ := List.forall_mem_cons.1 hfront
            exact .inr ⟨y, hy, front, x', back, rfl, hfront, h⟩

lemma mapM_eq_error {f : α → Except ε β} {xs : List α} {e : ε} (h : xs.mapM f = .error e) :
    ∃ x ∈ xs, f x = .error e := by
  obtain ⟨front, x, back, rfl, -, hx⟩ := mapM_eq_error_iff.1 h
  exact ⟨x, List.mem_append_right _ List.mem_cons_self, hx⟩

end MathHeader
