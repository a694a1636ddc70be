import MathHeader.Proofs.Generation.Event
import MathHeader.Session.Registry

/-!
# The history of a session

Who owns a name follows from the steps that were performed: of all the owners that were offered for
it the first one has it, provided that the name can be declared (`Follows`).  This is so whatever
fails on the way, since a step that fails leaves the registry as it was (`Does`, `perform_does`).

`first_claim_wins` puts together what a user of a session relies on.
-/

namespace MathHeader

/-! ## What steps offer -/

/-- The name that a step claims, with the owner that it offers. -/
def Step.offer? : Step → Option (String × String)
  | claim name owner => some (name, owner)
  | declare name owner => some (name, owner)
  | define _ key name => some (name, key.describe)
  | intern _ => none
  | finish _ _ => none

/-- The names that some steps claim, each with its owner, the earliest first. -/
def offers (steps : List Step) : List (String × String) :=
  steps.filterMap Step.offer?

/-- The text that a step answers with, if it succeeds. -/
def Step.text? : Step → Option String
  | intern text => some text
  | claim name _ => some name
  | declare name _ => some name
  | define _ _ name => some name
  | finish _ _ => none

/-- The statistics after a step that succeeds. -/
def Step.counted (s : Stats) : Step → Stats
  | intern _ | claim _ _ => s
  | declare _ _ => Session.countDeclaration s
  | define category key _ => Session.countFunction s category key.variant
  | finish _ bytes => Session.countSection s bytes

lemma Step.text?_of_offer? {step : Step} {name owner : String}
    (h : step.offer? = some (name, owner)) : step.text? = some name := by
  cases step <;> cases h <;> rfl

/-! ## A step in place -/

namespace Registry

variable {α β : Type} {x : Action α} {f : α → Action β} {a : α} {e : GenError} {r r' : Registry}

lemma bind_of_ok (h : x r = .ok a r') : (x >>= f) r = f a r' := by
  simp only [bind, EStateM.bind, h]

lemma bind_of_error (h : x r = .error e r') : (x >>= f) r = .error e r' := by
  simp only [bind, EStateM.bind, h]

lemma get_bind {f : Registry → Action β} : (get >>= f) r = f r r := rfl

/-- Whether a text is kept already or not, the answer is that text and the session is the same. -/
lemma intern_eq (text : String) (r : Registry) :
    ∃ texts, intern text r = .ok text ⟨texts, r.session⟩ := by
  rw [intern, get_bind]
  cases hfind : r.texts.find? (· == text) with
  | some kept =>
      obtain rfl : kept = text := by simpa using List.find?_some hfind
      exact ⟨r.texts, rfl⟩
  | none => exact ⟨text :: r.texts, rfl⟩

/-- **What an action does.**  It answers with `a` and changes the session as `outcome` says; if that
is a failure, it fails with it and leaves the registry as it was, to the last text. -/
def Does (x : Action α) (r : Registry) (a : α) (outcome : Except GenError Session) : Prop :=
  (∃ s texts, outcome = .ok s ∧ x r = .ok a ⟨texts, s⟩) ∨
    ∃ e, outcome = .error e ∧ x r = .error e r

lemma Does.map {outcome : Except GenError Session} (h : Does x r a outcome) (g : α → β) :
    Does (g <$> x) r (g a) outcome := by
  rcases h with ⟨s, texts, houtcome, hx⟩ | ⟨e, houtcome, hx⟩
  · exact .inl ⟨s, texts, houtcome, bind_of_ok hx⟩
  · exact .inr ⟨e, houtcome, bind_of_error hx⟩

/-- A claim fails before anything is changed. -/
lemma claim_does (name owner : String) (r : Registry) :
    Does (claim name owner) r name (r.session.claim name owner) := by
  rw [claim, Session.claim, NameTable.claim]
  by_cases hid : isIdentifier name = true
  · rw [if_pos hid, if_pos hid, Does, get_bind]
    cases howner : r.session.names.owner? name with
    | some first => exact .inr ⟨_, rfl, rfl⟩
    | none =>
        obtain ⟨texts, hname⟩ := intern_eq name r
        obtain ⟨texts', howner⟩ := intern_eq owner ⟨texts, r.session⟩
        refine .inl ⟨_, texts', rfl, ?_⟩
        exact (bind_of_ok hname).trans (bind_of_ok howner)
  · rw [if_neg hid, if_neg hid]
    exact .inr ⟨_, rfl, rfl⟩

lemma claimCounted_does (name owner : String) (change : Stats → Stats) (r : Registry) :
    Does (claimCounted name owner change) r name
      (r.session.names.claim name owner >>= fun names =>
        pure ⟨names, change r.session.stats⟩) := by
  rcases claim_does name owner r with ⟨s, texts, hclaim, hx⟩ | ⟨e, hclaim, hx⟩
  · obtain ⟨names, hnames, hs⟩ := bind_eq_ok_iff.1 hclaim
    cases hs
    exact .inl ⟨_, texts, by rw [hnames]; rfl, bind_of_ok hx⟩
  · obtain hnames | ⟨names, -, hs⟩ := bind_eq_error_iff.1 hclaim
    · exact .inr ⟨e, by rw [hnames]; rfl, bind_of_error hx⟩
    · cases hs

/-- **A step in place.**  Performing a step does to the session what the step does. -/
theorem perform_does (step : Step) (r : Registry) :
    Does step.perform r step.text? (step.apply r.session) := by
  cases step with
  | intern text =>
      obtain ⟨texts, hintern⟩ := intern_eq text r
      exact .inl ⟨r.session, texts, rfl, bind_of_ok hintern⟩
  | claim name owner => exact (claim_does name owner r).map some
  | declare name owner => exact (claimCounted_does name owner _ r).map some
  | define category key name => exact (claimCounted_does name key.describe _ r).map some
  | finish title bytes => exact .inl ⟨_, r.texts, rfl, rfl⟩

lemma answer_eq (step : Step) (r : Registry) :
    step.answer r = (step.apply r.session).map fun _ => step.text? := by
  rcases perform_does step r with ⟨s, texts, happly, hperform⟩ | ⟨e, happly, hperform⟩
  · rw [Step.answer, hperform, happly, Except.map]
  · rw [Step.answer, hperform, happly, Except.map]

lemma session_next (r : Registry) (step : Step) :
    (r.next step).session = step.next r.session := by
  rcases perform_does step r with ⟨s, texts, happly, hperform⟩ | ⟨e, happly, hperform⟩
  · rw [next, hperform, Step.next, happly]
  · rw [next, hperform, Step.next, happly]

lemma eq_of_perform_eq_error {step : Step} (h : step.perform r = .error e r') : r' = r := by
  rcases perform_does step r with ⟨s, texts, -, hperform⟩ | ⟨e', -, hperform⟩
  · rw [h] at hperform
    cases hperform
  · rw [h] at hperform
    cases hperform
    rfl

lemma session_run (r : Registry) (steps : List Step) :
    (r.run steps).session = r.session.run steps := by
  induction steps generalizing r with
  | nil => rfl
  | cons step steps ih => exact (ih (r.next step)).trans (by rw [session_next]; rfl)

end Registry

/-! ## Names and statistics after a step -/

lemma Step.apply_eq (step : Step) (s : Session) :
    step.apply s =
      match step.offer? with
      | some (name, owner) =>
        (s.names.claim name owner).map fun names => ⟨names, step.counted s.stats⟩
      | none => .ok ⟨s.names, step.counted s.stats⟩ := by
  cases step <;> rfl

section Next

variable {step : Step} {s : Session} {name owner : String}

lemma Step.apply_of_offer? (h : step.offer? = some (name, owner)) (s : Session) :
    step.apply s = (s.names.claim name owner).map fun names => ⟨names, step.counted s.stats⟩ := by
  rw [Step.apply_eq, h]

lemma Step.owner?_next (h : step.offer? = some (name, owner)) (s : Session) (other : String) :
    (step.next s).names.owner? other =
      (s.names.owner? other).or
        (if other = name ∧ isIdentifier name = true then some owner else none) := by
  rw [Step.next, Step.apply_of_offer? h]
  cases hclaim : s.names.claim name owner with
  | ok names =>
      obtain ⟨hid, hnone, -⟩ := NameTable.claim_eq_ok_iff.1 hclaim
      have howner : names.owner? other = _ := NameTable.owner?_claim hclaim other
      simp only [Except.map, howner, hid, and_true]
      split
      next heq => rw [heq, hnone, Option.none_or]
      next => exact Option.or_none.symm
  | error e =>
      simp only [Except.map]
      split
      next heq =>
        -- An identifier is refused only if it has an owner.
        obtain ⟨rfl, hid⟩ := heq
        cases howner : s.names.owner? other with
        | some first => rw [Option.some_or]
        | none => simp [NameTable.claim, hid, howner] at hclaim
      next => exact Option.or_none.symm

lemma Step.names_next_of_silent (h : step.offer? = none) (s : Session) :
    (step.next s).names = s.names := by
  rw [Step.next, Step.apply_eq, h]

end Next

/-! ## Owners -/

/-- **The invariant of a history.**  A name that can be declared belongs to whom it was offered for
first, and no other name belongs to anyone. -/
def Follows (s : Session) (steps : List Step) : Prop :=
  ∀ name, s.names.owner? name =
    if isIdentifier name = true then (offers steps).lookup name else none

lemma offers_append (front rest : List Step) :
    offers (front ++ rest) = offers front ++ offers rest :=
  List.filterMap_append

lemma offers_singleton (step : Step) : offers [step] = step.offer?.toList := by
  rw [offers, List.filterMap_cons]
  cases step.offer? <;> rfl

lemma follows_fresh : Follows .fresh [] := by
  intro name
  split <;> rfl

lemma follows_next {s : Session} {steps : List Step} (hs : Follows s steps) (step : Step) :
    Follows (step.next s) (steps ++ [step]) := by
  intro other
  rw [offers_append]
  cases hoffer : step.offer? with
  | none =>
      rw [Step.names_next_of_silent hoffer, offers_singleton, hoffer, Option.toList_none,
        List.append_nil]
      exact hs other
  | some offer =>
      obtain ⟨name, owner⟩ := offer
      rw [Step.owner?_next hoffer, offers_singleton, hoffer, Option.toList_some,
        lookup_append_singleton_eq_or, hs other]
      cases hid : isIdentifier other with
      | true =>
          have hsame : other = name ∧ isIdentifier name = true ↔ other = name :=
            and_iff_left_of_imp fun heq => heq ▸ hid
          simp only [if_pos, hsame]
      | false =>
          have hother : ¬(other = name ∧ isIdentifier name = true) := by
            rintro ⟨rfl, htrue⟩
            rw [hid] at htrue
            cases htrue
          rw [if_neg hother]
          rfl

lemma run_concat (s : Session) (steps : List Step) (step : Step) :
    s.run (steps ++ [step]) = step.next (s.run steps) :=
  s.run_append steps [step]

/-- **The owners of a run.** -/
theorem follows_run (steps : List Step) : Follows (Session.fresh.run steps) steps := by
  induction steps using List.reverseRecOn with
  | nil => exact follows_fresh
  | append_singleton steps step ih =>
      rw [run_concat]
      exact follows_next ih step

lemma owner?_run {s : Session} {name owner : String} (h : s.names.owner? name = some owner)
    (steps : List Step) : (s.run steps).names.owner? name = some owner := by
  induction steps generalizing s with
  | nil => exact h
  | cons step steps ih =>
      refine ih (s := step.next s) ?_
      cases hoffer : step.offer? with
      | none => rw [Step.names_next_of_silent hoffer, h]
      | some offer => rw [Step.owner?_next hoffer, h, Option.some_or]

/-! ## Answers -/

namespace Registry

variable {r : Registry} {steps : List Step} {step : Step} {name owner : String}

lemma answer_of_follows (hr : Follows r.session steps)
    (hoffer : step.offer? = some (name, owner)) :
    step.answer r =
      match claimFault? (offers steps) name owner with
      | none => .ok (some name)
      | some e => .error e := by
  rw [answer_eq, Step.apply_of_offer? hoffer, Step.text?_of_offer? hoffer, claimFault?,
    NameTable.claim, hr name]
  cases hid : isIdentifier name with
  | true =>
      rw [if_pos rfl, if_pos rfl, if_pos rfl]
      cases (offers steps).lookup name <;> rfl
  | false => rfl

lemma answer_eq_ok_iff (hr : Follows r.session steps)
    (hoffer : step.offer? = some (name, owner)) :
    step.answer r = .ok (some name) ↔
      isIdentifier name = true ∧ name ∉ (offers steps).map (·.1) := by
  have hfault : claimFault? (offers steps) name owner = none ↔ _ := claimFault?_eq_none_iff
  rw [answer_of_follows hr hoffer, ← hfault]
  cases claimFault? (offers steps) name owner <;> simp

/-- A claim fails as its fault says. -/
lemma answer_eq_error_iff (hr : Follows r.session steps)
    (hoffer : step.offer? = some (name, owner)) {e : GenError} :
    step.answer r = .error e ↔ claimFault? (offers steps) name owner = some e := by
  rw [answer_of_follows hr hoffer]
  cases claimFault? (offers steps) name owner <;> simp

/-! ## The count of names -/

/-- Whether an answer is that a name was claimed. -/
def isClaimed (entry : Step × Except GenError (Option String)) : Bool :=
  entry.1.offer?.isSome && entry.2.isOk

lemma size_next (r : Registry) (step : Step) :
    (r.next step).session.names.size =
      r.session.names.size + if isClaimed (step, step.answer r) then 1 else 0 := by
  rw [session_next, answer_eq, isClaimed]
  cases hoffer : step.offer? with
  | none =>
      rw [Step.names_next_of_silent hoffer]
      rfl
  | some offer =>
      rw [Step.next, Step.apply_of_offer? hoffer]
      cases hclaim : r.session.names.claim offer.1 offer.2 with
      | ok names => exact NameTable.size_claim hclaim
      | error e => rfl

lemma size_run (r : Registry) (steps : List Step) :
    (r.run steps).session.names.size =
      r.session.names.size + (r.answers steps).countP isClaimed := by
  induction steps generalizing r with
  | nil => rfl
  | cons step steps ih =>
      have hrun : r.run (step :: steps) = (r.next step).run steps := rfl
      rw [hrun, ih, size_next, answers, List.countP_cons, Nat.add_assoc, Nat.add_comm (ite _ _ _)]

/-! ## All together -/

/-- **First claim wins, and failures change nothing.**  After any steps from the start:

* a name has an owner exactly if it can be declared and was offered, and then it is the owner that
  was offered first;
* a step that claims a name answers with it exactly if it can be declared and was not offered yet;
  otherwise it fails, for the name itself or with its first and its second owner;
* a step that fails leaves the registry as it was;
* no further steps remove a name or change its owner;
* keeping a text and ending a section leave the names alone;
* the count of names is that of the claims that succeeded. -/
theorem first_claim_wins (steps : List Step) :
    (∀ name owner, (fresh.run steps).session.names.owner? name = some owner ↔
      isIdentifier name = true ∧ (offers steps).lookup name = some owner) ∧
    (∀ step name owner, Step.offer? step = some (name, owner) →
      (step.answer (fresh.run steps) = .ok (some name) ↔
        isIdentifier name = true ∧ name ∉ (offers steps).map (·.1)) ∧
      (step.answer (fresh.run steps) = .error (.invalidIdentifier name) ↔
        isIdentifier name = false) ∧
      (∀ first, step.answer (fresh.run steps) = .error (.nameCollision name first owner) ↔
        isIdentifier name = true ∧ (offers steps).lookup name = some first)) ∧
    (∀ step e r', Step.perform step (fresh.run steps) = .error e r' → r' = fresh.run steps) ∧
    (∀ more name owner, (fresh.run steps).session.names.owner? name = some owner →
      ((fresh.run steps).run more).session.names.owner? name = some owner) ∧
    (∀ text, ((fresh.run steps).next (.intern text)).session.names =
      (fresh.run steps).session.names) ∧
    (∀ title bytes, ((fresh.run steps).next (.finish title bytes)).session.names =
      (fresh.run steps).session.names) ∧
    (fresh.run steps).session.names.size = (fresh.answers steps).countP isClaimed := by
  have hfollows : Follows (fresh.run steps).session steps := by
    rw [session_run]
    exact follows_run steps
  refine ⟨fun name owner => ?_, fun step name owner hoffer => ⟨?_, ?_, fun first => ?_⟩,
    fun step e r' => eq_of_perform_eq_error, fun more name owner howner => ?_, fun text => ?_,
    fun title bytes => ?_, ?_⟩
  · rw [hfollows name]
    split
    next hid => rw [and_iff_right hid]
    next hid => simp [hid]
  · exact answer_eq_ok_iff hfollows hoffer
  · rw [answer_eq_error_iff hfollows hoffer, claimFault?]
    cases isIdentifier name <;> simp
  · rw [answer_eq_error_iff hfollows hoffer, claimFault?]
    cases isIdentifier name <;> simp
  · rw [session_run]
    exact owner?_run howner more
  · rw [session_next]
    exact Step.names_next_of_silent rfl _
  · rw [session_next]
    exact Step.names_next_of_silent rfl _
  · rw [size_run]
    exact Nat.zero_add _

example : (fresh.answers [.claim "a" "x", .declare "a" "y", .claim "2" "z"]).map (·.2) =
    [.ok (some "a"), .error (.nameCollision "a" "x" "y"), .error (.invalidIdentifier "2")] := by
  decide

end Registry

end MathHeader
