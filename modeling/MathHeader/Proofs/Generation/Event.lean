import MathHeader.Header.Generation
import MathHeader.Proofs.Operation.Instantiate
import Mathlib.Data.List.Induction
import Mathlib.Data.List.Nodup

/-!
# Events of a generation

A generation is a sequence of *events*: it claims the names of declarations, instantiates
operations, claims the names of functions, and finishes sections.  `runEvents` performs a list of
events on a session and stops at the first one that fails.

An event can be judged without a session.  `Event.fault?` says why an event fails after given
claims, and `firstFault` is the fault of the first event of a list that has one.  The session of a
run knows the claims that were made and nothing else about the past: that is the invariant `Tracks`,
which `tracks_apply` keeps through one event and `runEvents_spec` through a list of them.  So the
outcome of a run is the first fault of its events, and `firstFault_eq_none_iff` says when there is
none.
-/

namespace MathHeader

/-! ## Events -/

/-- What a generation does at one moment. -/
inductive Event where
  /-- The name of a macro, structure or type is claimed. -/
  | declare (name owner : String)
  /-- An operation is instantiated for a type. -/
  | instantiate (operation : Operation) (type : ShapedType)
  /-- The name of a function is claimed. -/
  | define (category : Category) (key : SymbolKey) (name : String)
  /-- A section is complete. -/
  | finish (title : String) (bytes : Nat)

namespace Event

/-- The session after an event that succeeds. -/
def apply (s : Session) : Event → Except GenError Session
  | declare name owner => s.claimDeclaration name owner
  | instantiate o t => (fun _ => s) <$> o.instantiate t
  | define category key name => s.claimFunction category key name
  | finish _ bytes => .ok (s.recordSection bytes)

/-- The name that an event claims, with its owner. -/
def claim? : Event → Option (String × String)
  | declare name owner => some (name, owner)
  | define _ key name => some (name, key.describe)
  | instantiate _ _ => none
  | finish _ _ => none

/-- The name that an event claims for a macro, structure or type. -/
def declared? : Event → Option String
  | declare name _ => some name
  | _ => none

/-- Whether an event is the end of a section. -/
def isFinish : Event → Bool
  | finish _ _ => true
  | _ => false

end Event

/-- The session after some events, all of which have to succeed. -/
def runEvents (s : Session) : List Event → Except GenError Session
  | [] => .ok s
  | ev :: evs => do runEvents (← ev.apply s) evs

lemma runEvents_append (s : Session) (front rest : List Event) :
    runEvents s (front ++ rest) = runEvents s front >>= fun s => runEvents s rest := by
  induction front generalizing s with
  | nil => rfl
  | cons ev front ih =>
      simp only [List.cons_append, runEvents, bind_assoc]
      exact bind_congr fun s => ih s

/-- The claims of some events, in order. -/
def claims (evs : List Event) : List (String × String) :=
  evs.filterMap Event.claim?

/-- The names that some events claim, in order. -/
def claimedNames (evs : List Event) : List String :=
  (claims evs).map (·.1)

/-- The names that some events claim for macros, structures and types, in order. -/
def declaredNames (evs : List Event) : List String :=
  evs.filterMap Event.declared?

@[simp] lemma claims_nil : claims [] = [] := rfl

@[simp] lemma claims_append (front rest : List Event) :
    claims (front ++ rest) = claims front ++ claims rest := by
  simp [claims]

lemma claims_flatMap {α : Type} (xs : List α) (f : α → List Event) :
    claims (xs.flatMap f) = xs.flatMap fun x => claims (f x) :=
  List.filterMap_flatMap

lemma claimedNames_append (front rest : List Event) :
    claimedNames (front ++ rest) = claimedNames front ++ claimedNames rest := by
  rw [claimedNames, claims_append, List.map_append]
  rfl

@[simp] lemma declaredNames_append (front rest : List Event) :
    declaredNames (front ++ rest) = declaredNames front ++ declaredNames rest := by
  simp [declaredNames]

lemma mem_claimedNames_of_claim? {evs : List Event} {ev : Event} {name owner : String}
    (hev : ev ∈ evs) (h : ev.claim? = some (name, owner)) : name ∈ claimedNames evs :=
  List.mem_map.2 ⟨(name, owner), List.mem_filterMap.2 ⟨ev, hev, h⟩, rfl⟩

/-! ## Faults -/

/-- Why `owner` cannot claim `name` after some claims.  A name that cannot be declared is refused
before it is looked up. -/
def claimFault? (earlier : List (String × String)) (name owner : String) : Option GenError :=
  if isIdentifier name then
    (earlier.lookup name).map fun first => .nameCollision name first owner
  else some (.invalidIdentifier name)

/-- Why an event fails after some claims. -/
def Event.fault? (earlier : List (String × String)) : Event → Option GenError
  | declare name owner => claimFault? earlier name owner
  | define _ key name => claimFault? earlier name key.describe
  | instantiate o t =>
    match o.instantiate t with
    | .ok _ => none
    | .error e => some e
  | finish _ _ => none

/-- The fault of the first event that has one, after some claims. -/
def firstFault (earlier : List (String × String)) : List Event → Option GenError
  | [] => none
  | ev :: evs => (ev.fault? earlier).or (firstFault (earlier ++ claims [ev]) evs)

/-- The earliest event of a list that fails, fails with `e`: no event before it has a fault. -/
def FaultsFirst (evs : List Event) (e : GenError) : Prop :=
  ∃ before ev after, evs = before ++ ev :: after ∧
    (∀ front ev' rest, before = front ++ ev' :: rest → ev'.fault? (claims front) = none) ∧
    ev.fault? (claims before) = some e

lemma firstFault_append (earlier : List (String × String)) (front rest : List Event) :
    firstFault earlier (front ++ rest) =
      (firstFault earlier front).or (firstFault (earlier ++ claims front) rest) := by
  induction front generalizing earlier with
  | nil => simp [firstFault]
  | cons ev front ih =>
      have hclaims : claims (ev :: front) = claims [ev] ++ claims front := claims_append [ev] front
      rw [List.cons_append, firstFault, firstFault, ih, hclaims, Option.or_assoc,
        List.append_assoc]

/-- The end of a section neither fails nor claims a name. -/
lemma Event.silent_of_isFinish {ev : Event} (h : ev.isFinish = true) :
    (∀ earlier, ev.fault? earlier = none) ∧ claims [ev] = [] := by
  cases ev with
  | finish title bytes => exact ⟨fun _ => rfl, rfl⟩
  | _ => cases h

lemma firstFault_filter_isFinish (earlier : List (String × String)) (evs : List Event) :
    firstFault earlier (evs.filter (!·.isFinish)) = firstFault earlier evs := by
  induction evs generalizing earlier with
  | nil => rfl
  | cons ev evs ih =>
      cases h : ev.isFinish with
      | true =>
          obtain ⟨hfault, hclaims⟩ := ev.silent_of_isFinish h
          rw [List.filter_cons_of_neg (by simp [h]), firstFault, hfault, hclaims, ih,
            List.append_nil, Option.none_or]
      | false => rw [List.filter_cons_of_pos (by simp [h]), firstFault, firstFault, ih]

lemma declaredNames_filter_isFinish (evs : List Event) :
    declaredNames (evs.filter (!·.isFinish)) = declaredNames evs := by
  rw [declaredNames, List.filterMap_filter]
  refine List.filterMap_congr fun ev _ => ?_
  cases ev <;> rfl

/-- There is no first fault exactly if no event has a fault where it stands. -/
lemma firstFault_eq_none_iff_forall {earlier : List (String × String)} {evs : List Event} :
    firstFault earlier evs = none ↔
      ∀ front ev rest, evs = front ++ ev :: rest → ev.fault? (earlier ++ claims front) = none := by
  constructor
  · rintro h front ev rest rfl
    rw [firstFault_append, Option.or_eq_none_iff, firstFault, Option.or_eq_none_iff] at h
    exact h.2.1
  · intro h
    induction evs using List.reverseRecOn with
    | nil => rfl
    | append_singleton evs ev ih =>
        rw [firstFault_append, ih, Option.none_or, firstFault, firstFault, Option.or_none]
        · exact h evs ev [] rfl
        · rintro front ev' rest rfl
          exact h front ev' (rest ++ [ev]) (by simp)

lemma firstFault_eq_some_iff {evs : List Event} {e : GenError} :
    firstFault [] evs = some e ↔ FaultsFirst evs e := by
  constructor
  · intro h
    -- The shortest front part with a fault ends in the event that fails.
    induction evs using List.reverseRecOn with
    | nil => exact absurd h (by simp [firstFault])
    | append_singleton evs ev ih =>
        rw [firstFault_append, firstFault, firstFault, Option.or_none, List.nil_append] at h
        cases hfront : firstFault [] evs with
        | none =>
            rw [hfront, Option.none_or] at h
            refine ⟨evs, ev, [], rfl, ?_, h⟩
            simpa using firstFault_eq_none_iff_forall.1 hfront
        | some first =>
            rw [hfront, Option.some_or] at h
            obtain ⟨before, ev', after, rfl, hbefore, hev⟩ := ih (hfront.trans h)
            exact ⟨before, ev', after ++ [ev], by simp, hbefore, hev⟩
  · rintro ⟨before, ev, after, rfl, hbefore, hev⟩
    have hnone : firstFault [] before = none :=
      firstFault_eq_none_iff_forall.2 (by simpa using hbefore)
    rw [firstFault_append, hnone, Option.none_or, firstFault, List.nil_append, hev, Option.some_or]

/-! ## What a session knows of the past -/

/-- **The invariant of a run.**  A session reached by the events `done` knows the claims among them:
a name belongs to its first claimant.  Its count of declarations is that of the declared names. -/
structure Tracks (s : Session) (done : List Event) : Prop where
  owner : ∀ name, s.names.owner? name = (claims done).lookup name
  declarations : s.stats.declarations = (declaredNames done).length

lemma tracks_fresh : Tracks .fresh [] :=
  ⟨fun _ => rfl, rfl⟩

lemma lookup_append_singleton_eq_or (table : List (String × String)) (name owner other : String) :
    (table ++ [(name, owner)]).lookup other =
      (table.lookup other).or (if other = name then some owner else none) := by
  rw [List.lookup_append]
  split
  next h => rw [h, List.lookup_cons_self]
  next h => rw [List.lookup_cons, beq_false_of_ne h, List.lookup_nil]

lemma lookup_append_singleton {table : List (String × String)} {name owner : String}
    (hnew : table.lookup name = none) (other : String) :
    (table ++ [(name, owner)]).lookup other =
      if other = name then some owner else table.lookup other := by
  rw [lookup_append_singleton_eq_or]
  split
  next h => rw [h, hnew, Option.none_or]
  next => exact Option.or_none

/-- A claim succeeds exactly if it has no fault, and then the name has its owner. -/
lemma NameTable.claim_of_claimFault? {t : NameTable} {earlier : List (String × String)}
    (h : ∀ name, t.owner? name = earlier.lookup name) (name owner : String) :
    match claimFault? earlier name owner with
    | none => ∃ u, t.claim name owner = .ok u ∧
        ∀ other, u.owner? other = (earlier ++ [(name, owner)]).lookup other
    | some e => t.claim name owner = .error e := by
  unfold claimFault? NameTable.claim
  by_cases hid : isIdentifier name = true
  · rw [if_pos hid, if_pos hid, h name]
    cases hlookup : earlier.lookup name with
    | some first => rfl
    | none =>
        refine ⟨⟨(name, owner) :: t.entries⟩, rfl, fun other => ?_⟩
        have hclaim : t.claim name owner = .ok ⟨(name, owner) :: t.entries⟩ :=
          NameTable.claim_eq_ok_iff.2 ⟨hid, (h name).trans hlookup, rfl⟩
        rw [NameTable.owner?_claim hclaim, lookup_append_singleton hlookup, h other]
  · rw [if_neg hid, if_neg hid]

/-- An event that claims nothing is known as soon as it leaves names and declarations alone. -/
lemma Tracks.silent {s s' : Session} {done : List Event} (hs : Tracks s done) {ev : Event}
    (hclaims : claims [ev] = []) (hdeclared : declaredNames [ev] = [])
    (hnames : s'.names = s.names) (hcount : s'.stats.declarations = s.stats.declarations) :
    Tracks s' (done ++ [ev]) := by
  constructor
  · rw [claims_append, hclaims, List.append_nil, hnames]
    exact hs.owner
  · rw [declaredNames_append, hdeclared, List.append_nil, hcount]
    exact hs.declarations

/-- An event that claims a name, whatever it counts beside. -/
lemma Tracks.claim {s : Session} {done : List Event} (hs : Tracks s done) {ev : Event}
    {name owner : String} {stats : Stats} (hclaims : claims [ev] = [(name, owner)])
    (hcount : stats.declarations = s.stats.declarations + (declaredNames [ev]).length) :
    match claimFault? (claims done) name owner with
    | none => ∃ s' : Session, (s.names.claim name owner >>= fun u => pure ⟨u, stats⟩) = .ok s' ∧
        Tracks s' (done ++ [ev])
    | some e => (s.names.claim name owner >>= fun u => pure (Session.mk u stats)) = .error e := by
  have hclaim := NameTable.claim_of_claimFault? hs.owner name owner
  cases hfault : claimFault? (claims done) name owner with
  | some e =>
      rw [hfault] at hclaim
      simp only at hclaim ⊢
      rw [hclaim]
      rfl
  | none =>
      rw [hfault] at hclaim
      obtain ⟨names, hnames, howner⟩ := hclaim
      refine ⟨⟨names, stats⟩, by rw [hnames]; rfl, ?_, ?_⟩
      · rw [claims_append, hclaims]
        exact howner
      · rw [declaredNames_append, List.length_append, ← hs.declarations]
        exact hcount

/-- **One event.**  After the events `done` an event succeeds exactly if it has no fault, and then
the session knows it too. -/
lemma tracks_apply {s : Session} {done : List Event} (hs : Tracks s done) (ev : Event) :
    match ev.fault? (claims done) with
    | none => ∃ s', ev.apply s = .ok s' ∧ Tracks s' (done ++ [ev])
    | some e => ev.apply s = .error e := by
  cases ev with
  | declare name owner => exact hs.claim rfl rfl
  | define category key name => exact hs.claim rfl rfl
  | instantiate o t =>
      simp only [Event.fault?, Event.apply]
      cases o.instantiate t with
      | error e => rfl
      | ok fs => exact ⟨s, rfl, hs.silent rfl rfl rfl rfl⟩
  | finish title bytes => exact ⟨s.recordSection bytes, rfl, hs.silent rfl rfl rfl rfl⟩

/-- **A run.**  Events that start after `done` end in a session that knows all of them, or in their
first fault. -/
theorem runEvents_spec {s : Session} {done : List Event} (hs : Tracks s done) (evs : List Event) :
    match firstFault (claims done) evs with
    | none => ∃ s', runEvents s evs = .ok s' ∧ Tracks s' (done ++ evs)
    | some e => runEvents s evs = .error e := by
  induction evs generalizing s done with
  | nil => exact ⟨s, rfl, by rwa [List.append_nil]⟩
  | cons ev evs ih =>
      have hstep := tracks_apply hs ev
      rw [firstFault, runEvents]
      cases hfault : ev.fault? (claims done) with
      | some e =>
          rw [hfault] at hstep
          simp only at hstep
          rw [Option.some_or, hstep]
          rfl
      | none =>
          rw [hfault] at hstep
          obtain ⟨s', happly, hs'⟩ := hstep
          have hrest := ih hs'
          rw [claims_append, List.append_assoc, List.singleton_append] at hrest
          rw [Option.none_or, happly]
          exact hrest

lemma runEvents_eq_error_iff {evs : List Event} {e : GenError} :
    runEvents .fresh evs = .error e ↔ firstFault [] evs = some e := by
  have hrun := runEvents_spec tracks_fresh evs
  rw [claims_nil] at hrun
  cases h : firstFault [] evs with
  | none =>
      rw [h] at hrun
      obtain ⟨s, hs, -⟩ := hrun
      rw [hs]
      simp
  | some e' =>
      rw [h] at hrun
      simp only at hrun
      rw [hrun]
      simp

lemma runEvents_eq_ok_iff {evs : List Event} :
    (∃ s, runEvents .fresh evs = .ok s) ↔ firstFault [] evs = none := by
  cases hrun : runEvents .fresh evs with
  | error e =>
      rw [runEvents_eq_error_iff.1 hrun]
      simp
  | ok s =>
      cases h : firstFault [] evs with
      | none => simp
      | some e =>
          rw [runEvents_eq_error_iff.2 h] at hrun
          cases hrun

lemma tracks_of_runEvents {evs : List Event} {s : Session} (h : runEvents .fresh evs = .ok s) :
    Tracks s evs := by
  have hrun := runEvents_spec tracks_fresh evs
  rw [claims_nil, runEvents_eq_ok_iff.1 ⟨s, h⟩] at hrun
  obtain ⟨s', hs', htracks⟩ := hrun
  rw [h] at hs'
  cases hs'
  exact htracks

lemma lookup_eq_none_iff {table : List (String × String)} {name : String} :
    table.lookup name = none ↔ name ∉ table.map (·.1) :=
  NameTable.owner?_eq_none_iff (t := ⟨table⟩)

lemma Tracks.isSome_owner? {s : Session} {done : List Event} (hs : Tracks s done) {name : String}
    (h : name ∈ declaredNames done) : (s.names.owner? name).isSome = true := by
  have hclaimed : name ∈ claimedNames done := by
    obtain ⟨ev, hev, hname⟩ := List.mem_filterMap.1 h
    cases ev with
    | declare name' owner =>
        cases hname
        exact mem_claimedNames_of_claim? hev rfl
    | _ => cases hname
  rw [hs.owner, Option.isSome_iff_ne_none, ne_eq, lookup_eq_none_iff, not_not]
  exact hclaimed

/-! ## Runs without a fault -/

/-- Every instantiation among the events gives functions. -/
def AllInstantiate (evs : List Event) : Prop :=
  ∀ o t, Event.instantiate o t ∈ evs → ∃ fs, o.instantiate t = .ok fs

lemma claimFault?_eq_none_iff {earlier : List (String × String)} {name owner : String} :
    claimFault? earlier name owner = none ↔
      isIdentifier name = true ∧ name ∉ earlier.map (·.1) := by
  unfold claimFault?
  split
  next h => rw [Option.map_eq_none_iff, lookup_eq_none_iff, and_iff_right h]
  next h => simp [h]

/-- An event has no fault if it can be instantiated, and if its name can be declared and is new. -/
lemma Event.fault?_eq_none_iff {earlier : List (String × String)} {ev : Event} :
    ev.fault? earlier = none ↔
      AllInstantiate [ev] ∧
        ∀ name ∈ claimedNames [ev], isIdentifier name = true ∧ name ∉ earlier.map (·.1) := by
  cases ev with
  | declare name owner =>
      simpa [AllInstantiate, claimedNames, claims, claim?, fault?] using claimFault?_eq_none_iff
  | define category key name =>
      simpa [AllInstantiate, claimedNames, claims, claim?, fault?] using claimFault?_eq_none_iff
  | instantiate o t =>
      cases h : o.instantiate t <;> simp [AllInstantiate, claimedNames, claims, claim?, fault?, h]
  | finish title bytes => simp [AllInstantiate, claimedNames, claims, claim?, fault?]

lemma claimedNames_cons (ev : Event) (evs : List Event) :
    claimedNames (ev :: evs) = claimedNames [ev] ++ claimedNames evs :=
  claimedNames_append [ev] evs

lemma allInstantiate_cons (ev : Event) (evs : List Event) :
    AllInstantiate (ev :: evs) ↔ AllInstantiate [ev] ∧ AllInstantiate evs := by
  simp [AllInstantiate, or_imp, forall_and]

lemma nodup_claimedNames_singleton (ev : Event) : (claimedNames [ev]).Nodup := by
  cases ev with
  | declare name owner => exact List.nodup_singleton name
  | define category key name => exact List.nodup_singleton name
  | instantiate o t => exact List.nodup_nil
  | finish title bytes => exact List.nodup_nil

/-- **Runs without a fault.**  Nothing fails exactly if every instantiation gives functions and the
claimed names are identifiers, claimed once and not claimed before. -/
lemma firstFault_eq_none_iff {earlier : List (String × String)} {evs : List Event} :
    firstFault earlier evs = none ↔
      AllInstantiate evs ∧ (∀ name ∈ claimedNames evs, isIdentifier name = true) ∧
        (claimedNames evs).Nodup ∧ ∀ name ∈ claimedNames evs, name ∉ earlier.map (·.1) := by
  induction evs generalizing earlier with
  | nil => simp [firstFault, AllInstantiate, claimedNames]
  | cons ev evs ih =>
      rw [firstFault, Option.or_eq_none_iff, ih, Event.fault?_eq_none_iff,
        allInstantiate_cons ev evs, claimedNames_cons ev evs, List.nodup_append, List.map_append]
      simp only [List.mem_append, or_imp, forall_and, not_or]
      have hnodup := nodup_claimedNames_singleton ev
      constructor
      · rintro ⟨⟨hev, hid, hnew⟩, hevs, hids, hnodups, hnews, hfresh⟩
        refine ⟨⟨hev, hevs⟩, ⟨hid, hids⟩, ⟨hnodup, hnodups, ?_⟩, hnew, hnews⟩
        rintro name hname _ hother rfl
        exact hfresh name hother hname
      · rintro ⟨⟨hev, hevs⟩, ⟨hid, hids⟩, ⟨-, hnodups, hne⟩, hnew, hnews⟩
        refine ⟨⟨hev, hid, hnew⟩, hevs, hids, hnodups, hnews, fun name hname hother => ?_⟩
        exact hne name hother name hname rfl

/-! ## Causes of a fault -/

/-- A claim fails for a name that cannot be declared or for one that belongs to someone. -/
lemma claimFault?_cases {earlier : List (String × String)} {name owner : String} {e : GenError}
    (h : claimFault? earlier name owner = some e) :
    isIdentifier name = false ∧ e = .invalidIdentifier name ∨
      ∃ first, earlier.lookup name = some first ∧ e = .nameCollision name first owner := by
  unfold claimFault? at h
  split at h
  next =>
    obtain ⟨first, hlookup, rfl⟩ := Option.map_eq_some_iff.1 h
    exact .inr ⟨first, hlookup, rfl⟩
  next hid =>
    cases h
    exact .inl ⟨Bool.eq_false_iff.2 hid, rfl⟩

/-- Only instantiations and claims fail. -/
lemma Event.fault?_cases {earlier : List (String × String)} {ev : Event} {e : GenError}
    (h : ev.fault? earlier = some e) :
    (∃ o t, ev = .instantiate o t ∧ o.instantiate t = .error e) ∨
      ∃ name owner, ev.claim? = some (name, owner) ∧ claimFault? earlier name owner = some e := by
  cases ev with
  | declare name owner => exact .inr ⟨name, owner, rfl, h⟩
  | define category key name => exact .inr ⟨name, key.describe, rfl, h⟩
  | instantiate o t =>
      rw [fault?] at h
      cases hreturn : o.instantiate t with
      | ok fs =>
          rw [hreturn] at h
          cases h
      | error e' =>
          rw [hreturn] at h
          cases h
          exact .inl ⟨o, t, rfl, hreturn⟩
  | finish title bytes => cases h

/-- What the first fault can be: an operation that cannot be instantiated, a name that cannot be
declared, or a collision. -/
lemma FaultsFirst.cause {evs : List Event} {e : GenError} (h : FaultsFirst evs e) :
    (∃ o t, .instantiate o t ∈ evs ∧ o.instantiate t = .error e) ∨
      (∃ name ∈ claimedNames evs, isIdentifier name = false ∧ e = .invalidIdentifier name) ∨
        ∃ name first second, e = .nameCollision name first second := by
  obtain ⟨front, ev, rest, rfl, -, hev⟩ := h
  have hmem : ev ∈ front ++ ev :: rest := List.mem_append_right front List.mem_cons_self
  rcases Event.fault?_cases hev with ⟨o, t, rfl, hreturn⟩ | ⟨name, owner, hclaim, hfault⟩
  · exact .inl ⟨o, t, hmem, hreturn⟩
  · rcases claimFault?_cases hfault with ⟨hid, he⟩ | ⟨first, -, he⟩
    · exact .inr (.inl ⟨name, mem_claimedNames_of_claim? hmem hclaim, hid, he⟩)
    · exact .inr (.inr ⟨name, first, owner, he⟩)

/-- **Collisions.**  A collision that is the first fault is between the first claim of a name and
the second one, and the names claimed until then are distinct. -/
lemma FaultsFirst.collision {evs : List Event} {name first second : String}
    (h : FaultsFirst evs (.nameCollision name first second)) :
    ∃ before between after,
      claims evs = before ++ (name, first) :: between ++ (name, second) :: after ∧
        ((before ++ (name, first) :: between).map (·.1)).Nodup := by
  obtain ⟨front, ev, rest, rfl, hfront, hev⟩ := h
  have hnone : firstFault [] front = none :=
    firstFault_eq_none_iff_forall.2 (by simpa using hfront)
  have hnodup : ((claims front).map (·.1)).Nodup := (firstFault_eq_none_iff.1 hnone).2.2.1
  rcases Event.fault?_cases hev with ⟨o, t, -, hreturn⟩ | ⟨name', owner, hclaim, hfault⟩
  · rcases Operation.instantiate_eq_error hreturn with h | ⟨what, op, h⟩ <;> cases h
  · rcases claimFault?_cases hfault with ⟨-, he⟩ | ⟨first', hlookup, he⟩
    · cases he
    · cases he
      obtain ⟨before, between, hbefore, -⟩ := List.lookup_eq_some_iff.1 hlookup
      have hclaims : claims [ev] = [(name, second)] := by simp [claims, hclaim]
      refine ⟨before, between, claims rest, ?_, hbefore ▸ hnodup⟩
      rw [← List.singleton_append, claims_append, claims_append, hclaims, hbefore]
      rfl

end MathHeader
