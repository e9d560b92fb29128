import Typestate.Proofs.Builtin

/-! # A registry in use

A registry is changed in place, step after step. A step that fails might leave a part of its work
behind, so the steps are programs here whose changes outlast a failure.

* `Registry.enroll`, `Registry.perform`: registration and the other steps as such programs;
  `enroll_eq` says that a registration that fails has changed nothing.
* `Registry.after`, `Registry.history`: the registry behind a run of steps, and what each step came
  to.
* `Registry.Holds`: the relation that an identifier has by the history alone: the one that was bound
  last, or the built-in one.
* `registry_keeps_last_bound`: this is what the registry answers. -/

namespace Typestate.Registry

/-! ### Steps -/

/-- What can be asked of a registry. -/
inductive Step where
  | register (identifier : String) (candidate : Candidate) (replace : Bool)
  | get (identifier : String)
  | has (identifier : String)
  | identifiers
  | evaluate (identifier : String) (groups : GroupMap) (permutation wanted : List String)

/-- What a step answers. -/
inductive Answer where
  | made (relation : Relation)
  | found (relation : Relation)
  | has (isBound : Bool)
  | identifiers (keys : List String)
  | verdict (holds : Bool)

/-- A program on a registry. What it has changed when it fails stays changed. -/
abbrev Use (α : Type) := EStateM Failure Registry α

/-- Registers a candidate. The identifier is checked before anything is made, and nothing is bound
before it is made. -/
def enroll (identifier : String) (candidate : Candidate) (replace : Bool) : Use Relation :=
  if identifier.isEmpty then throw (.refused .emptyIdentifier)
  else do
    let r ← getThe Registry
    if (r.find? (Text.lower identifier)).isSome && !replace then
      throw (.refused (.identifierTaken (Text.lower identifier)))
    else do
      let relation ← MonadExcept.ofExcept (make (Text.lower identifier) candidate)
      modifyThe Registry fun r => ⟨bind (Text.lower identifier) relation r.entries⟩
      return relation

/-- Only looks at the registry. -/
def look (f : Registry → Except Failure Answer) : Use Answer := do
  let r ← getThe Registry
  MonadExcept.ofExcept (f r)

/-- Carries out a step. -/
def perform : Step → Use Answer
  | .register identifier candidate replace => .made <$> enroll identifier candidate replace
  | .get identifier => look fun r => .found <$> r.get identifier
  | .has identifier => look fun r => .ok (.has (r.contains identifier))
  | .identifiers => look fun r => .ok (.identifiers r.identifiers)
  | .evaluate identifier groups permutation wanted =>
    look fun r => .verdict <$> r.evaluate (Text.lower identifier) groups permutation wanted

/-- What a step comes to, and the registry behind it. -/
def next (r : Registry) (step : Step) : Except Failure Answer × Registry :=
  match perform step r with
  | .ok answer r' => (.ok answer, r')
  | .error e r' => (.error e, r')

/-- The registry behind a run of steps, some of which may fail. -/
def after (r : Registry) (steps : List Step) : Registry :=
  steps.foldl (fun r step => (r.next step).2) r

/-- The steps of a run with what they come to. -/
def history (r : Registry) : List Step → List (Step × Except Failure Answer)
  | [] => []
  | step :: rest => (step, (r.next step).1) :: history (r.next step).2 rest

/-- A new registry, with or without the built-in relations. -/
def start (builtins : Bool) : Registry := if builtins then builtin else empty

/-! ### One step -/

theorem getThe_bind {α : Type} (f : Registry → Use α) (r : Registry) :
    (getThe Registry >>= f) r = f r r := rfl

/-- **A registration on the spot is a registration that returns the new registry**; when it fails
the registry is as before. -/
theorem enroll_eq (r : Registry) (identifier : String) (candidate : Candidate) (replace : Bool) :
    enroll identifier candidate replace r =
      match r.register identifier candidate replace with
      | .ok (r', relation) => .ok relation r'
      | .error e => .error e r := by
  unfold enroll register
  by_cases hempty : identifier.isEmpty = true
  · rw [if_pos hempty, if_pos hempty]
    rfl
  rw [if_neg hempty, if_neg hempty, getThe_bind]
  by_cases htaken : ((r.find? (Text.lower identifier)).isSome && !replace) = true
  · rw [if_pos htaken, if_pos htaken]
    rfl
  rw [if_neg htaken, if_neg htaken]
  cases make (Text.lower identifier) candidate with
  | error e => rfl
  | ok relation => rfl

theorem map_eq {α β : Type} (f : α → β) (x : Use α) (r : Registry) :
    (f <$> x) r = match x r with
      | .ok a r' => .ok (f a) r'
      | .error e r' => .error e r' := by
  change EStateM.map f x r = _
  unfold EStateM.map
  cases x r <;> rfl

/-- **What a registration comes to**, and the registry behind it. -/
theorem next_register (r : Registry) (identifier : String) (candidate : Candidate)
    (replace : Bool) :
    r.next (.register identifier candidate replace) =
      match r.register identifier candidate replace with
      | .ok (r', relation) => (.ok (.made relation), r')
      | .error e => (.error e, r) := by
  rw [next, perform, map_eq, enroll_eq]
  cases r.register identifier candidate replace with
  | error e => rfl
  | ok made => rfl

theorem next_of_look {step : Step} {f : Registry → Except Failure Answer}
    (h : perform step = look f) (r : Registry) : r.next step = (f r, r) := by
  rw [next, h, look, getThe_bind]
  cases f r with
  | error e => rfl
  | ok answer => rfl

/-- **Only a registration changes the registry.** -/
theorem next_snd_of_ne {step : Step}
    (h : ∀ identifier candidate replace, step ≠ .register identifier candidate replace)
    (r : Registry) : (r.next step).2 = r := by
  cases step with
  | register identifier candidate replace => exact absurd rfl (h identifier candidate replace)
  | get => rw [next_of_look rfl]
  | has => rw [next_of_look rfl]
  | identifiers => rw [next_of_look rfl]
  | evaluate => rw [next_of_look rfl]

/-- **A step that fails changes nothing.** -/
theorem next_snd_of_error {r : Registry} {step : Step} {e : Failure}
    (h : (r.next step).1 = .error e) : (r.next step).2 = r := by
  cases step with
  | register identifier candidate replace =>
    rw [next_register] at h ⊢
    split at h
    · cases h
    · rfl
  | get => exact next_snd_of_ne (by simp) r
  | has => exact next_snd_of_ne (by simp) r
  | identifiers => exact next_snd_of_ne (by simp) r
  | evaluate => exact next_snd_of_ne (by simp) r

/-! ### Runs -/

/-- The step bound the key to the relation. -/
def Binds (key : String) (relation : Relation) (entry : Step × Except Failure Answer) : Prop :=
  ∃ identifier candidate replace,
    entry = (.register identifier candidate replace, .ok (.made relation)) ∧
      Text.lower identifier = key

/-- The last step that bound the key bound it to the relation. -/
def LastBound (key : String) (relation : Relation)
    (history : List (Step × Except Failure Answer)) : Prop :=
  ∃ earlier entry later, history = earlier ++ entry :: later ∧ Binds key relation entry ∧
    ∀ x ∈ later, ∀ other, ¬ Binds key other x

/-- **The relation that a key has by the history**: the one it was bound to last, or the built-in
one if it was never bound. -/
def Holds (builtins : Bool) (history : List (Step × Except Failure Answer)) (key : String)
    (relation : Relation) : Prop :=
  LastBound key relation history ∨
    (∀ entry ∈ history, ∀ other, ¬ Binds key other entry) ∧ builtins = true ∧
      ∃ kind : RelationKind, kind.key = key ∧ kind.relation = relation

section Runs

variable {r : Registry} {key : String} {relation : Relation}

theorem lastBound_nil : ¬ LastBound key relation [] := by
  rintro ⟨earlier, entry, later, h, -⟩
  simp at h

theorem lastBound_cons {entry : Step × Except Failure Answer}
    {history : List (Step × Except Failure Answer)} :
    LastBound key relation (entry :: history) ↔ LastBound key relation history ∨
      Binds key relation entry ∧ ∀ x ∈ history, ∀ other, ¬ Binds key other x :=
  Outcome.exists_last_cons

theorem binds_register_iff {identifier : String} {candidate : Candidate} {replace : Bool}
    {outcome : Except Failure Answer} :
    Binds key relation (.register identifier candidate replace, outcome) ↔
      outcome = .ok (.made relation) ∧ Text.lower identifier = key := by
  constructor
  · rintro ⟨identifier', candidate', replace', h, hkey⟩
    cases h
    exact ⟨rfl, hkey⟩
  · rintro ⟨rfl, hkey⟩
    exact ⟨identifier, candidate, replace, rfl, hkey⟩

theorem not_binds_of_ne {step : Step}
    (h : ∀ identifier candidate replace, step ≠ .register identifier candidate replace)
    (outcome : Except Failure Answer) (other : Relation) : ¬ Binds key other (step, outcome) := by
  rintro ⟨identifier, candidate, replace, heq, -⟩
  exact h identifier candidate replace (Prod.mk.inj heq).1

/-- **One registration**: the key has the relation that it bound it to, or else the one from
before. -/
theorem find?_next_register {identifier : String} {candidate : Candidate} {replace : Bool} :
    (r.next (.register identifier candidate replace)).2.find? key = some relation ↔
      Binds key relation
          (.register identifier candidate replace,
            (r.next (.register identifier candidate replace)).1) ∨
        (∀ other, ¬ Binds key other
          (.register identifier candidate replace,
            (r.next (.register identifier candidate replace)).1)) ∧
          r.find? key = some relation := by
  simp only [binds_register_iff, next_register]
  cases hregister : r.register identifier candidate replace with
  | error e => simp
  | ok made =>
    obtain ⟨r', relation'⟩ := made
    by_cases hkey : Text.lower identifier = key
    · subst hkey
      simp [find?_register_self hregister]
    · simp [find?_register_of_ne (Ne.symm hkey) hregister, hkey]

/-- **One step**, registration or not. -/
theorem find?_next_eq_some_iff {step : Step} :
    (r.next step).2.find? key = some relation ↔
      Binds key relation (step, (r.next step).1) ∨
        (∀ other, ¬ Binds key other (step, (r.next step).1)) ∧ r.find? key = some relation := by
  by_cases hstep : ∃ identifier candidate replace, step = .register identifier candidate replace
  · obtain ⟨identifier, candidate, replace, rfl⟩ := hstep
    exact find?_next_register
  · push Not at hstep
    simp [next_snd_of_ne hstep, not_binds_of_ne hstep]

/-- **A run of steps**: the key has the relation it was bound to last, or the one from before. -/
theorem find?_after_eq_some_iff {steps : List Step} :
    (r.after steps).find? key = some relation ↔
      LastBound key relation (r.history steps) ∨
        (∀ entry ∈ r.history steps, ∀ other, ¬ Binds key other entry) ∧
          r.find? key = some relation := by
  induction steps generalizing r with
  | nil => simp [after, history, lastBound_nil]
  | cons step rest ih =>
    have hafter : r.after (step :: rest) = (r.next step).2.after rest := rfl
    rw [hafter, ih, find?_next_eq_some_iff, history, lastBound_cons, List.forall_mem_cons]
    tauto

/-! ### Leaving out a step that fails -/

theorem after_append (r : Registry) (steps more : List Step) :
    r.after (steps ++ more) = (r.after steps).after more := List.foldl_append

theorem history_append (r : Registry) (steps more : List Step) :
    r.history (steps ++ more) = r.history steps ++ (r.after steps).history more := by
  induction steps generalizing r with
  | nil => rfl
  | cons step rest ih =>
    rw [List.cons_append, history, history, ih, List.cons_append]
    rfl

/-- **Without a step that fails, the steps behind it come to the same.** -/
theorem history_without {earlier later : List Step} {step : Step} {e : Failure}
    (h : ((r.after earlier).next step).1 = .error e) :
    r.history (earlier ++ step :: later) =
        r.history earlier ++ (step, .error e) :: (r.after earlier).history later ∧
      r.history (earlier ++ later) = r.history earlier ++ (r.after earlier).history later ∧
      r.after (earlier ++ step :: later) = r.after (earlier ++ later) := by
  refine ⟨?_, history_append r earlier later, ?_⟩
  · rw [history_append, history, h, next_snd_of_error h]
  · rw [after_append, after_append, after, List.foldl_cons, next_snd_of_error h]
    rfl

end Runs

/-! ### What the registry answers -/

theorem mem_identifiers_iff {r : Registry} {key : String} :
    key ∈ r.identifiers ↔ ∃ relation, r.find? key = some relation := by
  rw [identifiers, Names.mem_sorted, ← Option.isSome_iff_exists, find?, ← Option.ne_none_iff_isSome,
    ne_eq, List.lookup_eq_none_iff]
  simp

theorem get_eq_ok_iff {r : Registry} {identifier : String} {relation : Relation} :
    r.get identifier = .ok relation ↔ r.find? (Text.lower identifier) = some relation := by
  rw [get, getKey]
  cases r.find? (Text.lower identifier) <;> simp

/-- **A look-up fails with the report about unknown relations**, or not at all. -/
theorem get_eq_error_iff {r : Registry} {identifier : String} :
    (∃ report, r.get identifier = .error (.report report) ∧ report.code = .invalidRelation) ↔
      ∀ relation, r.get identifier ≠ .ok relation := by
  rw [get, getKey]
  cases r.find? (Text.lower identifier) with
  | none =>
    refine iff_of_true ⟨_, rfl, rfl⟩ fun relation h => ?_
    cases h
  | some relation => simp

theorem find?_start {builtins : Bool} {key : String} {relation : Relation} :
    (start builtins).find? key = some relation ↔
      builtins = true ∧ ∃ kind : RelationKind, kind.key = key ∧ kind.relation = relation := by
  cases builtins with
  | false => simp [start, empty, find?]
  | true =>
    have hstart : start true = builtin := rfl
    rw [hstart, find?_builtin, Option.map_eq_some_iff]
    simp only [true_and]
    refine exists_congr fun kind => and_congr_left fun _ => ?_
    exact ⟨RelationKind.key_of_ofKey?, fun h => h ▸ RelationKind.ofKey?_key kind⟩

theorem make_eq_ok_iff (key : String) {candidate : Candidate} {relation : Relation} :
    make key candidate = .ok relation ↔ candidate = .relation relation := by
  cases candidate <;> simp [make]

/-- Whether a registration may bind its identifier. -/
theorem mayBind_iff {r : Registry} {key : String} {replace : Bool} :
    ((r.find? key).isSome = true → replace = true) ↔
      ((∃ other, r.find? key = some other) → replace = true) := by
  rw [Option.isSome_iff_exists]

/-- **When a registration succeeds.** -/
theorem next_register_eq_ok_iff {r : Registry} {identifier : String} {candidate : Candidate}
    {replace : Bool} {relation : Relation} :
    (r.next (.register identifier candidate replace)).1 = .ok (.made relation) ↔
      identifier.isEmpty = false ∧
        ((∃ other, r.find? (Text.lower identifier) = some other) → replace = true) ∧
        candidate = .relation relation := by
  rw [next_register, ← mayBind_iff, ← make_eq_ok_iff (Text.lower identifier)]
  constructor
  · intro h
    split at h
    · next r' made hregister =>
      obtain ⟨hname, hfree, hmake, -⟩ := register_eq_ok_iff.mp hregister
      cases h
      exact ⟨hname, hfree, hmake⟩
    · cases h
  · rintro ⟨hname, hfree, hmake⟩
    rw [register_eq_ok_iff.mpr ⟨hname, hfree, hmake, rfl⟩]

/-- **What a registration fails with**: the name is looked at first, then whether it is taken, then
what is offered. -/
theorem next_register_eq_error_iff {r : Registry} {identifier : String} {candidate : Candidate}
    {replace : Bool} {e : Failure} :
    (r.next (.register identifier candidate replace)).1 = .error e ↔
      identifier.isEmpty = true ∧ e = .refused .emptyIdentifier ∨
      identifier.isEmpty = false ∧
        ((∃ other, r.find? (Text.lower identifier) = some other) ∧ replace = false ∧
            e = .refused (.identifierTaken (Text.lower identifier)) ∨
          ((∃ other, r.find? (Text.lower identifier) = some other) → replace = true) ∧
            make (Text.lower identifier) candidate = .error e) := by
  rw [next_register, ← mayBind_iff, ← Option.isSome_iff_exists, register]
  by_cases hname : identifier.isEmpty = true
  · simp [hname, @eq_comm _ e]
  by_cases htaken : (r.find? (Text.lower identifier)).isSome = true
  · cases replace with
    | false => simp [hname, htaken, @eq_comm _ e]
    | true =>
      cases make (Text.lower identifier) candidate <;>
        simp [hname, htaken, Bind.bind, Except.bind]
  · cases make (Text.lower identifier) candidate <;> simp [hname, htaken, Bind.bind, Except.bind]

/-- **Behind a run of steps a key has the relation it has by the history.** -/
theorem find?_after_start {builtins : Bool} {steps : List Step} {key : String}
    {relation : Relation} :
    ((start builtins).after steps).find? key = some relation ↔
      Holds builtins ((start builtins).history steps) key relation := by
  rw [find?_after_eq_some_iff, find?_start, Holds]

end Typestate.Registry

namespace Typestate

open Registry

/-- **A registry is a table in which the last one to bind an identifier counts.** Behind any run of
steps an identifier, in any letter case, has the relation that was made by the last registration
that succeeded under it, or the built-in relation if there was none; without either, the look-up
fails with the report about unknown relations. Containment and the increasing list of identifiers
agree with this. A registration succeeds exactly if it names an identifier, is free to bind it and
offers a relation, and fails with the first of these that is missing. A step that fails, for
whatever reason, leaves every later answer as it would be without the step. -/
theorem registry_keeps_last_bound (builtins : Bool) (steps : List Step) :
    (∀ identifier relation, ((start builtins).after steps).get identifier = .ok relation ↔
      Holds builtins ((start builtins).history steps) (Text.lower identifier) relation) ∧
    (∀ identifier, (∀ relation,
        ¬ Holds builtins ((start builtins).history steps) (Text.lower identifier) relation) ↔
      ∃ report, ((start builtins).after steps).get identifier = .error (.report report) ∧
        report.code = .invalidRelation) ∧
    (∀ identifier, ((start builtins).after steps).contains identifier = true ↔
      ∃ relation, ((start builtins).after steps).get identifier = .ok relation) ∧
    (((start builtins).after steps).identifiers.Pairwise (· < ·) ∧
      ∀ key, key ∈ ((start builtins).after steps).identifiers ↔
        ∃ relation, Holds builtins ((start builtins).history steps) key relation) ∧
    (∀ identifier candidate replace,
      (∀ relation,
        (((start builtins).after steps).next (.register identifier candidate replace)).1 =
            .ok (.made relation) ↔
          identifier.isEmpty = false ∧
            ((∃ other, Holds builtins ((start builtins).history steps)
              (Text.lower identifier) other) →
              replace = true) ∧
            candidate = .relation relation) ∧
      ∀ e, (((start builtins).after steps).next (.register identifier candidate replace)).1 =
            .error e ↔
          identifier.isEmpty = true ∧ e = .refused .emptyIdentifier ∨
          identifier.isEmpty = false ∧
            ((∃ other, Holds builtins ((start builtins).history steps)
              (Text.lower identifier) other) ∧
                replace = false ∧ e = .refused (.identifierTaken (Text.lower identifier)) ∨
              ((∃ other,
                  Holds builtins ((start builtins).history steps) (Text.lower identifier) other) →
                replace = true) ∧ make (Text.lower identifier) candidate = .error e)) ∧
    ∀ earlier step later, steps = earlier ++ step :: later →
      ∀ e, (((start builtins).after earlier).next step).1 = .error e →
        (start builtins).after steps = (start builtins).after (earlier ++ later) ∧
        ∃ answers, (start builtins).history steps =
            (start builtins).history earlier ++ (step, .error e) :: answers ∧
          (start builtins).history (earlier ++ later) =
            (start builtins).history earlier ++ answers := by
  refine ⟨fun identifier relation => ?_, fun identifier => ?_, fun identifier => ?_,
    ⟨?_, fun key => ?_⟩, fun identifier candidate replace => ⟨fun relation => ?_, fun e => ?_⟩, ?_⟩
  · rw [Registry.get_eq_ok_iff, find?_after_start]
  · rw [get_eq_error_iff]
    refine forall_congr' fun relation => not_congr ?_
    rw [Registry.get_eq_ok_iff, find?_after_start]
  · simp only [Registry.get_eq_ok_iff, Registry.contains, Option.isSome_iff_exists]
  · exact Names.pairwise_sorted _
  · simp only [mem_identifiers_iff, find?_after_start]
  · simp only [next_register_eq_ok_iff, find?_after_start]
  · simp only [next_register_eq_error_iff, find?_after_start]
  · rintro earlier step later rfl e h
    obtain ⟨hwith, hwithout, hafter⟩ := @history_without _ earlier later step e h
    exact ⟨hafter, _, hwith, hwithout⟩

/-- A relation that holds if no wanted state is in the permutation. -/
def noneOf : Relation where
  name := "NoneOf"
  holds _ permutation wanted := .ok (Relation.countMatches permutation wanted = 0)

/-- The replacement of a built-in relation fails and is as if it had not been tried; behind it an
identifier is bound, and found in another letter case. -/
theorem registry_keeps_last_bound_none :
    ((start true).next (.register "AND" (.failing "not now") true)).1 =
        .error (.refused (.construction "not now")) ∧
      (start true).after
          [.register "AND" (.failing "not now") true, .register "None" (.relation noneOf) false] =
        (start true).after [.register "None" (.relation noneOf) false] ∧
      ((start true).after
          [.register "AND" (.failing "not now") true,
            .register "None" (.relation noneOf) false]).get "nOnE" = .ok noneOf := by
  obtain ⟨hget, -, -, -, -, hwithout⟩ := registry_keeps_last_bound true
    [.register "AND" (.failing "not now") true, .register "None" (.relation noneOf) false]
  refine ⟨rfl, (hwithout [] _ _ rfl _ rfl).1, (hget _ _).mpr (.inl ?_)⟩
  exact ⟨[_], _, [], rfl, ⟨"None", .relation noneOf, false, rfl, rfl⟩, by simp⟩

end Typestate
