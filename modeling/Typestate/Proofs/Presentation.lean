import Typestate.Proofs.Criterion

/-! # What presentation cannot change

The suffix of names, the names of the field and of the argument, the number of workers, the
namespace and the type parameters say how wrappers are written and computed. Which permutations
there are, what can be called in each and where it leads does not depend on them, nor does what is
reported.

* `Naming`: what goes into the name of a type besides the states.
* `Result.Alike`, `Member.Alike`, `Wrapper.Alike`: the same, but for names of types that are made by
  two namings.
* `Failure.Alike`: the same failure. Names are part of one report only, the one about names that
  several permutations share; there the code and the place are the same.
* `Resolver.resolve_withSuffix`: under another suffix resolution gives the same under another name.
* `Ends.presented`: each way to end is the same under another presentation.
* `presentation_irrelevant`: the same for generation. -/

namespace Typestate

open Rules

/-! ### Alike -/

/-- What goes into the name of a type besides the states. -/
structure Naming where
  suffix : String
  typeParameters : List String

namespace Naming

/-- The naming of an entity's wrappers. -/
def of (settings : Settings) (entity : Entity) : Naming :=
  ⟨settings.nameSuffix, entity.typeParameters⟩

variable (n : Naming)

/-- The name of the wrapper of a permutation. -/
def wrapper (p : Permutation) : String := Permutation.concat p.states ++ n.suffix

/-- The type that a transition to a permutation returns. -/
def returned (p : Permutation) : String := genericName (n.wrapper p) n.typeParameters

end Naming

/-- The results are one value, or transitions to one successor. -/
inductive Result.Alike (n n' : Naming) : Result → Result → Prop where
  | value (type : String) : Alike n n' (.value type) (.value type)
  | transition (successor : Permutation) (targets : List String) :
      Alike n n' (.transition successor (n.returned successor) targets)
        (.transition successor (n'.returned successor) targets)

/-- The members are called alike and have results that are alike. -/
structure Member.Alike (n n' : Naming) (x x' : Member) : Prop where
  name : x.name = x'.name
  parameters : x.parameters = x'.parameters
  typeParameters : x.typeParameters = x'.typeParameters
  invocation : x.invocation = x'.invocation
  result : x.result.Alike n n' x'.result

/-- The wrappers are of one permutation and have members that are alike. -/
structure Wrapper.Alike (n n' : Naming) (w w' : Wrapper) : Prop where
  permutation : w.permutation = w'.permutation
  typeName : w.typeName = n.wrapper w.permutation
  typeName' : w'.typeName = n'.wrapper w.permutation
  members : List.Forall₂ (Member.Alike n n') w.members w'.members

/-- The reports have one code and one place. -/
structure Report.Alike (r r' : Report) : Prop where
  family : r.family = r'.family
  code : r.code = r'.code
  entity : r.site.entity = r'.site.entity
  capability : r.site.capability = r'.site.capability
  permutation : r.site.permutation = r'.site.permutation
  states : r.site.states = r'.site.states

/-- The failures are the same, or they are reports about shared names that are alike. -/
inductive Failure.Alike : Failure → Failure → Prop where
  | same (e : Failure) : Alike e e
  | collision {r r' : Report} : r.code = .nameCollision → r.Alike r' →
      Alike (.report r) (.report r')

/-- Two outcomes describe one state machine: units with wrappers that are alike, one by one, or
failures that are alike. -/
inductive SameMachine (n n' : Naming) :
    Except Failure CompilationUnit → Except Failure CompilationUnit → Prop where
  | units {u u' : CompilationUnit} :
      List.Forall₂ (Wrapper.Alike n n') u.wrappers u'.wrappers →
      SameMachine n n' (.ok u) (.ok u')
  | failures {e e' : Failure} : e.Alike e' → SameMachine n n' (.error e) (.error e')

/-! ### Resolution under another suffix -/

/-- The result with a wrapper named by the suffix. -/
def Result.named (suffix : String) : Result → Result
  | .value type => .value type
  | .transition successor _ targets =>
    .transition successor (successor.typeName suffix) targets

/-- The resolved capability with a wrapper named by the suffix. -/
def Resolved.named (suffix : String) (x : Resolved) : Resolved :=
  ⟨x.capability, x.result.map (Result.named suffix)⟩

namespace Resolver

variable (r : Resolver) (suffix : String)

/-- The resolver with another suffix. -/
def withSuffix : Resolver := { r with suffix := suffix }

theorem isAvailable_withSuffix (c : Capability) (p : Permutation) :
    (r.withSuffix suffix).isAvailable c p = r.isAvailable c p := by
  unfold isAvailable
  rw [verdicts_eq_mapM, verdicts_eq_mapM]
  rfl

theorem heldTargets_withSuffix (c : Capability) (p : Permutation) (rules : List TransitionRule) :
    (r.withSuffix suffix).heldTargets c p rules = r.heldTargets c p rules := by
  induction rules with
  | nil => rfl
  | cons rule rest ih =>
    rw [heldTargets, heldTargets, ih]
    rfl

theorem moveTo_withSuffix (p : Permutation) (entries : List (String × List String)) :
    (r.withSuffix suffix).moveTo p entries = r.moveTo p entries := by
  induction entries generalizing p with
  | nil => rfl
  | cons e rest ih =>
    simp only [moveTo, ih]
    rfl

theorem successor_withSuffix (c : Capability) (p : Permutation) :
    (r.withSuffix suffix).successor c p = r.successor c p := by
  unfold successor moveToTargets
  simp only [heldTargets_withSuffix, moveTo_withSuffix]
  rfl

theorem result_withSuffix (c : Capability) (p : Permutation) :
    (r.withSuffix suffix).result c p = (r.result c p).map (Result.named suffix) := by
  unfold result
  rw [successor_withSuffix]
  cases c.returns with
  | some type => rfl
  | none => cases r.successor c p <;> rfl

/-- **The suffix is seen in names only**: under another one the same is available, with the same
results or failures. -/
theorem resolve_withSuffix (c : Capability) (p : Permutation) :
    (r.withSuffix suffix).resolve c p = (r.resolve c p).map (Resolved.named suffix) := by
  unfold resolve
  rw [isAvailable_withSuffix, result_withSuffix]
  cases r.isAvailable c p with
  | error e => rfl
  | ok available =>
    cases available with
    | false => rfl
    | true => cases r.result c p <;> rfl

theorem resolve_withSuffix_eq_error_iff {c : Capability} {p : Permutation} {e : Failure} :
    (r.withSuffix suffix).resolve c p = .error e ↔ r.resolve c p = .error e := by
  rw [resolve_withSuffix]
  cases r.resolve c p <;> simp [Except.map]

theorem exists_resolve_withSuffix_iff {c : Capability} {p : Permutation} :
    (∃ x, (r.withSuffix suffix).resolve c p = .ok x) ↔ ∃ x, r.resolve c p = .ok x := by
  rw [resolve_withSuffix]
  cases r.resolve c p <;> simp [Except.map]

end Resolver

/-! ### Wrappers under another presentation -/

/-- The entity in another namespace and with other type parameters. -/
def Entity.presented (entity : Entity) (module : Option String) (typeParameters : List String) :
    Entity :=
  { entity with module := module, typeParameters := typeParameters }

section Presented

variable {settings : Settings} (settings' : Settings) {registry : Registry} {entity : Entity}
  (module : Option String) (typeParameters : List String) {m : GroupMap}

theorem Assembler.alike_expectedMember (c : Capability) (p : Permutation) :
    Member.Alike (.of settings entity) (.of settings' (entity.presented module typeParameters))
      ((Assembler.ofEntity settings registry entity m).expectedMember c p)
      ((Assembler.ofEntity settings' registry (entity.presented module typeParameters)
        m).expectedMember c p) := by
  unfold expectedMember Rules.result
  cases c.returns with
  | some type => exact ⟨rfl, rfl, rfl, rfl, .value type⟩
  | none => exact ⟨rfl, rfl, rfl, rfl, .transition _ _⟩

/-- **The wrappers that the rules call for are alike.** -/
theorem Assembler.alike_expected (p : Permutation) :
    Wrapper.Alike (.of settings entity) (.of settings' (entity.presented module typeParameters))
      ((Assembler.ofEntity settings registry entity m).expected p)
      ((Assembler.ofEntity settings' registry (entity.presented module typeParameters)
        m).expected p) where
  permutation := rfl
  typeName := rfl
  typeName' := rfl
  members := by
    simp only [members_expected, List.forall₂_map_left_iff, List.forall₂_map_right_iff]
    exact List.forall₂_same.mpr fun c _ => alike_expectedMember settings' module typeParameters c p

theorem CompilationUnit.alike_collisionReport (table table' : List (String × List Permutation)) :
    Failure.Alike (.report (CompilationUnit.collisionReport entity table))
      (.report (CompilationUnit.collisionReport (entity.presented module typeParameters) table')) :=
  .collision rfl ⟨rfl, rfl, rfl, rfl, rfl, rfl⟩

/-- An entity that expands to a unit does so under another presentation. -/
theorem Expands.presented {u : CompilationUnit} (h : Expands settings registry entity m u) :
    ∃ u', Expands settings' registry (entity.presented module typeParameters) m u' ∧
      List.Forall₂
        (Wrapper.Alike (.of settings entity)
          (.of settings' (entity.presented module typeParameters)))
        u.wrappers u'.wrappers := by
  have hex := exists_expands_iff.mp ⟨u, h⟩
  obtain ⟨u', h'⟩ :
      ∃ u', Expands settings' registry (entity.presented module typeParameters) m u' :=
    exists_expands_iff.mpr hex
  refine ⟨u', h', ?_⟩
  simp only [h.wrappers_eq, h'.wrappers_eq, List.forall₂_map_left_iff, List.forall₂_map_right_iff]
  exact List.forall₂_same.mpr fun p _ =>
    Assembler.alike_expected settings' module typeParameters p

/-- **Each way to end is the same under another presentation.** -/
theorem Ends.presented {o : Except Failure CompilationUnit}
    (h : Ends settings registry entity m o) :
    ∃ o', Ends settings' registry (entity.presented module typeParameters) m o' ∧
      SameMachine (.of settings entity)
        (.of settings' (entity.presented module typeParameters)) o o' := by
  -- the resolvers differ in the suffix alone
  have hok : ∀ c p,
      (∃ x, (Assembler.ofEntity settings registry entity m).resolver.resolve c p = .ok x) →
        ∃ x, (Assembler.ofEntity settings' registry (entity.presented module typeParameters)
          m).resolver.resolve c p = .ok x := fun c p =>
    (Resolver.exists_resolve_withSuffix_iff _ settings'.nameSuffix).mpr
  cases h with
  | repeated hn => exact ⟨_, .repeated hn, .failures (.same _)⟩
  | failing hu hperms hbefore hcaps hearlier hc =>
    have hc' := (Resolver.resolve_withSuffix_eq_error_iff _ settings'.nameSuffix).mpr hc
    exact ⟨_, .failing hu hperms (fun q hq d hd => hok d q (hbefore q hq d hd)) hcaps
      (fun d hd => hok d _ (hearlier d hd)) hc', .failures (.same _)⟩
  | @collision p q hu hall hp hq hne hname =>
    -- both names end in the suffix, which is taken off here and another one put there
    have htext : Permutation.concat p.states = Permutation.concat q.states :=
      (String.append_left_inj settings.nameSuffix).mp hname
    have hname' : p.typeName settings'.nameSuffix = q.typeName settings'.nameSuffix :=
      (String.append_left_inj settings'.nameSuffix).mpr htext
    exact ⟨_, .collision hu (fun p hp c hc => hok c p (hall p hp c hc)) hp hq hne hname',
      .failures (CompilationUnit.alike_collisionReport module typeParameters _ _)⟩
  | unit he =>
    obtain ⟨u', he', halike⟩ := he.presented settings' module typeParameters
    exact ⟨.ok u', .unit he', .units halike⟩

end Presented

/-! ### Generation -/

/-- Groups that share a name are refused before anything else. -/
theorem generateBy_of_repeated_groups (schedule : Schedule) (settings : Settings)
    (registry : Registry) (entity : Entity) (h : ¬ (entity.groups.map (·.name)).Nodup) :
    generateBy schedule settings registry entity =
      .error (.refused (.duplicateGroups
        (Names.sorted (Names.repeated (entity.groups.map (·.name)))))) := by
  have hrefused : GroupMap.ofGroups entity.groups = .error (.refused (.duplicateGroups
      (Names.sorted (Names.repeated (entity.groups.map (·.name)))))) := dif_neg h
  rw [generateBy, expand, hrefused]
  rfl

/-- **Presentation cannot change the state machine.** Under any two settings, with any namespaces
and type parameters, generation succeeds or fails alike, whatever the schedules of the workers. If
it succeeds, the wrappers are those of the same permutations in the same order, with members that
are alike one by one, and every name of a wrapper is the states one after another and the suffix of
the settings. If it fails, it fails with the same report, except that the report about shared names
writes the names. -/
theorem presentation_irrelevant (schedule schedule' : Schedule) (settings settings' : Settings)
    (registry : Registry) (entity : Entity) (module : Option String)
    (typeParameters : List String) :
    SameMachine (.of settings entity) (.of settings' (entity.presented module typeParameters))
      (generateBy schedule settings registry entity)
      (generateBy schedule' settings' registry (entity.presented module typeParameters)) := by
  by_cases hnames : (entity.groups.map (·.name)).Nodup
  · have h : Ends settings registry entity ⟨entity.groups, hnames⟩
        (generateBy schedule settings registry entity) :=
      ends_generateBy schedule settings registry rfl
    have h' : Ends settings' registry (entity.presented module typeParameters)
        ⟨entity.groups, hnames⟩
        (generateBy schedule' settings' registry (entity.presented module typeParameters)) :=
      ends_generateBy schedule' settings' registry rfl
    obtain ⟨o', ho', halike⟩ := h.presented settings' module typeParameters
    rwa [h'.unique ho']
  · rw [generateBy_of_repeated_groups schedule settings registry entity hnames,
      generateBy_of_repeated_groups schedule' settings' registry
        (entity.presented module typeParameters) hnames]
    exact .failures (.same _)

/-- The wrappers of the lamp, made by two workers with another suffix and without type
parameters. -/
theorem presentation_irrelevant_lamp :
    ∃ u, generate { nameSuffix := "Mode", maxWorkers := 2 } Registry.builtin
        (lamp.presented (some "home") []) = .ok u ∧
      List.Forall₂ (Wrapper.Alike ⟨"State", ["T"]⟩ ⟨"Mode", []⟩) lampUnit.wrappers u.wrappers := by
  have h := presentation_irrelevant Schedule.inOrder Schedule.inOrder {}
    { nameSuffix := "Mode", maxWorkers := 2 } Registry.builtin lamp (some "home") []
  change SameMachine _ _ (generate {} Registry.builtin lamp)
    (generate { nameSuffix := "Mode", maxWorkers := 2 } Registry.builtin
      (lamp.presented (some "home") [])) at h
  rw [generate_lamp] at h
  generalize generate { nameSuffix := "Mode", maxWorkers := 2 } Registry.builtin
    (lamp.presented (some "home") []) = o at h ⊢
  cases h with
  | units halike => exact ⟨_, rfl, halike⟩

end Typestate
