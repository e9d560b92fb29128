import Typestate.Proofs.Builtin
import Typestate.Proofs.Ending

/-! # When generation succeeds

Under the built-in relations an entity has a unit exactly if it is consistent: its states are
unique, the conditions that are looked at are valid, targets are declared and do not compete, and
the permutations have different names. Otherwise generation fails with the report of an
inconsistency.

* `exists_expands_iff`: when an entity expands to a unit, whatever the relations.
* `Consistent`: the conditions on the entity, in terms of its own groups, conditions and rules.
* `generates_iff_consistent`: they are exactly what generation asks for. The rules of capabilities
  that return a value are not among it. -/

namespace Typestate

open Rules

/-! ### Consistency -/

namespace Capability

/-- The capability is available for all states, or one of its conditions is met. -/
def OpenIn (c : Capability) (p : Permutation) : Prop :=
  c.availableForAll = true ∨ ∃ condition ∈ c.availability, condition.Met p

/-- The state is the target of a rule whose condition is met. -/
def Targets (c : Capability) (p : Permutation) (state : String) : Prop :=
  ∃ rule ∈ c.transitions, rule.condition.Met p ∧ rule.target = state

/-- The rules lead from the permutation to one other. -/
structure Leads (groups : List StateGroup) (c : Capability) (p : Permutation) : Prop where
  valid : ∀ rule ∈ c.transitions, rule.condition.Valid groups
  declared : ∀ s, c.Targets p s → s ∈ groups.flatMap (·.states)
  agree : ∀ g ∈ groups, ∀ s t, c.Targets p s → c.Targets p t → s ∈ g.states → t ∈ g.states → s = t

end Capability

/-- The permutations of the groups of an entity. -/
def Entity.permutations (entity : Entity) : List Permutation :=
  Permutation.enumerate (entity.groups.map (·.states))

/-- The description of an entity contradicts itself nowhere where it is looked at. -/
structure Consistent (entity : Entity) : Prop where
  unique : (entity.groups.flatMap (·.states)).Nodup
  availability : entity.permutations ≠ [] → ∀ c ∈ entity.capabilities,
    (c.availableForAll = true → c.availability = []) ∧
      ∀ condition ∈ c.availability, condition.Valid entity.groups
  moves : ∀ p ∈ entity.permutations, ∀ c ∈ entity.capabilities, c.returns = none → c.OpenIn p →
    c.Leads entity.groups p
  naming : ∀ p ∈ entity.permutations, ∀ q ∈ entity.permutations,
    Permutation.concat p.states = Permutation.concat q.states → p = q

/-! ### Capabilities under the built-in relations -/

section Builtin

variable {m : GroupMap} {c : Capability} {p : Permutation}

theorem available_builtin_iff (hu : m.allStates.Nodup)
    (hv : ∀ condition ∈ c.availability, condition.Valid m.groups) :
    available m Registry.builtin c p = true ↔ c.OpenIn p := by
  rw [available, Bool.or_eq_true, List.any_eq_true, Capability.OpenIn]
  refine or_congr_right (exists_congr fun condition => and_congr_right fun hc => ?_)
  exact holds_builtin_iff hu (hv condition hc)

theorem mem_targets_builtin (hu : m.allStates.Nodup)
    (hv : ∀ rule ∈ c.transitions, rule.condition.Valid m.groups) {s : String} :
    s ∈ targets m Registry.builtin c p ↔ c.Targets p s := by
  simp only [targets, List.mem_map, List.mem_filter, Capability.Targets, and_assoc]
  refine exists_congr fun rule => and_congr_right fun hrule => and_congr_left' ?_
  exact holds_builtin_iff hu (hv rule hrule)

theorem movable_builtin_iff (hu : m.allStates.Nodup) :
    Movable m Registry.builtin c p ↔ c.Leads m.groups p := by
  constructor
  · rintro ⟨hdecided, hdeclared, hagree⟩
    have hv : ∀ rule ∈ c.transitions, rule.condition.Valid m.groups := fun rule hrule =>
      (decided_builtin_iff hu).mp (hdecided rule hrule)
    refine ⟨hv, fun s hs => ?_, fun g hg s t hs ht => ?_⟩
    · exact m.declares_iff.mp (hdeclared s ((mem_targets_builtin hu hv).mpr hs))
    · exact (GroupMap.agree_iff hu).mp hagree g hg s ((mem_targets_builtin hu hv).mpr hs) t
        ((mem_targets_builtin hu hv).mpr ht)
  · rintro ⟨hv, hdeclared, hagree⟩
    refine ⟨fun rule hrule => (decided_builtin_iff hu).mpr (hv rule hrule), fun s hs => ?_,
      (GroupMap.agree_iff hu).mpr fun g hg s hs t ht => ?_⟩
    · exact m.declares_iff.mpr (hdeclared s ((mem_targets_builtin hu hv).mp hs))
    · exact hagree g hg s t ((mem_targets_builtin hu hv).mp hs) ((mem_targets_builtin hu hv).mp ht)

/-- **When a capability can be resolved**, in terms of its conditions and rules. -/
theorem resolvable_builtin_iff (hu : m.allStates.Nodup) :
    Resolvable m Registry.builtin c p ↔
      ((c.availableForAll = true → c.availability = []) ∧
        ∀ condition ∈ c.availability, condition.Valid m.groups) ∧
      (c.returns = none → c.OpenIn p → c.Leads m.groups p) := by
  constructor
  · rintro ⟨hunmixed, hdecided, hmovable⟩
    have hv : ∀ condition ∈ c.availability, condition.Valid m.groups := fun condition hc =>
      (decided_builtin_iff hu).mp (hdecided condition hc)
    refine ⟨⟨hunmixed, hv⟩, fun hr hopen => ?_⟩
    exact (movable_builtin_iff hu).mp (hmovable ((available_builtin_iff hu hv).mpr hopen) hr)
  · rintro ⟨⟨hunmixed, hv⟩, hleads⟩
    refine ⟨hunmixed, fun condition hc => (decided_builtin_iff hu).mpr (hv condition hc),
      fun hopen hr => ?_⟩
    exact (movable_builtin_iff hu).mpr (hleads hr ((available_builtin_iff hu hv).mp hopen))

end Builtin

/-! ### The criterion -/

/-- **The wrappers have different names exactly if the states of no two permutations make up one
text**: all names end in the same suffix. -/
theorem nodup_typeNames_iff (settings : Settings) (registry : Registry) (entity : Entity)
    {m : GroupMap} (hu : m.allStates.Nodup) :
    (((Permutation.enumerate m.stateLists).map
        (Assembler.ofEntity settings registry entity m).expected).map (·.typeName)).Nodup ↔
      ∀ p ∈ Permutation.enumerate m.stateLists, ∀ q ∈ Permutation.enumerate m.stateLists,
        Permutation.concat p.states = Permutation.concat q.states → p = q := by
  rw [List.map_map, List.nodup_map_iff_inj_on (GroupMap.nodup_permutations hu)]
  refine forall₂_congr fun p _ => forall₂_congr fun q _ => imp_congr_left ?_
  exact String.append_left_inj settings.nameSuffix

/-- **When an entity expands to a unit.** -/
theorem exists_expands_iff {settings : Settings} {registry : Registry} {entity : Entity}
    {m : GroupMap} :
    (∃ unit, Expands settings registry entity m unit) ↔
      m.groups = entity.groups ∧ m.allStates.Nodup ∧
        (∀ p ∈ Permutation.enumerate m.stateLists, ∀ c ∈ entity.capabilities,
          Resolvable m registry c p) ∧
        ∀ p ∈ Permutation.enumerate m.stateLists, ∀ q ∈ Permutation.enumerate m.stateLists,
          Permutation.concat p.states = Permutation.concat q.states → p = q := by
  constructor
  · rintro ⟨unit, h⟩
    refine ⟨h.groups, h.unique, h.resolvable,
      (nodup_typeNames_iff settings registry entity h.unique).mp ?_⟩
    rw [← h.wrappers_eq]
    exact unit.distinctNames
  · rintro ⟨hm, hu, hr, hnaming⟩
    have hnames := (nodup_typeNames_iff settings registry entity hu).mpr hnaming
    exact ⟨⟨entity, _, settings.nameSuffix, hnames⟩, hm, hu, hr, rfl, rfl, rfl⟩

/-- **When there is a unit**, under any relations. -/
theorem exists_generate_iff {settings : Settings} {registry : Registry} {entity : Entity} :
    (∃ unit, generate settings registry entity = .ok unit) ↔
      ∃ m : GroupMap, m.groups = entity.groups ∧ m.allStates.Nodup ∧
        (∀ p ∈ Permutation.enumerate m.stateLists, ∀ c ∈ entity.capabilities,
          Resolvable m registry c p) ∧
        ∀ p ∈ Permutation.enumerate m.stateLists, ∀ q ∈ Permutation.enumerate m.stateLists,
          Permutation.concat p.states = Permutation.concat q.states → p = q := by
  simp only [generate_eq_ok_iff]
  exact exists_comm.trans (exists_congr fun m => exists_expands_iff)

theorem exists_generate_builtin_iff (settings : Settings) {entity : Entity}
    (hnames : (entity.groups.map (·.name)).Nodup) :
    (∃ unit, generate settings Registry.builtin entity = .ok unit) ↔ Consistent entity := by
  rw [exists_generate_iff]
  constructor
  · rintro ⟨⟨_, _⟩, rfl, hu, hr, hnaming⟩
    refine ⟨hu, fun hne c hc => ?_, fun p hp c hc => ?_, hnaming⟩
    · obtain ⟨p, hp⟩ := List.exists_mem_of_ne_nil _ hne
      exact ((resolvable_builtin_iff hu).mp (hr p hp c hc)).1
    · exact ((resolvable_builtin_iff hu).mp (hr p hp c hc)).2
  · rintro ⟨hu, havailability, hmoves, hnaming⟩
    have hu' : (GroupMap.mk entity.groups hnames).allStates.Nodup := hu
    refine ⟨⟨entity.groups, hnames⟩, rfl, hu, fun p hp c hc => ?_, hnaming⟩
    exact (resolvable_builtin_iff hu').mpr
      ⟨havailability (List.ne_nil_of_mem hp) c hc, hmoves p hp c hc⟩

/-- **Nothing but an inconsistency is reported**, unless by a relation. -/
theorem Ends.inconsistent {settings : Settings} {entity : Entity} {m : GroupMap} {e : Failure}
    (h : Ends settings Registry.builtin entity m (.error e)) : e.Inconsistent := by
  cases h with
  | repeated => exact ⟨_, rfl, rfl⟩
  | failing _ hperms _ _ _ hc =>
    cases Resolver.fails_of_enumerated _ hperms hc with
    | conflict => exact ⟨_, rfl, rfl⟩
    | condition _ hholds =>
      obtain ⟨d, hd, rfl⟩ := (Resolver.holds_eq_error_iff _).mp hholds
      exact (Registry.inconsistent_of_evaluate_builtin hd).mapSite _
    | unknown => exact ⟨_, rfl, rfl⟩
    | ambiguous => exact ⟨_, rfl, rfl⟩
  | collision => exact ⟨_, rfl, rfl⟩

/-! ### Rules that are not looked at -/

namespace Capability

/-- The capability with other rules, if it returns a value. -/
def reruled (rules : Capability → List TransitionRule) (c : Capability) : Capability :=
  if c.returns = none then c else { c with transitions := rules c }

variable {rules : Capability → List TransitionRule} {c : Capability}

theorem returns_reruled : (c.reruled rules).returns = c.returns := by
  unfold reruled
  split <;> rfl

theorem availableForAll_reruled : (c.reruled rules).availableForAll = c.availableForAll := by
  unfold reruled
  split <;> rfl

theorem availability_reruled : (c.reruled rules).availability = c.availability := by
  unfold reruled
  split <;> rfl

theorem reruled_of_mutation (h : c.returns = none) : c.reruled rules = c := if_pos h

end Capability

/-- The entity with other rules in capabilities that return a value. -/
def Entity.reruled (rules : Capability → List TransitionRule) (entity : Entity) : Entity :=
  { entity with capabilities := entity.capabilities.map (Capability.reruled rules) }

theorem consistent_reruled_iff {rules : Capability → List TransitionRule} {entity : Entity} :
    Consistent (entity.reruled rules) ↔ Consistent entity := by
  constructor
  · rintro ⟨hu, havailability, hmoves, hnaming⟩
    refine ⟨hu, fun hne c hc => ?_, fun p hp c hc hr hopen => ?_, hnaming⟩
    · have h := havailability hne _ (List.mem_map_of_mem hc)
      rwa [Capability.availableForAll_reruled, Capability.availability_reruled] at h
    · have h := hmoves p hp _ (List.mem_map_of_mem hc)
      rw [Capability.reruled_of_mutation hr] at h
      exact h hr hopen
  · rintro ⟨hu, havailability, hmoves, hnaming⟩
    refine ⟨hu, fun hne c' hc' => ?_, fun p hp c' hc' hr hopen => ?_, hnaming⟩
    · obtain ⟨c, hc, rfl⟩ := List.mem_map.mp hc'
      rw [Capability.availableForAll_reruled, Capability.availability_reruled]
      exact havailability hne c hc
    · obtain ⟨c, hc, rfl⟩ := List.mem_map.mp hc'
      rw [Capability.returns_reruled] at hr
      rw [Capability.reruled_of_mutation hr] at hopen ⊢
      exact hmoves p hp c hc hr hopen

/-- **Generation succeeds exactly if the entity is consistent**, and otherwise reports an
inconsistency. What rules a capability that returns a value has makes no difference. -/
theorem generates_iff_consistent (settings : Settings) {entity : Entity}
    (hnames : (entity.groups.map (·.name)).Nodup) :
    ((∃ unit, generate settings Registry.builtin entity = .ok unit) ↔ Consistent entity) ∧
    (¬ Consistent entity → ∃ r, generate settings Registry.builtin entity = .error (.report r) ∧
      r.family = .inconsistency) ∧
    ∀ rules : Capability → List TransitionRule,
      (∃ unit, generate settings Registry.builtin (entity.reruled rules) = .ok unit) ↔
        ∃ unit, generate settings Registry.builtin entity = .ok unit := by
  have hiff := exists_generate_builtin_iff settings hnames
  refine ⟨hiff, fun hn => ?_, fun rules => ?_⟩
  · cases hout : generate settings Registry.builtin entity with
    | ok unit => exact absurd (hiff.mp ⟨unit, hout⟩) hn
    | error e =>
      have hends := hout ▸ ends_generate settings Registry.builtin hnames
      obtain ⟨r, rfl, hr⟩ := hends.inconsistent
      exact ⟨r, rfl, hr⟩
  · have hreruled : ((entity.reruled rules).groups.map (·.name)).Nodup := hnames
    rw [hiff, exists_generate_builtin_iff settings hreruled]
    exact consistent_reruled_iff

/-- The lamp is consistent, also if its level leads nowhere; with one state twice it is not. -/
theorem generates_iff_consistent_lamp :
    Consistent lamp ∧
      (∃ unit, generate {} Registry.builtin
        (lamp.reruled fun _ => [TransitionRule.always "Nowhere"]) = .ok unit) ∧
      ∃ r, generate {} Registry.builtin { lamp with groups := [⟨"Power", ["On", "On"]⟩] } =
        .error (.report r) ∧ r.family = .inconsistency := by
  have hnames : (lamp.groups.map (·.name)).Nodup := by decide
  obtain ⟨hiff, -, hrules⟩ := generates_iff_consistent {} hnames
  refine ⟨hiff.mp ⟨_, generate_lamp⟩, (hrules _).mpr ⟨_, generate_lamp⟩, ?_⟩
  refine (generates_iff_consistent {} (by decide)).2.1 fun h => ?_
  have hu := h.unique
  revert hu
  decide

end Typestate
