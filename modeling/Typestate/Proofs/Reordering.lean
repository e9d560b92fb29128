import Mathlib.Data.Option.Defs
import Typestate.Proofs.Successor

/-! # Transition rules in another order

The targets of a capability are put one after another, in the order of its rules, and yet no rule
hides or undoes what another one does: two capabilities with the same set of rules lead to the same
permutation, or go wrong in the same way.

* `Capability.withRules`: the capability with other rules.
* `Result.SameMove`, `SameFault`: results, and failures about targets, that are the same but for the
  order in which targets are listed.
* `Rules.movable_withRules_iff`, `Rules.step_withRules`: rules that say the same in another order
  say something sensible together, and lead to the same permutation.
* `Resolver.sameFault_successor`: what is wrong with the targets is the same.
* `rule_order_irrelevant`: the same for resolution. -/

namespace Typestate

open Rules

/-- The capability with other transition rules. -/
def Capability.withRules (c : Capability) (rules : List TransitionRule) : Capability :=
  { c with transitions := rules }

/-- Availability takes no notice of transition rules. -/
theorem Resolver.isAvailable_withRules (r : Resolver) (c : Capability) (rules : List TransitionRule)
    (p : Permutation) : r.isAvailable (c.withRules rules) p = r.isAvailable c p := by
  unfold isAvailable
  rw [verdicts_eq_mapM, verdicts_eq_mapM]
  rfl

/-- The results are one value, or transitions under one name to one permutation because of the same
targets. -/
inductive Result.SameMove : Result → Result → Prop where
  | value (type : String) : SameMove (.value type) (.value type)
  | transition (successor : Permutation) (type : String) {targets targets' : List String} :
      (∀ t, t ∈ targets ↔ t ∈ targets') →
      SameMove (.transition successor type targets) (.transition successor type targets')

/-- The failures are reports about the same unknown targets, or about the same competing ones. -/
inductive SameFault (r : Resolver) (c : Capability) (p : Permutation) :
    Failure → Failure → Prop where
  | intro {code : Code} {message message' : String} {states states' : List String} :
      code ∈ [.unknownTarget, .ambiguousTransition] → (∀ s, s ∈ states ↔ s ∈ states') →
      SameFault r c p (r.failure code message c p states) (r.failure code message' c p states')

section SameRules

variable {c : Capability} {rules : List TransitionRule} {p : Permutation}
  (hset : ∀ rule, rule ∈ rules ↔ rule ∈ c.transitions)
include hset

/-! ### What the rules say -/

namespace Rules

variable {m : GroupMap} {registry : Registry}

theorem mem_targets_withRules {t : String} :
    t ∈ targets m registry (c.withRules rules) p ↔ t ∈ targets m registry c p := by
  simp only [targets, Capability.withRules, List.mem_map, List.mem_filter, hset]

theorem movable_withRules_iff :
    Movable m registry (c.withRules rules) p ↔ Movable m registry c p := by
  have hmem : ∀ t, t ∈ targets m registry (c.withRules rules) p ↔ t ∈ targets m registry c p :=
    fun _ => mem_targets_withRules hset
  constructor
  · exact fun h => ⟨fun rule hrule => h.decided rule ((hset rule).mpr hrule),
      fun t ht => h.declared t ((hmem t).mpr ht), h.agree.congr hmem⟩
  · exact fun h => ⟨fun rule hrule => h.decided rule ((hset rule).mp hrule),
      fun t ht => h.declared t ((hmem t).mp ht), h.agree.congr fun t => (hmem t).symm⟩

theorem resolvable_withRules_iff :
    Resolvable m registry (c.withRules rules) p ↔ Resolvable m registry c p := by
  have hmovable : Movable m registry (c.withRules rules) p ↔ Movable m registry c p :=
    movable_withRules_iff hset
  exact ⟨fun h => ⟨h.unmixed, h.decided, fun ha hr => hmovable.mp (h.movable ha hr)⟩,
    fun h => ⟨h.unmixed, h.decided, fun ha hr => hmovable.mpr (h.movable ha hr)⟩⟩

/-- **The rules lead to the same permutation in any order.** -/
theorem step_withRules (h : Movable m registry c p) (hp : p.states.length = m.groups.length) :
    step m registry (c.withRules rules) p = step m registry c p :=
  (GroupMap.foldl_put_congr h.agree (fun _ => (mem_targets_withRules hset).symm) hp).symm

theorem sameMove_resolved (h : Resolvable m registry c p) (hp : p.states.length = m.groups.length)
    (suffix : String) :
    Option.Rel Result.SameMove (resolved m registry suffix c p).result
      (resolved m registry suffix (c.withRules rules) p).result := by
  have hopen : available m registry (c.withRules rules) p = available m registry c p := rfl
  unfold resolved
  rw [hopen]
  cases ha : available m registry c p with
  | false => exact .none
  | true =>
    refine .some ?_
    have hreturns : (c.withRules rules).returns = c.returns := rfl
    unfold Rules.result
    rw [hreturns]
    cases hr : c.returns with
    | some type => exact .value type
    | none =>
      rw [step_withRules hset (h.movable ha hr) hp]
      refine .transition _ _ fun t => ?_
      rw [Names.mem_distinct, Names.mem_distinct, mem_targets_withRules hset]

end Rules

/-! ### What is wrong with the targets -/

namespace Resolver

variable {r : Resolver}

/-- **The same targets are wrong in any order of the rules.** -/
theorem sameFault_successor (hu : r.groups.allStates.Nodup)
    (hp : p.states.length = r.groups.groups.length)
    (hd : ∀ rule ∈ c.transitions, Decided r.groups r.registry rule.condition p) {e : Failure}
    (h : r.successor c p = .error e) :
    ∃ e', r.successor (c.withRules rules) p = .error e' ∧ SameFault r c p e e' := by
  have hd' : ∀ rule ∈ (c.withRules rules).transitions,
      Decided r.groups r.registry rule.condition p :=
    fun rule hrule => hd rule ((hset rule).mp hrule)
  have hmem : ∀ t, t ∈ targets r.groups r.registry c p ↔
      t ∈ targets r.groups r.registry (c.withRules rules) p :=
    fun _ => (mem_targets_withRules hset).symm
  rcases (r.successor_eq_error_iff_of_decided hd hp).mp h with
    ⟨⟨t, ht, hundeclared⟩, rfl⟩ | ⟨hall, hcontested, rfl⟩
  · refine ⟨_, r.successor_of_unknown hd' ⟨t, (hmem t).mp ht, hundeclared⟩,
      .intro (by simp) fun s => ?_⟩
    simp only [Names.mem_distinct, List.mem_filter, hmem]
  · have hcontested' : ¬ r.groups.Agree (targets r.groups r.registry (c.withRules rules) p) :=
      fun ha => hcontested (ha.congr fun t => (hmem t).symm)
    refine ⟨_, r.successor_of_ambiguous hd' (fun t ht => hall t ((hmem t).mpr ht)) hcontested',
      .intro (by simp) fun s => ?_⟩
    rw [r.mem_contested_iff hu (Names.nodup_distinct _),
      r.mem_contested_iff hu (Names.nodup_distinct _)]
    simp only [Names.mem_distinct, hmem]

end Resolver

end SameRules

/-- **Neither the order nor the repetition of transition rules matters.** A capability with the same
set of rules can be resolved in the same permutations; there it leads under the same name to the
same permutation, because of the same targets. If the conditions of all rules have verdicts, then
what is wrong with the targets is the same: they are unknown, or they compete, and they are the same
ones. A failure of availability, in which the rules take no part, stays as it is. -/
theorem rule_order_irrelevant {r : Resolver} (hu : r.groups.allStates.Nodup) {p : Permutation}
    (hp : p.states.length = r.groups.groups.length) {c : Capability} {rules : List TransitionRule}
    (hset : ∀ rule, rule ∈ rules ↔ rule ∈ c.transitions) :
    ((∃ x, r.resolve c p = .ok x) ↔ ∃ x, r.resolve (c.withRules rules) p = .ok x) ∧
    (∀ x x', r.resolve c p = .ok x → r.resolve (c.withRules rules) p = .ok x' →
      Option.Rel Result.SameMove x.result x'.result) ∧
    ((∀ rule ∈ c.transitions, ∃ verdict, r.holds rule.condition c p = .ok verdict) →
      ∀ e, r.resolve c p = .error e → ∃ e', r.resolve (c.withRules rules) p = .error e' ∧
        (r.isAvailable c p = .error e ∧ e' = e ∨ SameFault r c p e e')) := by
  refine ⟨?_, fun x x' h h' => ?_, fun hdecided e h => ?_⟩
  · simp only [r.resolve_eq_ok_iff hp, exists_and_left, exists_eq, and_true,
      resolvable_withRules_iff hset]
  · obtain ⟨hresolvable, rfl⟩ := (r.resolve_eq_ok_iff hp).mp h
    obtain ⟨-, rfl⟩ := (r.resolve_eq_ok_iff hp).mp h'
    exact sameMove_resolved hset hresolvable hp r.suffix
  · rcases r.resolve_eq_error_iff.mp h with h | ⟨hopen, hreturns, h⟩
    · exact ⟨e, r.resolve_eq_error_iff.mpr (.inl ((r.isAvailable_withRules c rules p).trans h)),
        .inl ⟨h, rfl⟩⟩
    · have hd : ∀ rule ∈ c.transitions, Decided r.groups r.registry rule.condition p :=
        fun rule hrule => r.exists_holds_iff.mp (hdecided rule hrule)
      obtain ⟨e', he', hsame⟩ := Resolver.sameFault_successor hset hu hp hd h
      have hopen' := (r.isAvailable_withRules c rules p).trans hopen
      exact ⟨e', r.resolve_eq_error_iff.mpr (.inr ⟨hopen', hreturns, he'⟩), .inr hsame⟩

/-- Night and off come to the same as off, night and off again. Of two unknown and two competing
targets the unknown ones are reported, in whatever order they come. -/
theorem rule_order_irrelevant_dimmer :
    dimmerResolver.groups.allStates.Nodup ∧
      (∃ x x', dimmerResolver.resolve (leading ["Night", "Off"]) ⟨["On", "Mid", "Day"]⟩ = .ok x ∧
        dimmerResolver.resolve (leading ["Off", "Night", "Off"]) ⟨["On", "Mid", "Day"]⟩ = .ok x' ∧
        x.result =
          some (.transition ⟨["Off", "Mid", "Night"]⟩ "OffMidNightState" ["Night", "Off"]) ∧
        Option.Rel Result.SameMove x.result x'.result) ∧
      ∃ e e', dimmerResolver.resolve (leading ["Low", "Gone", "High", "Lost"])
        ⟨["On", "Mid", "Day"]⟩ =
          .error e ∧
        dimmerResolver.resolve (leading ["Lost", "Lost", "High", "Gone", "Low"])
          ⟨["On", "Mid", "Day"]⟩ =
          .error e' ∧
        e.code? = some .unknownTarget ∧ SameFault dimmerResolver
          (leading ["Low", "Gone", "High", "Lost"]) ⟨["On", "Mid", "Day"]⟩ e e' := by
  have hu : dimmerResolver.groups.allStates.Nodup := by decide
  have hp : (⟨["On", "Mid", "Day"]⟩ : Permutation).states.length =
      dimmerResolver.groups.groups.length := rfl
  have hmoved : ∀ rule, rule ∈ (leading ["Off", "Night", "Off"]).transitions ↔
      rule ∈ (leading ["Night", "Off"]).transitions := by simp [leading]
  have hwrong : ∀ rule, rule ∈ (leading ["Lost", "Lost", "High", "Gone", "Low"]).transitions ↔
      rule ∈ (leading ["Low", "Gone", "High", "Lost"]).transitions := by
    simp only [leading, List.map_cons, List.map_nil, List.mem_cons, List.not_mem_nil, or_false]
    tauto
  obtain ⟨hsucceeds, hsame, -⟩ := rule_order_irrelevant hu hp hmoved
  obtain ⟨x', hx'⟩ := hsucceeds.mp ⟨_, rfl⟩
  obtain ⟨-, -, hfault⟩ := rule_order_irrelevant hu hp hwrong
  have hdecided : ∀ rule ∈ (leading ["Low", "Gone", "High", "Lost"]).transitions, ∃ verdict,
      dimmerResolver.holds rule.condition (leading ["Low", "Gone", "High", "Lost"])
        ⟨["On", "Mid", "Day"]⟩ = .ok verdict := fun rule hrule => by
    obtain ⟨t, -, rfl⟩ := List.mem_map.mp hrule
    exact ⟨true, rfl⟩
  obtain ⟨e', he', ⟨hclosed, -⟩ | hreported⟩ := hfault hdecided _ rfl
  · cases hclosed
  · exact ⟨hu, ⟨_, x', rfl, hx', rfl, hsame _ x' rfl hx'⟩, _, e', rfl, he', rfl, hreported⟩

end Typestate
