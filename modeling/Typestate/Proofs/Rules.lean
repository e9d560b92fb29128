import Typestate.Proofs.Enumeration
import Typestate.Proofs.Move

/-! # What the rules say

The rules of a capability, read one by one and without the resolver: a condition holds in a
permutation or not, a capability is available if it is marked so or one of its conditions holds, and
it leads to the permutation in which the target of each rule that holds is at its place.

* `Rules.holds`, `Rules.available`, `Rules.exposed`, `Rules.targets`, `Rules.step`: what the rules
  say.
* `Rules.Resolvable`: the rules of the capability say something sensible in the permutation: every
  condition that is looked at has a verdict, availability is not declared twice over, and the
  targets of an available mutation are declared and agree.
* `Resolver.resolve_eq_ok_iff`: resolution succeeds exactly then, and with what the rules say. -/

namespace Typestate

namespace Rules

variable (m : GroupMap) (registry : Registry)

/-- The relation of the condition gives a verdict. -/
def Decided (condition : Condition) (p : Permutation) : Prop :=
  ∃ verdict, registry.evaluate condition.relation.key m p.states condition.states.toList =
    .ok verdict

/-- The condition holds. -/
def holds (condition : Condition) (p : Permutation) : Bool :=
  match registry.evaluate condition.relation.key m p.states condition.states.toList with
  | .ok verdict => verdict
  | .error _ => false

/-- The capability is available for all states, or one of its conditions holds. -/
def available (c : Capability) (p : Permutation) : Bool :=
  c.availableForAll || c.availability.any fun condition => holds m registry condition p

/-- The capabilities that are available, in the order of their declaration. -/
def exposed (capabilities : List Capability) (p : Permutation) : List Capability :=
  capabilities.filter fun c => available m registry c p

/-- The targets of the rules whose conditions hold, in the order of the rules. -/
def targets (c : Capability) (p : Permutation) : List String :=
  (c.transitions.filter fun rule => holds m registry rule.condition p).map (·.target)

/-- **The rule-level step**: each target of a rule that holds is put at its place. -/
def step (c : Capability) (p : Permutation) : Permutation := (targets m registry c p).foldl m.put p

/-- The rules lead to one permutation. -/
structure Movable (c : Capability) (p : Permutation) : Prop where
  decided : ∀ rule ∈ c.transitions, Decided m registry rule.condition p
  declared : ∀ t ∈ targets m registry c p, m.declares t = true
  agree : m.Agree (targets m registry c p)

/-- The capability can be resolved in the permutation. -/
structure Resolvable (c : Capability) (p : Permutation) : Prop where
  unmixed : c.availableForAll = true → c.availability = []
  decided : ∀ condition ∈ c.availability, Decided m registry condition p
  movable : available m registry c p = true → c.returns = none → Movable m registry c p

/-- What a call of the capability gives. -/
def result (suffix : String) (c : Capability) (p : Permutation) : Result :=
  match c.returns with
  | some type => .value type
  | none => .transition (step m registry c p) ((step m registry c p).typeName suffix)
      (Names.distinct (targets m registry c p))

/-- The capability in the permutation. -/
def resolved (suffix : String) (c : Capability) (p : Permutation) : Resolved :=
  ⟨c, if available m registry c p then some (result m registry suffix c p) else none⟩

variable {m registry}

theorem evaluate_eq_ok_iff {condition : Condition} {p : Permutation} {verdict : Bool} :
    registry.evaluate condition.relation.key m p.states condition.states.toList = .ok verdict ↔
      Decided m registry condition p ∧ verdict = holds m registry condition p := by
  unfold Decided holds
  cases registry.evaluate condition.relation.key m p.states condition.states.toList with
  | error e => simp
  | ok b => simp [eq_comm]

theorem holds_eq_true_iff {condition : Condition} {p : Permutation} :
    holds m registry condition p = true ↔
      registry.evaluate condition.relation.key m p.states condition.states.toList = .ok true := by
  unfold holds
  split
  · next h => simp [h]
  · next h => simp [h]

/-- **A step leaves one state of each group.** -/
theorem fits_step {p : Permutation} (h : m.Fits p) (c : Capability) :
    m.Fits (step m registry c p) := GroupMap.fits_foldl_put h _

end Rules

/-! ### The resolver -/

namespace Resolver

open Rules

variable (r : Resolver)

theorem holds_eq_ok_iff {condition : Condition} {c : Capability} {p : Permutation}
    {verdict : Bool} :
    r.holds condition c p = .ok verdict ↔
      Decided r.groups r.registry condition p ∧
        verdict = Rules.holds r.groups r.registry condition p := by
  rw [Resolver.holds, Outcome.mapError_eq_ok, evaluate_eq_ok_iff]

theorem verdicts_eq_mapM (c : Capability) (p : Permutation) (conditions : List Condition) :
    r.verdicts c p conditions = conditions.mapM fun condition => r.holds condition c p := by
  induction conditions with
  | nil => rfl
  | cons condition rest ih =>
    rw [verdicts, List.mapM_cons, ih]
    rfl

theorem heldTargets_eq_ok_iff {c : Capability} {p : Permutation} {rules : List TransitionRule}
    {held : List String} :
    r.heldTargets c p rules = .ok held ↔
      (∀ rule ∈ rules, Decided r.groups r.registry rule.condition p) ∧
        held = (rules.filter fun rule => Rules.holds r.groups r.registry rule.condition p).map
          (·.target) := by
  induction rules generalizing held with
  | nil => simp [heldTargets, eq_comm]
  | cons rule rest ih =>
    rw [heldTargets, Outcome.bind_eq_ok, List.forall_mem_cons]
    constructor
    · rintro ⟨verdict, hverdict, h⟩
      obtain ⟨others, hothers, h⟩ := Outcome.bind_eq_ok.mp h
      obtain ⟨hd, rfl⟩ := (holds_eq_ok_iff r).mp hverdict
      obtain ⟨hrest, rfl⟩ := ih.mp hothers
      cases h
      refine ⟨⟨hd, hrest⟩, ?_⟩
      rw [List.filter_cons]
      split <;> rfl
    · rintro ⟨⟨hd, hrest⟩, rfl⟩
      refine ⟨_, (holds_eq_ok_iff r).mpr ⟨hd, rfl⟩,
        Outcome.bind_eq_ok.mpr ⟨_, ih.mpr ⟨hrest, rfl⟩, ?_⟩⟩
      rw [List.filter_cons]
      split <;> rfl

/-- **When availability is decided, and how.** -/
theorem isAvailable_eq_ok_iff {c : Capability} {p : Permutation} {b : Bool} :
    r.isAvailable c p = .ok b ↔
      (c.availableForAll = true → c.availability = []) ∧
        (∀ condition ∈ c.availability, Decided r.groups r.registry condition p) ∧
        b = available r.groups r.registry c p := by
  unfold isAvailable available
  by_cases hall : c.availableForAll = true
  · by_cases hnone : c.availability = []
    · simp [hall, hnone, eq_comm]
    · simp [hall, hnone]
  · simp only [Bool.not_eq_true] at hall
    simp only [hall, Bool.false_eq_true, if_false, false_implies, true_and, Bool.false_or]
    rw [Outcome.bind_eq_ok]
    simp only [verdicts_eq_mapM, Outcome.mapM_eq_ok_map fun condition _ _ => holds_eq_ok_iff r]
    constructor
    · rintro ⟨_, ⟨hd, rfl⟩, h⟩
      cases h
      exact ⟨hd, by rw [List.any_map]; rfl⟩
    · rintro ⟨hd, rfl⟩
      exact ⟨_, ⟨hd, rfl⟩, by rw [List.any_map]; rfl⟩

/-- **When the successor is computed, and which one it is.** -/
theorem successor_eq_ok_iff {c : Capability} {p : Permutation}
    (hp : p.states.length = r.groups.groups.length) {reached : Permutation × List String} :
    r.successor c p = .ok reached ↔ Movable r.groups r.registry c p ∧
      reached =
        (step r.groups r.registry c p, Names.distinct (targets r.groups r.registry c p)) := by
  have hmem : ∀ s, s ∈ Names.distinct (targets r.groups r.registry c p) ↔
      s ∈ targets r.groups r.registry c p := fun _ => Names.mem_distinct
  rw [successor, Outcome.bind_eq_ok]
  constructor
  · rintro ⟨held, hheld, h⟩
    obtain ⟨q, hq, h⟩ := Outcome.bind_eq_ok.mp h
    obtain ⟨hdecided, rfl⟩ := (heldTargets_eq_ok_iff r).mp hheld
    obtain ⟨hdeclared, hagree, rfl⟩ :=
      (moveToTargets_eq_ok_iff r hp (Names.nodup_distinct _)).mp hq
    cases h
    refine ⟨⟨hdecided, fun t ht => hdeclared t ((hmem t).mpr ht), hagree.congr hmem⟩, ?_⟩
    rw [step, ← GroupMap.foldl_put_congr hagree hmem hp]
    rfl
  · rintro ⟨⟨hdecided, hdeclared, hagree⟩, rfl⟩
    refine ⟨_, (heldTargets_eq_ok_iff r).mpr ⟨hdecided, rfl⟩, Outcome.bind_eq_ok.mpr ⟨_, ?_, rfl⟩⟩
    refine (moveToTargets_eq_ok_iff r hp (Names.nodup_distinct _)).mpr ⟨fun t ht => ?_, ?_, ?_⟩
    · exact hdeclared t ((hmem t).mp ht)
    · exact hagree.congr fun s => (hmem s).symm
    · exact GroupMap.foldl_put_congr hagree (fun s => (hmem s).symm) hp

theorem result_eq_ok_iff {c : Capability} {p : Permutation}
    (hp : p.states.length = r.groups.groups.length) {x : Result} :
    r.result c p = .ok x ↔ (c.returns = none → Movable r.groups r.registry c p) ∧
      x = Rules.result r.groups r.registry r.suffix c p := by
  unfold Resolver.result Rules.result
  cases c.returns with
  | some type => simp [eq_comm]
  | none =>
    simp only [Outcome.bind_eq_ok, successor_eq_ok_iff r hp, true_implies]
    constructor
    · rintro ⟨_, ⟨hm, rfl⟩, h⟩
      cases h
      exact ⟨hm, rfl⟩
    · rintro ⟨hm, rfl⟩
      exact ⟨_, ⟨hm, rfl⟩, rfl⟩

/-- **Resolution succeeds exactly if the rules say something sensible, and with what they say.** -/
theorem resolve_eq_ok_iff {c : Capability} {p : Permutation}
    (hp : p.states.length = r.groups.groups.length) {x : Resolved} :
    r.resolve c p = .ok x ↔ Resolvable r.groups r.registry c p ∧
      x = Rules.resolved r.groups r.registry r.suffix c p := by
  rw [resolve, Outcome.bind_eq_ok]
  constructor
  · rintro ⟨b, hb, h⟩
    obtain ⟨hu, hd, rfl⟩ := (isAvailable_eq_ok_iff r).mp hb
    unfold Rules.resolved
    split at h
    · next hopen =>
      obtain ⟨y, hy, h⟩ := Outcome.bind_eq_ok.mp h
      obtain ⟨hm, rfl⟩ := (result_eq_ok_iff r hp).mp hy
      cases h
      exact ⟨⟨hu, hd, fun _ => hm⟩, by rw [if_pos hopen]⟩
    · next hopen =>
      cases h
      exact ⟨⟨hu, hd, fun h => absurd h hopen⟩, by rw [if_neg hopen]⟩
  · rintro ⟨⟨hu, hd, hm⟩, rfl⟩
    refine ⟨_, (isAvailable_eq_ok_iff r).mpr ⟨hu, hd, rfl⟩, ?_⟩
    unfold Rules.resolved
    split
    · next hopen =>
      exact Outcome.bind_eq_ok.mpr ⟨_, (result_eq_ok_iff r hp).mpr ⟨hm hopen, rfl⟩, rfl⟩
    · rfl

end Resolver
end Typestate
