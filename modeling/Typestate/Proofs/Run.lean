import Typestate.Proofs.Expansion

/-! # Runs

A run starts at a wrapper of the unit; each call picks a transition member of the wrapper that has
been reached, and leads to the wrapper that the unit holds under the name of the successor.

* `CompilationUnit.follow`, `CompilationUnit.Picks`: the calls of members, given by their positions.
* `Rules.run`: the same calls by the rules alone, without wrappers and names.
* `follow_simulates_rules`: the two go together, call by call, and no call fails. -/

namespace Typestate

open Rules

namespace CompilationUnit

/-- The wrapper that is reached by calls of the members at the given positions. -/
def follow (u : CompilationUnit) : Wrapper → List Nat → Except Failure Wrapper
  | w, [] => .ok w
  | w, k :: calls =>
    match w.members[k]? with
    | none => .error (.noPosition .reading)
    | some x => do
      let next ← u.successorOf x
      follow u next calls

/-- Each call picks a transition member of the wrapper reached so far. -/
def Picks (u : CompilationUnit) : Wrapper → List Nat → Prop
  | _, [] => True
  | w, k :: calls => ∃ x, w.members[k]? = some x ∧ x.result.isTransition = true ∧
      ∀ next, u.successorOf x = .ok next → Picks u next calls

theorem Picks.take {u : CompilationUnit} {w : Wrapper} {calls : List Nat} (h : u.Picks w calls)
    (n : Nat) : u.Picks w (calls.take n) := by
  induction calls generalizing w n with
  | nil => rwa [List.take_nil]
  | cons k rest ih =>
    cases n with
    | zero => trivial
    | succ n =>
      obtain ⟨x, hx, ht, hnext⟩ := h
      exact ⟨x, hx, ht, fun next hn => ih (hnext next hn) n⟩

end CompilationUnit

/-- The permutation after calls of the capabilities at the given positions among the available
ones, by the rules alone. -/
def Rules.run (m : GroupMap) (registry : Registry) (capabilities : List Capability) :
    Permutation → List Nat → Permutation
  | p, [] => p
  | p, k :: calls =>
    match (exposed m registry capabilities p)[k]? with
    | none => p
    | some c => run m registry capabilities (step m registry c p) calls

/-- The member is made from the capability. -/
structure Exposes (c : Capability) (x : Member) : Prop where
  name : x.name = c.name
  parameters : x.parameters = c.parameters
  typeParameters : x.typeParameters = c.typeParameters
  value : ∀ type, c.returns = some type → x.result = .value type
  transition : c.returns = none → x.result.isTransition = true

theorem Assembler.exposes_expectedMember (a : Assembler) (c : Capability) (p : Permutation) :
    Exposes c (a.expectedMember c p) := by
  refine ⟨rfl, rfl, rfl, fun type h => ?_, fun h => ?_⟩
  · simp [expectedMember, member, Rules.result, h, memberResult]
  · simp [expectedMember, member, Rules.result, h, memberResult, Result.isTransition]

theorem Assembler.forall₂_exposes (a : Assembler) (p : Permutation) :
    List.Forall₂ Exposes
      (exposed a.resolver.groups a.resolver.registry a.entity.capabilities p)
      (a.expected p).members := by
  rw [members_expected]
  exact List.forall₂_map_right_iff.mpr
    (List.forall₂_same.mpr fun c _ => a.exposes_expectedMember c p)

namespace Expands

variable {settings : Settings} {registry : Registry} {entity : Entity} {m : GroupMap}
  {unit : CompilationUnit}

/-- **One call** leads to the wrapper of the permutation that the rules of its capability lead
to. -/
theorem call (h : Expands settings registry entity m unit) {p : Permutation}
    (hp : p ∈ Permutation.enumerate m.stateLists) {k : Nat} {x : Member}
    (hx : ((Assembler.ofEntity settings registry entity m).expected p).members[k]? = some x)
    (ht : x.result.isTransition = true) :
    ∃ c, (exposed m registry entity.capabilities p)[k]? = some c ∧
      step m registry c p ∈ Permutation.enumerate m.stateLists ∧
      unit.successorOf x =
        .ok ((Assembler.ofEntity settings registry entity m).expected (step m registry c p)) := by
  have hx' := hx
  rw [Assembler.members_expected, List.getElem?_map] at hx'
  obtain ⟨c, hc, rfl⟩ := Option.map_eq_some_iff.mp hx'
  cases hr : ((Assembler.ofEntity settings registry entity m).expectedMember c p).result with
  | value type =>
    rw [hr] at ht
    cases ht
  | transition q type targets =>
    obtain ⟨-, rfl, -⟩ := Assembler.result_expectedMember _ hr
    have hmem := List.mem_of_getElem? hx
    exact ⟨c, hc, mem_enumerate_of_transition hp hmem hr, h.successorOf_eq hp hmem hr⟩

/-- **A run** leads to the wrapper of the permutation that the rules lead to. -/
theorem follow_eq (h : Expands settings registry entity m unit) {calls : List Nat} {p : Permutation}
    (hp : p ∈ Permutation.enumerate m.stateLists)
    (hcalls : unit.Picks ((Assembler.ofEntity settings registry entity m).expected p) calls) :
    run m registry entity.capabilities p calls ∈ Permutation.enumerate m.stateLists ∧
      unit.follow ((Assembler.ofEntity settings registry entity m).expected p) calls =
        .ok ((Assembler.ofEntity settings registry entity m).expected
          (run m registry entity.capabilities p calls)) := by
  -- what carries the induction: the wrapper reached is the one of an enumerated permutation
  induction calls generalizing p with
  | nil => exact ⟨hp, rfl⟩
  | cons k rest ih =>
    obtain ⟨x, hx, ht, hnext⟩ := hcalls
    obtain ⟨c, hc, hq, hsucc⟩ := h.call hp hx ht
    obtain ⟨hmem, hfollow⟩ := ih hq (hnext _ hsucc)
    rw [run, hc]
    refine ⟨hmem, ?_⟩
    rw [CompilationUnit.follow, hx]
    exact Outcome.bind_eq_ok.mpr ⟨_, hsucc, hfollow⟩

end Expands

/-- **Following the members of a unit is following the rules of its entity.** From any wrapper,
every prefix of a run reaches a wrapper of the unit, without a failure; it is the one wrapper whose
permutation is obtained by the rule-level steps, and its members are the capabilities that are
available there. -/
theorem follow_simulates_rules {settings : Settings} {registry : Registry} {entity : Entity}
    {unit : CompilationUnit} (h : generate settings registry entity = .ok unit) {w : Wrapper}
    (hw : w ∈ unit.wrappers) {calls : List Nat} (hcalls : unit.Picks w calls) :
    ∃ m : GroupMap, m.groups = entity.groups ∧ ∀ n, ∃ reached ∈ unit.wrappers,
      unit.follow w (calls.take n) = .ok reached ∧
      reached.permutation = run m registry entity.capabilities w.permutation (calls.take n) ∧
      (∀ v ∈ unit.wrappers, v.permutation = reached.permutation → v = reached) ∧
      List.Forall₂ Exposes (exposed m registry entity.capabilities reached.permutation)
        reached.members := by
  obtain ⟨m, he⟩ := generate_eq_ok_iff.mp h
  obtain ⟨p, hp, rfl⟩ := he.mem_wrappers.mp hw
  refine ⟨m, he.groups, fun n => ?_⟩
  obtain ⟨hmem, hfollow⟩ := he.follow_eq hp (hcalls.take n)
  refine ⟨_, he.mem_wrappers.mpr ⟨_, hmem, rfl⟩, hfollow, rfl, fun v hv hperm => ?_, ?_⟩
  · obtain ⟨q, -, rfl⟩ := he.mem_wrappers.mp hv
    rw [Assembler.expected, Assembler.permutation_wrapper] at hperm
    rw [hperm]
    rfl
  · exact Assembler.forall₂_exposes (Assembler.ofEntity settings registry entity m) _

/-- The lamp is turned on, raised, and turned off again. -/
theorem follow_simulates_rules_lamp :
    generate {} Registry.builtin lamp = .ok lampUnit ∧
      lampAssembler.expected ⟨["Off", "Low"]⟩ ∈ lampUnit.wrappers ∧
      lampUnit.Picks (lampAssembler.expected ⟨["Off", "Low"]⟩) [0, 1, 0] ∧
      ∃ reached ∈ lampUnit.wrappers,
        lampUnit.follow (lampAssembler.expected ⟨["Off", "Low"]⟩) [0, 1, 0] = .ok reached ∧
        reached.permutation = ⟨["Off", "High"]⟩ := by
  have hw : lampAssembler.expected ⟨["Off", "Low"]⟩ ∈ lampUnit.wrappers :=
    List.mem_map.mpr ⟨_, by decide, rfl⟩
  have hcalls : lampUnit.Picks (lampAssembler.expected ⟨["Off", "Low"]⟩) [0, 1, 0] := by
    refine ⟨_, rfl, rfl, fun next h => ?_⟩
    obtain rfl : lampAssembler.expected ⟨["On", "Low"]⟩ = next := Except.ok.inj h
    refine ⟨_, rfl, rfl, fun next h => ?_⟩
    obtain rfl : lampAssembler.expected ⟨["On", "High"]⟩ = next := Except.ok.inj h
    exact ⟨_, rfl, rfl, fun _ _ => trivial⟩
  obtain ⟨⟨_, _⟩, rfl, hrun⟩ := follow_simulates_rules generate_lamp hw hcalls
  obtain ⟨reached, hmem, hfollow, hperm, -, -⟩ := hrun 3
  exact ⟨generate_lamp, hw, hcalls, reached, hmem, hfollow, hperm.trans rfl⟩

end Typestate
