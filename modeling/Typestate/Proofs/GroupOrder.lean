import Typestate.Proofs.Availability
import Typestate.Proofs.Declared
import Typestate.Proofs.Mirror
import Typestate.Proofs.Successor

/-! # Groups in another order

Declare the groups of an entity in another order: then every permutation has its states in that
order, and nothing else about resolution changes. A state is found by the name of its group and put
at the position of that name, so it always goes where its group went.

* `arranged`: the items of a list in the order in which a list of their places names them.
* `GroupMap.arranged`, `Permutation.arranged`, `Resolver.arranged`: groups and states in another
  order; `Resolved.arranged`: a result in which only the order of the successor changes.
* `GroupMap.place?_arranged_iff`, `groupOf?_arranged`, `put_arranged`: states are found in the same
  groups, and put where these are.
* `resolve_arranged`: resolution with the groups in another order. -/

namespace Typestate

/-! ### Items in another order -/

/-- The items at the given places, in the order in which these are given. -/
def arranged {α : Type} (order : List Nat) (items : List α) : List α := order.filterMap (items[·]?)

section Items

variable {α : Type} {order : List Nat} {items : List α}

theorem getElem?_arranged_of_lt (h : ∀ i ∈ order, i < items.length) (k : Nat) :
    (arranged order items)[k]? = order[k]?.bind (items[·]?) := by
  induction order generalizing k with
  | nil => rfl
  | cons i rest ih =>
    obtain ⟨a, ha⟩ : ∃ a, items[i]? = some a := ⟨_, List.getElem?_eq_getElem (h i (by simp))⟩
    have hcons : arranged (i :: rest) items = a :: arranged rest items := by
      rw [arranged, List.filterMap_cons, ha]
      rfl
    cases k with
    | zero => simp [hcons, ha]
    | succ k => simpa [hcons] using ih (fun j hj => h j (List.mem_cons_of_mem i hj)) k

variable (ho : order.Perm (List.range items.length))
include ho

theorem getElem?_arranged (k : Nat) : (arranged order items)[k]? = order[k]?.bind (items[·]?) :=
  getElem?_arranged_of_lt (fun _ hi => List.mem_range.mp (ho.mem_iff.mp hi)) k

/-- **No item is lost and none is added.** -/
theorem perm_arranged : (arranged order items).Perm items := by
  have hall : (List.range items.length).filterMap (items[·]?) = items := by
    simpa [List.range_eq_range'] using Permutation.filterMap_range'_getElem? items 0 items.length
  exact (ho.filterMap _).trans (List.Perm.of_eq hall)

end Items

/-! ### Groups in another order -/

/-- The groups in another order. -/
def GroupMap.arranged (m : GroupMap) (order : List Nat)
    (ho : order.Perm (List.range m.groups.length)) : GroupMap where
  groups := Typestate.arranged order m.groups
  distinctNames := ((perm_arranged ho).map _).nodup_iff.mpr m.distinctNames

/-- The states of the permutation in another order. -/
def Permutation.arranged (order : List Nat) (p : Permutation) : Permutation :=
  ⟨Typestate.arranged order p.states⟩

namespace GroupMap

variable {m : GroupMap} {order : List Nat} (ho : order.Perm (List.range m.groups.length))

theorem place?_eq_some_iff_getElem? (hu : m.allStates.Nodup) {s : String} {i : Nat} :
    m.place? s = some i ↔ ∃ g, m.groups[i]? = some g ∧ s ∈ g.states := by
  rw [place?_eq_some_iff hu]
  constructor
  · rintro ⟨hi, hs⟩
    exact ⟨_, List.getElem?_eq_getElem hi, hs⟩
  · rintro ⟨g, hg, hs⟩
    obtain ⟨hi, rfl⟩ := List.getElem?_eq_some_iff.mp hg
    exact ⟨hi, hs⟩

theorem perm_groups_arranged : (m.arranged order ho).groups.Perm m.groups := perm_arranged ho

theorem nodup_allStates_arranged (hu : m.allStates.Nodup) : (m.arranged order ho).allStates.Nodup :=
  ((perm_groups_arranged ho).flatMap_right _).nodup_iff.mpr hu

theorem statesOf_arranged_eq_ok_iff {name : String} {states : List String} :
    (m.arranged order ho).statesOf name = .ok states ↔ m.statesOf name = .ok states := by
  rw [statesOf_eq_ok_iff, statesOf_eq_ok_iff]
  simp only [(perm_groups_arranged ho).mem_iff]

/-- **Each state belongs to the group that it belonged to.** -/
theorem groupOf?_arranged (hu : m.allStates.Nodup) (s : String) :
    (m.arranged order ho).groupOf? s = m.groupOf? s := by
  refine Option.ext fun name => ?_
  rw [groupOf?_eq_some_iff_statesOf (nodup_allStates_arranged ho hu),
    groupOf?_eq_some_iff_statesOf hu]
  simp only [statesOf_arranged_eq_ok_iff]

/-- **A state is where its group went.** -/
theorem place?_arranged_iff (hu : m.allStates.Nodup) (s : String) {i k : Nat}
    (hk : order[k]? = some i) :
    (m.arranged order ho).place? s = some k ↔ m.place? s = some i := by
  have hgroup : (m.arranged order ho).groups[k]? = m.groups[i]? := by
    change (Typestate.arranged order m.groups)[k]? = _
    rw [getElem?_arranged ho, hk, Option.bind_some]
  rw [place?_eq_some_iff_getElem? (nodup_allStates_arranged ho hu), place?_eq_some_iff_getElem? hu,
    hgroup]

variable {p : Permutation} (hp : p.states.length = m.groups.length)
include ho hp

theorem perm_states_arranged : (p.arranged order).states.Perm p.states := perm_arranged (hp ▸ ho)

theorem getElem?_states_arranged (k : Nat) :
    (p.arranged order).states[k]? = order[k]?.bind (p.states[·]?) :=
  getElem?_arranged (hp ▸ ho) k

/-- **A state is put where its group went.** -/
theorem put_arranged (hu : m.allStates.Nodup) (s : String) :
    (m.arranged order ho).put (p.arranged order) s = (m.put p s).arranged order := by
  have hput : (m.put p s).states.length = m.groups.length := by rw [size_put, hp]
  have hsize : (p.arranged order).states.length = order.length := by
    rw [(perm_states_arranged ho hp).length_eq, hp, ho.length_eq, List.length_range]
  have hstates : ((m.arranged order ho).put (p.arranged order) s).states =
      ((m.put p s).arranged order).states := by
    refine List.ext_getElem? fun k => ?_
    rw [getElem?_put, getElem?_states_arranged ho hp, getElem?_states_arranged ho hput, hsize]
    cases hk : order[k]? with
    | none =>
      -- behind the last place there is a state on neither side
      have hout : order.length ≤ k := List.getElem?_eq_none_iff.mp hk
      rw [if_neg fun h => absurd h.2 (Nat.not_lt.mpr hout)]
      rfl
    | some i =>
      obtain ⟨hin, -⟩ := List.getElem?_eq_some_iff.mp hk
      have hi : i < p.states.length := by
        rw [hp, ← List.mem_range, ← ho.mem_iff]
        exact List.mem_of_getElem? hk
      have hplace := place?_arranged_iff ho hu s hk
      rw [Option.bind_some, Option.bind_some, getElem?_put]
      by_cases hs : m.place? s = some i
      · rw [if_pos ⟨hplace.mpr hs, hin⟩, if_pos ⟨hs, hi⟩]
      · rw [if_neg fun h => hs (hplace.mp h.1), if_neg fun h => hs h.1]
  exact congrArg Permutation.mk hstates

end GroupMap

/-! ### Verdicts -/

/-- **The order of the groups makes no clash and hides none**, though another one may be found
first. -/
theorem Relation.contradiction?_arranged {m : GroupMap} {order : List Nat}
    (ho : order.Perm (List.range m.groups.length)) (hu : m.allStates.Nodup) (wanted : List String) :
    Option.Rel (fun _ _ => True) (contradiction? m wanted)
      (contradiction? (m.arranged order ho) wanted) := by
  have hnone : contradiction? m wanted = none ↔
      contradiction? (m.arranged order ho) wanted = none := by
    rw [contradiction?_eq_none_iff_clashes (GroupMap.nodup_allStates_arranged ho hu),
      contradiction?_eq_none_iff_clashes hu]
    simp only [(GroupMap.perm_groups_arranged ho).mem_iff]
  cases hfound : contradiction? m wanted with
  | none =>
    rw [hnone.mp hfound]
    exact .none
  | some g =>
    cases hfound' : contradiction? (m.arranged order ho) wanted with
    | none => cases hfound.symm.trans (hnone.mpr hfound')
    | some g' => exact .some trivial

theorem RelationKind.met_congr {wanted permutation permutation' : List String}
    (hmem : ∀ s, s ∈ permutation ↔ s ∈ permutation') (kind : RelationKind) :
    kind.Met wanted permutation ↔ kind.Met wanted permutation' := by
  cases kind <;> simp only [Met, hmem]

/-- The failures are reports under the same code. -/
def Failure.SameCode (e e' : Failure) : Prop := ∃ code, e.code? = some code ∧ e'.code? = some code

theorem Failure.SameCode.mapSite {e e' : Failure} (h : e.SameCode e') (f f' : Site → Site) :
    (e.mapSite f).SameCode (e'.mapSite f') := by
  obtain ⟨code, he, he'⟩ := h
  exact ⟨code, by rw [code?_mapSite, he], by rw [code?_mapSite, he']⟩

/-! ### Resolution -/

/-- What is seen in another order of the groups. -/
def Mirror.arrangement (order : List Nat) : Mirror where
  state := id
  permutation := Permutation.arranged order
  condition := Eq

theorem Mirror.image_self (order : List Nat) (c : Capability) : (arrangement order).Image c c where
  name := rfl
  returns := rfl
  availableForAll := rfl
  availability := List.forall₂_same.mpr fun _ _ => rfl
  transitions := List.forall₂_same.mpr fun _ _ => ⟨rfl, rfl⟩

/-- The result with the states of the successor in another order; the wrapper of the successor is
named accordingly. -/
def Result.arranged (order : List Nat) (suffix : String) : Result → Result
  | .value type => .value type
  | .transition successor _ targets =>
    .transition (successor.arranged order) ((successor.arranged order).typeName suffix) targets

/-- The resolved capability with the states of the successor in another order. -/
def Resolved.arranged (order : List Nat) (suffix : String) (x : Resolved) : Resolved :=
  ⟨x.capability, x.result.map (Result.arranged order suffix)⟩

theorem Mirror.Shows.eq_arranged {order : List Nat} {suffix : String} {x x' : Result}
    (h : (arrangement order).Shows suffix x x') : x' = x.arranged order suffix := by
  cases h with
  | value type => rfl
  | transition successor targets => exact congrArg _ (List.map_id targets)

namespace Resolver

/-- The resolver over the groups in another order. -/
def arranged (r : Resolver) (order : List Nat)
    (ho : order.Perm (List.range r.groups.groups.length)) : Resolver :=
  { r with groups := r.groups.arranged order ho }

variable {r : Resolver} {order : List Nat} (ho : order.Perm (List.range r.groups.groups.length))
  (hu : r.groups.allStates.Nodup) (hr : r.registry = Registry.builtin)
include hu hr

theorem corresponds_holds_arranged {c c' : Capability} (condition : Condition) {p : Permutation}
    (hp : p.states.length = r.groups.groups.length) :
    Outcome.Corresponds Eq Failure.SameCode (r.holds condition c p)
      ((r.arranged order ho).holds condition c' (p.arranged order)) := by
  have hmem : ∀ s, s ∈ p.states ↔ s ∈ (p.arranged order).states := fun s =>
    (GroupMap.perm_states_arranged ho hp).mem_iff.symm
  have hverdict : Outcome.Corresponds Eq Failure.SameCode
      (r.registry.evaluate condition.relation.key r.groups p.states condition.states.toList)
      (r.registry.evaluate condition.relation.key (r.groups.arranged order ho)
        (p.arranged order).states
        condition.states.toList) := by
    rw [hr]
    exact Registry.corresponds_evaluate_builtin (Relation.contradiction?_arranged ho hu _)
      (RelationKind.met_congr hmem) (fun _ _ _ => ⟨_, rfl, rfl⟩) fun _ => ⟨_, rfl, rfl⟩
  exact hverdict.mapError fun e e' he => he.mapSite _ _

/-- **In another order of the groups a resolver looks the same.** -/
theorem mirrors_arranged :
    Mirrors (Mirror.arrangement order) Failure.SameCode r (r.arranged order ho) where
  suffix := rfl
  injective := Function.injective_id
  group := GroupMap.groupOf?_arranged ho hu
  size hp := by
    refine (GroupMap.perm_states_arranged ho hp).length_eq.trans ?_
    rw [hp]
    exact (GroupMap.perm_groups_arranged ho).length_eq.symm
  put s hp := GroupMap.put_arranged ho hp hu s
  holds _ hp hcondition := by
    subst hcondition
    exact corresponds_holds_arranged ho hu hr _ hp
  conflict _ := ⟨_, rfl, rfl⟩
  unknown _ := ⟨_, rfl, rfl⟩
  ambiguous _ := ⟨_, rfl, rfl⟩

end Resolver

/-- **The order of the groups only says where states stand.** Let no state name be repeated, and
declare the groups in another order. Under the built-in relations a capability is then resolved in a
permutation with its states in that order exactly if it was resolved before, and it fails under the
same code. Availability, value type and targets are as before, and the successor is the one from
before with its states in the new order. -/
theorem resolve_arranged {r : Resolver} (hu : r.groups.allStates.Nodup)
    (hr : r.registry = Registry.builtin) {order : List Nat}
    (ho : order.Perm (List.range r.groups.groups.length)) (c : Capability) {p : Permutation}
    (hp : p.states.length = r.groups.groups.length) :
    ((∃ x, r.resolve c p = .ok x) ↔
      ∃ x, (r.arranged order ho).resolve c (p.arranged order) = .ok x) ∧
    (∀ x, r.resolve c p = .ok x →
      (r.arranged order ho).resolve c (p.arranged order) = .ok (x.arranged order r.suffix)) ∧
    ∀ e, r.resolve c p = .error e → ∃ e' code,
      (r.arranged order ho).resolve c (p.arranged order) = .error e' ∧ e.code? = some code ∧
        e'.code? = some code := by
  have hresolve := (Resolver.mirrors_arranged ho hu hr).resolve (Mirror.image_self order c) hp
  refine ⟨hresolve.exists_ok_iff, fun x hx => ?_, fun e he => ?_⟩
  · obtain ⟨x', hx', hshows⟩ := hresolve.of_ok hx
    rw [Resolved.arranged, hshows.capability, ← hshows.eq fun _ _ => Mirror.Shows.eq_arranged]
    exact hx'
  · obtain ⟨e', he', code, hcode, hcode'⟩ := hresolve.of_error he
    exact ⟨e', code, he', hcode, hcode'⟩

/-- With the modes declared first and the levels last, a lamp that is turned off at night stays at
its level. A contradiction is reported in either order, and so are two levels at once as targets. -/
theorem resolve_arranged_dimmer :
    ∃ ho : [2, 0, 1].Perm (List.range dimmerResolver.groups.groups.length),
      dimmerResolver.groups.allStates.Nodup ∧
      (∃ x, (dimmerResolver.arranged [2, 0, 1] ho).resolve (leading ["Night", "Off"])
          ⟨["Day", "On", "Mid"]⟩ = .ok x ∧
        x.result =
          some (.transition ⟨["Night", "Off", "Mid"]⟩ "NightOffMidState" ["Night", "Off"])) ∧
      (∃ e, (dimmerResolver.arranged [2, 0, 1] ho).resolve
          (lifting [Condition.of ["On"] (.builtin .or),
            Condition.of ["Low", "High"] (.builtin .and)])
          ⟨["Day", "On", "Mid"]⟩ = .error e ∧ e.code? = some .contradictoryCondition) ∧
      ∃ e, (dimmerResolver.arranged [2, 0, 1] ho).resolve (leading ["Low", "Night", "High"])
          ⟨["Day", "On", "Mid"]⟩ = .error e ∧ e.code? = some .ambiguousTransition := by
  have hu : dimmerResolver.groups.allStates.Nodup := by decide
  have ho : [2, 0, 1].Perm (List.range dimmerResolver.groups.groups.length) := by decide
  have hp : (⟨["On", "Mid", "Day"]⟩ : Permutation).states.length =
      dimmerResolver.groups.groups.length := rfl
  obtain ⟨-, hmoved, -⟩ := resolve_arranged hu rfl ho (leading ["Night", "Off"]) hp
  obtain ⟨-, -, hclash⟩ := resolve_arranged hu rfl ho
    (lifting [Condition.of ["On"] (.builtin .or), Condition.of ["Low", "High"] (.builtin .and)]) hp
  obtain ⟨-, -, hcontested⟩ := resolve_arranged hu rfl ho (leading ["Low", "Night", "High"]) hp
  obtain ⟨e, code, hclash, hcode, hcode'⟩ := hclash _ rfl
  obtain ⟨e', code', hcontested, hown, hown'⟩ := hcontested _ rfl
  cases hcode
  cases hown
  exact ⟨ho, hu, ⟨_, hmoved _ rfl, rfl⟩, ⟨e, hclash, hcode'⟩, ⟨e', hcontested, hown'⟩⟩

end Typestate
