import Typestate.Proofs.Numbering
import Typestate.Proofs.Builtin
import Mathlib.Algebra.Order.BigOperators.GroupWithZero.List
import Mathlib.Algebra.Order.Ring.Nat

/-! # Contradictory conjunctions

A permutation has one state of each group, so a conjunction that wants two states of one group holds
nowhere. Such a conjunction is refused by a look at the groups alone. The enumeration shows that
this refuses what it should and nothing else: every other conjunction of declared states holds in
some permutation, as long as each group has a state.

* `StateGroup.Clashes`: two of the wanted states belong to the group.
  `Relation.contradiction?_eq_some_iff`: the first such group is the one that is named.
* `GroupMap.Fits.mem_states_iff`: a state is in a permutation exactly if it stands at its place
  there.
* `StateGroup.allowed`: the states of a group that the wanted ones leave open;
  `GroupMap.mem_choices_allowed_iff`: a permutation has all wanted states exactly if it is a choice
  from these. `GroupMap.length_satisfying`: how many there are.
* `contradiction_exact`: the check is sound and complete for the enumeration. -/

namespace Typestate

/-! ### The check -/

namespace StateGroup

/-- Two of the wanted states belong to the group. -/
def Clashes (wanted : List String) (g : StateGroup) : Prop :=
  ∃ s ∈ wanted, ∃ t ∈ wanted, s ≠ t ∧ s ∈ g.states ∧ t ∈ g.states

instance (wanted : List String) (g : StateGroup) : Decidable (g.Clashes wanted) := by
  unfold Clashes
  infer_instance

/-- None of the wanted states belongs to the group. -/
def isFree (wanted : List String) (g : StateGroup) : Bool := g.states.all (· ∉ wanted)

/-- The states of the group that the wanted ones leave open: all of them if none is wanted. -/
def allowed (wanted : List String) (g : StateGroup) : List String :=
  if g.isFree wanted then g.states else Relation.clashing wanted g

variable {wanted : List String} {g : StateGroup}

theorem mem_clashing {s : String} : s ∈ Relation.clashing wanted g ↔ s ∈ g.states ∧ s ∈ wanted := by
  simp [Relation.clashing]

theorem one_lt_length_clashing_iff (hn : g.states.Nodup) :
    1 < (Relation.clashing wanted g).length ↔ g.Clashes wanted := by
  have hnodup : (Relation.clashing wanted g).Nodup := hn.filter _
  rw [← Nat.not_le, Names.length_le_one_iff hnodup]
  simp only [mem_clashing, Clashes]
  push Not
  constructor
  · rintro ⟨s, ⟨hsg, hs⟩, t, ⟨htg, ht⟩, hne⟩
    exact ⟨s, hs, t, ht, hne, hsg, htg⟩
  · rintro ⟨s, hs, t, ht, hne, hsg, htg⟩
    exact ⟨s, ⟨hsg, hs⟩, t, ⟨htg, ht⟩, hne⟩

theorem allowed_of_mem {s : String} (hs : s ∈ wanted) (hsg : s ∈ g.states) :
    g.allowed wanted = Relation.clashing wanted g := by
  refine if_neg fun h => ?_
  simpa [hs] using List.all_eq_true.mp h s hsg

/-- **A group is asked for one state or left as it is**: that many of its states are allowed. -/
theorem countP_allowed (hn : g.states.Nodup) (hc : ¬ g.Clashes wanted) :
    g.states.countP (· ∈ g.allowed wanted) = if g.isFree wanted then g.size else 1 := by
  by_cases hfree : g.isFree wanted = true
  · rw [if_pos hfree, allowed, if_pos hfree]
    exact List.countP_eq_length.mpr fun s hs => by simpa using hs
  · obtain ⟨s, hsg, hs⟩ : ∃ s ∈ g.states, s ∈ wanted := by simpa [isFree] using hfree
    have hcount : g.states.countP (· ∈ Relation.clashing wanted g) =
        (Relation.clashing wanted g).length := by
      rw [Relation.clashing, ← List.countP_eq_length_filter]
      exact List.countP_congr fun t ht => by simp [ht]
    have hpos := List.length_pos_of_mem (mem_clashing.mpr ⟨hsg, hs⟩)
    have hle := mt (one_lt_length_clashing_iff hn).mp hc
    rw [if_neg hfree, allowed_of_mem hs hsg, hcount]
    omega

end StateGroup

namespace Relation

variable {m : GroupMap} {wanted : List String}

/-- **The group that is named is the first one with two of the wanted states.** -/
theorem contradiction?_eq_some_iff (hu : m.allStates.Nodup) {g : StateGroup} :
    contradiction? m wanted = some g ↔
      g.Clashes wanted ∧ ∃ before after, m.groups = before ++ g :: after ∧
        ∀ other ∈ before, ¬ other.Clashes wanted := by
  have hiff : ∀ g ∈ m.groups, (1 < (clashing wanted g).length ↔ g.Clashes wanted) := fun g hg =>
    StateGroup.one_lt_length_clashing_iff ((List.nodup_flatMap.mp hu).1 g hg)
  rw [contradiction?, List.find?_eq_some_iff_append]
  simp only [decide_eq_true_eq, Bool.not_eq_true', decide_eq_false_iff_not]
  constructor
  · rintro ⟨hg, before, after, hsplit, hbefore⟩
    refine ⟨(hiff g (by simp [hsplit])).mp hg, before, after, hsplit, fun other hother => ?_⟩
    exact mt (hiff other (by simp [hsplit, hother])).mpr (hbefore other hother)
  · rintro ⟨hg, before, after, hsplit, hbefore⟩
    refine ⟨(hiff g (by simp [hsplit])).mpr hg, before, after, hsplit, fun other hother => ?_⟩
    exact mt (hiff other (by simp [hsplit, hother])).mp (hbefore other hother)

theorem contradiction?_eq_none_iff_clashes (hu : m.allStates.Nodup) :
    contradiction? m wanted = none ↔ ∀ g ∈ m.groups, ¬ g.Clashes wanted := by
  rw [contradiction?_eq_none_iff hu]
  refine forall₂_congr fun g _ => ⟨?_, ?_⟩
  · rintro h ⟨s, hs, t, ht, hne, hsg, htg⟩
    exact hne (h s hs t ht hsg htg)
  · intro h s hs t ht hsg htg
    by_contra hne
    exact h ⟨s, hs, t, ht, hne, hsg, htg⟩

end Relation

/-! ### The enumeration -/

namespace GroupMap

variable {m : GroupMap} {p : Permutation} {wanted : List String}

/-- **A state is in a permutation exactly if it stands at its place there.** -/
theorem Fits.mem_states_iff (hu : m.allStates.Nodup) (h : m.Fits p) {s : String} {i : Nat}
    (hi : m.place? s = some i) : s ∈ p.states ↔ p.states[i]? = some s := by
  refine ⟨fun hs => ?_, List.mem_of_getElem?⟩
  obtain ⟨j, hj, rfl⟩ := List.getElem_of_mem hs
  have hplace := (place?_eq_some_iff hu).mpr (h.mem j _ (List.getElem?_eq_getElem hj))
  obtain rfl : j = i := Option.some.inj (hplace.symm.trans hi)
  exact List.getElem?_eq_getElem hj

/-- **No permutation has two states of one group.** -/
theorem Fits.not_forall_mem_of_clashes (hu : m.allStates.Nodup) (h : m.Fits p) {g : StateGroup}
    (hg : g ∈ m.groups) (hc : g.Clashes wanted) : ¬ ∀ s ∈ wanted, s ∈ p.states := by
  intro hall
  obtain ⟨s, hs, t, ht, hne, hsg, htg⟩ := hc
  obtain ⟨i, hi, rfl⟩ := List.getElem_of_mem hg
  have hs' := (h.mem_states_iff hu ((place?_eq_some_iff hu).mpr ⟨hi, hsg⟩)).mp (hall s hs)
  have ht' := (h.mem_states_iff hu ((place?_eq_some_iff hu).mpr ⟨hi, htg⟩)).mp (hall t ht)
  exact hne (Option.some.inj (hs'.symm.trans ht'))

/-- **A permutation has all wanted states exactly if it is a choice from the allowed ones.** -/
theorem mem_choices_allowed_iff (hu : m.allStates.Nodup) (h : m.Fits p)
    (hw : ∀ s ∈ wanted, s ∈ m.allStates) (hc : ∀ g ∈ m.groups, ¬ g.Clashes wanted) :
    p.states ∈ Permutation.choices (m.groups.map (StateGroup.allowed wanted)) ↔
      ∀ s ∈ wanted, s ∈ p.states := by
  rw [Permutation.mem_choices]
  simp only [List.length_map, List.getElem_map]
  constructor
  · rintro ⟨-, hallowed⟩ s hs
    obtain ⟨g, hg, hsg⟩ := List.mem_flatMap.mp (hw s hs)
    obtain ⟨i, hi, rfl⟩ := List.getElem_of_mem hg
    have hi' : i < p.states.length := by rwa [h.size]
    have hmem := hallowed i hi' hi
    rw [StateGroup.allowed_of_mem hs hsg, StateGroup.mem_clashing] at hmem
    -- the group has only one of the wanted states, so the permutation has that one
    have heq : p.states[i] = s := by
      by_contra hne
      exact hc _ hg ⟨_, hmem.2, s, hs, hne, hmem.1, hsg⟩
    exact heq ▸ List.getElem_mem hi'
  · intro hall
    refine ⟨h.size, fun i hi hi' => ?_⟩
    obtain ⟨_, hmem⟩ := h.mem i _ (List.getElem?_eq_getElem hi)
    by_cases hfree : m.groups[i].isFree wanted = true
    · rwa [StateGroup.allowed, if_pos hfree]
    · obtain ⟨s, hsg, hs⟩ : ∃ s ∈ m.groups[i].states, s ∈ wanted := by
        simpa [StateGroup.isFree] using hfree
      have hplace := (place?_eq_some_iff hu).mpr ⟨hi', hsg⟩
      have hsi := (h.mem_states_iff hu hplace).mp (hall s hs)
      rw [List.getElem?_eq_getElem hi, Option.some.injEq] at hsi
      rw [hsi, StateGroup.allowed_of_mem hs hsg]
      exact StateGroup.mem_clashing.mpr ⟨hsg, hs⟩

/-- The permutations in which the conjunction of the wanted states is true. -/
def satisfying (m : GroupMap) (wanted : List String) : List Permutation :=
  (Permutation.enumerate m.stateLists).filter fun p =>
    (Registry.builtin.evaluate RelationKind.and.key m p.states wanted).toOption = some true

theorem evaluate_and (permutation : List String) :
    Registry.builtin.evaluate RelationKind.and.key m permutation wanted =
      match Relation.contradiction? m wanted with
      | some g => .error (.report (Relation.contradictionReport permutation wanted g))
      | none => .ok (wanted.all (· ∈ permutation)) := rfl

theorem evaluate_and_of_clashes (hu : m.allStates.Nodup) {g : StateGroup}
    {before after : List StateGroup}
    (hsplit : m.groups = before ++ g :: after) (hg : g.Clashes wanted)
    (hbefore : ∀ other ∈ before, ¬ other.Clashes wanted) (permutation : List String) :
    Registry.builtin.evaluate RelationKind.and.key m permutation wanted =
      .error (.report (Relation.contradictionReport permutation wanted g)) := by
  have hnamed := (Relation.contradiction?_eq_some_iff hu).mpr ⟨hg, before, after, hsplit, hbefore⟩
  rw [evaluate_and, hnamed]

/-- The verdict of a conjunction without a clash. -/
theorem evaluate_and_of_not_clashes (hu : m.allStates.Nodup)
    (hc : ∀ g ∈ m.groups, ¬ g.Clashes wanted) (permutation : List String) :
    Registry.builtin.evaluate RelationKind.and.key m permutation wanted =
      .ok (wanted.all (· ∈ permutation)) := by
  rw [evaluate_and, (Relation.contradiction?_eq_none_iff_clashes hu).mpr hc]

/-- **How often a conjunction is true**: the groups of which no state is wanted are free. -/
theorem length_satisfying (hm : m.groups ≠ []) (hu : m.allStates.Nodup)
    (hw : ∀ s ∈ wanted, s ∈ m.allStates) (hc : ∀ g ∈ m.groups, ¬ g.Clashes wanted) :
    (m.satisfying wanted).length =
      ((m.groups.filter (StateGroup.isFree wanted)).map StateGroup.size).prod := by
  have hne : m.stateLists ≠ [] := by simpa [stateLists] using hm
  have hchoices : (m.satisfying wanted).length = (Permutation.enumerate m.stateLists).countP
      fun p => p.states ∈ Permutation.choices (m.groups.map (StateGroup.allowed wanted)) := by
    rw [satisfying, ← List.countP_eq_length_filter]
    refine List.countP_congr fun p hp => ?_
    rw [evaluate_and_of_not_clashes hu hc, decide_eq_true_eq, decide_eq_true_eq,
      mem_choices_allowed_iff hu (mem_enumerate.mp hp).2 hw hc]
    simp [Except.toOption]
  have hcount : ∀ g ∈ m.groups, g.states.countP (· ∈ g.allowed wanted) =
      if g.isFree wanted then g.size else 1 := fun g hg =>
    StateGroup.countP_allowed ((List.nodup_flatMap.mp hu).1 g hg) (hc g hg)
  rw [hchoices, Permutation.enumerate_of_ne_nil hne, List.countP_map]
  exact (Permutation.countP_mem_choices StateGroup.states
    (StateGroup.allowed wanted) m.groups).trans
    (by rw [List.map_congr_left hcount, List.prod_map_ite]; simp)

end GroupMap

/-- **The check for contradictions is exact.** Of a conjunction of declared states exactly one of
two things is true. Either some group has two of them: then the first such group is reported in
every permutation, with its wanted states in their order, and no permutation that is enumerated has
all of them. Or none has: then there is a verdict in every permutation, and it is true as often as
the groups without a wanted state leave a choice, so at least once if every group has a state. -/
theorem contradiction_exact {m : GroupMap} (hm : m.groups ≠ []) (hu : m.allStates.Nodup)
    {wanted : List String} (hw : ∀ s ∈ wanted, s ∈ m.allStates) :
    ((∃ g ∈ m.groups, g.Clashes wanted) ∧
      (∃ before g after, m.groups = before ++ g :: after ∧ g.Clashes wanted ∧
        (∀ other ∈ before, ¬ other.Clashes wanted) ∧
        ∀ permutation, ∃ r,
          Registry.builtin.evaluate RelationKind.and.key m permutation wanted = .error (.report r) ∧
          r.family = .inconsistency ∧ r.code = .contradictoryCondition ∧
          r.site.extra = [("group", .text g.name)] ∧
          r.site.states = g.states.filter (· ∈ wanted)) ∧
      ∀ p ∈ Permutation.enumerate m.stateLists, ¬ ∀ s ∈ wanted, s ∈ p.states) ∨
    ((¬ ∃ g ∈ m.groups, g.Clashes wanted) ∧
      (∀ permutation, ∃ verdict,
        Registry.builtin.evaluate RelationKind.and.key m permutation wanted = .ok verdict) ∧
      (m.satisfying wanted).length =
        ((m.groups.filter (StateGroup.isFree wanted)).map StateGroup.size).prod ∧
      ((∀ g ∈ m.groups, g.states ≠ []) → m.satisfying wanted ≠ [])) := by
  cases hcheck : Relation.contradiction? m wanted with
  | some g =>
    obtain ⟨hg, before, after, hsplit, hbefore⟩ :=
      (Relation.contradiction?_eq_some_iff hu).mp hcheck
    have hmem : g ∈ m.groups := by simp [hsplit]
    refine .inl ⟨⟨g, hmem, hg⟩, ⟨before, g, after, hsplit, hg, hbefore, fun permutation => ?_⟩,
      fun p hp => (GroupMap.mem_enumerate.mp hp).2.not_forall_mem_of_clashes hu hmem hg⟩
    exact ⟨_, GroupMap.evaluate_and_of_clashes hu hsplit hg hbefore permutation, rfl, rfl, rfl, rfl⟩
  | none =>
    have hc := (Relation.contradiction?_eq_none_iff_clashes hu).mp hcheck
    have hlength := GroupMap.length_satisfying hm hu hw hc
    refine .inr ⟨fun ⟨g, hg, hclash⟩ => hc g hg hclash,
      fun permutation => ⟨_, GroupMap.evaluate_and_of_not_clashes hu hc permutation⟩, hlength,
      fun hstates => List.ne_nil_of_length_pos ?_⟩
    rw [hlength]
    refine List.prod_pos fun n hn => ?_
    obtain ⟨g, hg, rfl⟩ := List.mem_map.mp hn
    exact List.length_pos_iff.mpr (hstates g (List.mem_filter.mp hg).1)

/-- That the lamp is on and both high and low is reported in every permutation, as it is so in none.
That it is on at night is true at each of its three levels. -/
theorem contradiction_exact_dimmer :
    dimmer.groups ≠ [] ∧ dimmer.allStates.Nodup ∧
      (∀ s ∈ ["High", "On", "Low"], s ∈ dimmer.allStates) ∧
      (∀ s ∈ ["Night", "On"], s ∈ dimmer.allStates) ∧
      (∀ permutation, ∃ r, Registry.builtin.evaluate RelationKind.and.key dimmer permutation
          ["High", "On", "Low"] = .error (.report r) ∧ r.code = .contradictoryCondition) ∧
      (∀ p ∈ Permutation.enumerate dimmer.stateLists,
        ¬ ∀ s ∈ ["High", "On", "Low"], s ∈ p.states) ∧
      (dimmer.satisfying ["Night", "On"]).length = 3 := by
  have hm : dimmer.groups ≠ [] := by decide
  have hu : dimmer.allStates.Nodup := by decide
  have hclash : ∀ s ∈ ["High", "On", "Low"], s ∈ dimmer.allStates := by decide
  have hfree : ∀ s ∈ ["Night", "On"], s ∈ dimmer.allStates := by decide
  obtain ⟨-, ⟨_, _, _, _, _, _, hreport⟩, hnone⟩ | ⟨hno, -⟩ := contradiction_exact hm hu hclash
  · obtain ⟨hyes, -⟩ | ⟨-, -, hlength, -⟩ := contradiction_exact hm hu hfree
    · exact absurd hyes (by decide)
    · refine ⟨hm, hu, hclash, hfree, fun permutation => ?_, hnone, hlength.trans (by decide)⟩
      obtain ⟨r, hr, -, hcode, -⟩ := hreport permutation
      exact ⟨r, hr, hcode⟩
  · exact absurd hno (by decide)

end Typestate
