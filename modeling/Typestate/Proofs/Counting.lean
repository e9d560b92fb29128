import Typestate.Proofs.Contradiction
import Mathlib.Data.Finset.Card

/-! # Relations count groups

The built-in relations look at texts: how many of the wanted ones are among the states of a
permutation. If state names are unique, a permutation has one state of each group and no state
twice, so what they count are groups.

* `GroupMap.meeting`: the number of groups whose state in a permutation is wanted. The relations
  count the same (`Relation.countMatches_eq_meeting`).
* `GroupMap.Fits.meeting_le_one`: of states of one group at most one is met.
* `GroupMap.Fits.meeting_eq_zero_iff`: none is met exactly if every group has another state there.
* `relations_count_groups`: the three relations in terms of this number. -/

namespace Typestate

/-- **Each different name is counted once.** -/
theorem Names.length_distinct (names : List String) :
    (distinct names).length = names.toFinset.card := by
  have hset : (distinct names).toFinset = names.toFinset := by
    ext s
    simp only [List.mem_toFinset, mem_distinct]
  rw [← hset, List.toFinset_card_of_nodup (nodup_distinct names)]

namespace GroupMap

/-- The number of groups whose state in the permutation is one of the wanted ones. -/
def meeting (m : GroupMap) (p : Permutation) (wanted : List String) : Nat :=
  (m.groups.zip p.states).countP fun entry => entry.2 ∈ wanted

variable {m : GroupMap} {p : Permutation} {wanted : List String}

theorem Fits.meeting_eq (h : m.Fits p) : m.meeting p wanted = p.states.countP (· ∈ wanted) := by
  have hstates : (m.groups.zip p.states).map Prod.snd = p.states :=
    List.map_snd_zip (Nat.le_of_eq h.size)
  conv_rhs => rw [← hstates, List.countP_map]
  rfl

/-- **A permutation has no state twice.** -/
theorem Fits.nodup (hu : m.allStates.Nodup) (h : m.Fits p) : p.states.Nodup := by
  rw [List.nodup_iff_getElem?_ne_getElem?]
  intro i j hij hj heq
  have hplace : ∀ k (hk : k < p.states.length), m.place? p.states[k] = some k := fun k hk =>
    (place?_eq_some_iff hu).mpr (h.mem k _ (List.getElem?_eq_getElem hk))
  have hi : i < p.states.length := by omega
  rw [List.getElem?_eq_getElem hi, List.getElem?_eq_getElem hj, Option.some.injEq] at heq
  have hsame := hplace i hi
  rw [heq, hplace j hj, Option.some.injEq] at hsame
  omega

/-- **Of states of one group at most one is met.** -/
theorem Fits.meeting_le_one (hu : m.allStates.Nodup) (h : m.Fits p) {g : StateGroup}
    (hg : g ∈ m.groups) (hw : ∀ s ∈ wanted, s ∈ g.states) : m.meeting p wanted ≤ 1 := by
  rw [h.meeting_eq, List.countP_eq_length_filter, Names.length_le_one_iff ((h.nodup hu).filter _)]
  intro s hs t ht
  obtain ⟨hsp, hsw⟩ := List.mem_filter.mp hs
  obtain ⟨htp, htw⟩ := List.mem_filter.mp ht
  by_contra hne
  have hclash : g.Clashes [s, t] :=
    ⟨s, by simp, t, by simp, hne, hw s (by simpa using hsw), hw t (by simpa using htw)⟩
  exact h.not_forall_mem_of_clashes hu hg hclash (by simp [hsp, htp])

theorem Fits.meeting_eq_zero (h : m.Fits p) :
    m.meeting p wanted = 0 ↔ ∀ s ∈ p.states, s ∉ wanted := by
  simp [h.meeting_eq, List.countP_eq_zero]

/-- **No wanted state is met exactly if every group has a state there that is not wanted.** -/
theorem Fits.meeting_eq_zero_iff (hu : m.allStates.Nodup) (h : m.Fits p) :
    m.meeting p wanted = 0 ↔ ∀ g ∈ m.groups, ∃ s ∈ g.states, s ∉ wanted ∧ s ∈ p.states := by
  rw [h.meeting_eq_zero]
  constructor
  · intro hnone g hg
    obtain ⟨i, hi, rfl⟩ := List.getElem_of_mem hg
    have hi' : i < p.states.length := by rwa [h.size]
    obtain ⟨_, hmem⟩ := h.mem i _ (List.getElem?_eq_getElem hi')
    exact ⟨_, hmem, hnone _ (List.getElem_mem hi'), List.getElem_mem hi'⟩
  · intro hother s hs hwanted
    obtain ⟨i, hi, rfl⟩ := List.getElem_of_mem hs
    obtain ⟨hlt, -⟩ := h.mem i _ (List.getElem?_eq_getElem hi)
    obtain ⟨t, htg, htw, htp⟩ := hother _ (List.getElem_mem hlt)
    -- the state of the group that is not wanted stands at the same position, so it is the same
    have ht := (h.mem_states_iff hu ((place?_eq_some_iff hu).mpr ⟨hlt, htg⟩)).mp htp
    rw [List.getElem?_eq_getElem hi, Option.some.injEq] at ht
    exact htw (ht ▸ hwanted)

end GroupMap

/-! ### What the relations count -/

namespace Relation

variable {m : GroupMap} {p : Permutation} {wanted : List String}

/-- **The wanted states that are found are as many as the groups in which they are.** -/
theorem countMatches_eq_meeting (hu : m.allStates.Nodup) (h : m.Fits p) :
    countMatches p.states wanted = m.meeting p wanted := by
  rw [countMatches, h.meeting_eq, List.countP_eq_length_filter]
  refine List.Perm.length_eq ((List.perm_ext_iff_of_nodup ((Names.nodup_distinct wanted).filter _)
    ((h.nodup hu).filter _)).mpr fun s => ?_)
  simp only [List.mem_filter, Names.mem_distinct, decide_eq_true_eq]
  exact and_comm

/-- **Every wanted state is found exactly if as many groups are met as there are wanted states.** -/
theorem all_iff_meeting (hu : m.allStates.Nodup) (h : m.Fits p) :
    wanted.all (· ∈ p.states) = true ↔ m.meeting p wanted = wanted.toFinset.card := by
  rw [← countMatches_eq_meeting hu h, countMatches, ← Names.length_distinct,
    List.length_filter_eq_length_iff, List.all_eq_true]
  simp only [Names.mem_distinct]

theorem disjunction_holds (hu : m.allStates.Nodup) (h : m.Fits p) :
    disjunction.holds m p.states wanted = .ok (decide (1 ≤ m.meeting p wanted)) := by
  rw [← countMatches_eq_meeting hu h]
  rfl

theorem exclusive_holds (hu : m.allStates.Nodup) (h : m.Fits p) :
    exclusive.holds m p.states wanted = .ok (decide (m.meeting p wanted = 1)) := by
  rw [← countMatches_eq_meeting hu h]
  rfl

theorem conjunction_holds (hu : m.allStates.Nodup) (h : m.Fits p) {verdict : Bool}
    (hv : conjunction.holds m p.states wanted = .ok verdict) :
    verdict = true ↔ m.meeting p wanted = wanted.toFinset.card := by
  rw [← all_iff_meeting hu h]
  simp only [conjunction] at hv
  split at hv
  · cases hv
  · cases hv
    rfl

end Relation

/-- **The relations count groups.** Let state names be unique, and let some of the groups be met by
the wanted states in a permutation. The disjunction is true if one is met or more, the exclusive
relation if it is exactly one, and the conjunction, where it has a verdict, if as many are met as
there are different wanted states. So the first two agree on states of one group; the disjunction is
false exactly if it is true, for each group, of the states of the group that are not wanted; and
where a conjunction of any states is true, the disjunction is, and the exclusive relation is if only
one state is wanted. -/
theorem relations_count_groups {m : GroupMap} (hu : m.allStates.Nodup) {p : Permutation}
    (hp : p ∈ Permutation.enumerate m.stateLists) (wanted : List String) :
    Relation.disjunction.holds m p.states wanted = .ok (decide (1 ≤ m.meeting p wanted)) ∧
    Relation.exclusive.holds m p.states wanted = .ok (decide (m.meeting p wanted = 1)) ∧
    (∀ verdict, Relation.conjunction.holds m p.states wanted = .ok verdict →
      (verdict = true ↔ m.meeting p wanted = wanted.toFinset.card)) ∧
    ((∃ g ∈ m.groups, ∀ s ∈ wanted, s ∈ g.states) →
      Relation.disjunction.holds m p.states wanted = Relation.exclusive.holds m p.states wanted) ∧
    (Relation.disjunction.holds m p.states wanted = .ok false ↔ ∀ g ∈ m.groups,
      Relation.disjunction.holds m p.states (g.states.filter (· ∉ wanted)) = .ok true) ∧
    (wanted ≠ [] → Relation.conjunction.holds m p.states wanted = .ok true →
      Relation.disjunction.holds m p.states wanted = .ok true ∧
        (Relation.exclusive.holds m p.states wanted = .ok true ↔ wanted.toFinset.card = 1)) := by
  have h := (GroupMap.mem_enumerate.mp hp).2
  refine ⟨Relation.disjunction_holds hu h, Relation.exclusive_holds hu h,
    fun verdict => Relation.conjunction_holds hu h, fun ⟨g, hg, hw⟩ => ?_, ?_, fun hne hall => ?_⟩
  · have hle := h.meeting_le_one hu hg hw
    rw [Relation.disjunction_holds hu h, Relation.exclusive_holds hu h]
    congr 2
    rw [eq_iff_iff]
    omega
  · have hother : ∀ g ∈ m.groups,
        (Relation.disjunction.holds m p.states (g.states.filter (· ∉ wanted)) = .ok true ↔
          ∃ s ∈ g.states, s ∉ wanted ∧ s ∈ p.states) := fun g _ => by
      simp only [Relation.disjunction, Except.ok.injEq, decide_eq_true_eq,
        Relation.countMatches_pos_iff, List.mem_filter, and_assoc]
    rw [forall₂_congr hother, ← h.meeting_eq_zero_iff hu, Relation.disjunction_holds hu h,
      Except.ok.injEq, decide_eq_false_iff_not]
    omega
  · have hcount := (Relation.conjunction_holds hu h hall).mp rfl
    have hpos : 0 < wanted.toFinset.card :=
      Finset.card_pos.mpr (List.toFinset_nonempty_iff wanted |>.mpr hne)
    rw [Relation.disjunction_holds hu h, Relation.exclusive_holds hu h, hcount]
    simp only [Except.ok.injEq, decide_eq_true_eq]
    exact ⟨hpos, trivial⟩

/-- In the lamp that is on at half its light, two of the groups are met by three wanted states, one
of which is none of its states. Two other levels agree in being absent, and of two states that are
both there neither is there alone. -/
theorem relations_count_groups_dimmer :
    dimmer.allStates.Nodup ∧ ⟨["On", "Mid", "Day"]⟩ ∈ Permutation.enumerate dimmer.stateLists ∧
      Relation.disjunction.holds dimmer ["On", "Mid", "Day"] ["Day", "Mid", "Gone", "Mid"] =
        .ok true ∧
      Relation.exclusive.holds dimmer ["On", "Mid", "Day"] ["Day", "Mid", "Gone", "Mid"] =
        .ok false ∧
      (∀ verdict, Relation.conjunction.holds dimmer ["On", "Mid", "Day"]
        ["Day", "Mid", "Gone", "Mid"] =
        .ok verdict → verdict = false) ∧
      Relation.disjunction.holds dimmer ["On", "Mid", "Day"] ["Low", "High"] =
        Relation.exclusive.holds dimmer ["On", "Mid", "Day"] ["Low", "High"] ∧
      Relation.exclusive.holds dimmer ["On", "Mid", "Day"] ["Mid", "On"] ≠ .ok true := by
  have hu : dimmer.allStates.Nodup := by decide
  have hp : ⟨["On", "Mid", "Day"]⟩ ∈ Permutation.enumerate dimmer.stateLists := by decide
  obtain ⟨hor, hxor, hand, -⟩ := relations_count_groups hu hp ["Day", "Mid", "Gone", "Mid"]
  obtain ⟨-, -, -, hagree, -⟩ := relations_count_groups hu hp ["Low", "High"]
  obtain ⟨-, -, -, -, -, hboth⟩ := relations_count_groups hu hp ["Mid", "On"]
  refine ⟨hu, hp, hor, hxor, fun verdict hv => ?_, ?_, fun hone => ?_⟩
  · have hne : ¬ verdict = true := fun h => absurd ((hand verdict hv).mp h) (by decide)
    simpa using hne
  · exact hagree ⟨⟨"Level", ["Low", "Mid", "High"]⟩, by decide, by decide⟩
  · exact absurd ((hboth (by decide) rfl).2.mp hone) (by decide)

end Typestate
