import Typestate.Proofs.Declared

/-! # Conjunctions over groups that repeat a state

A conjunction is to be refused if a group has two of the wanted states. What is looked at are the
places of the group that hold wanted states, and a group that has not been checked can hold one
state at two places. So one wanted state is refused where it is listed twice, even in a permutation
that has it.

* `StateGroup.Doubles`: the group lists one of the wanted states more than once.
  `StateGroup.one_lt_length_clashing_iff_or`: several places hold wanted states exactly if two of
  them clash or one is doubled.
* `GroupMap.RefusesAnd`: the conjunction is reported as contradictory. `GroupMap.refusesAnd_iff`:
  when that is, and `GroupMap.evaluate_and_of_not_refusesAnd`: what the verdict is otherwise.
* `GroupMap.JudgesByClashes`: the conjunction is refused for nothing but a clash.
* `conjunction_counts_places`: this is so exactly if no wanted state is doubled, or some clash
  anyway. -/

namespace Typestate

/-! ### Places of a group -/

namespace StateGroup

/-- The group lists one of the wanted states more than once. -/
def Doubles (wanted : List String) (g : StateGroup) : Prop := ∃ s ∈ wanted, 1 < g.states.count s

instance (wanted : List String) (g : StateGroup) : Decidable (g.Doubles wanted) := by
  unfold Doubles
  infer_instance

variable {wanted : List String} {g : StateGroup}

theorem not_doubles_of_nodup (h : g.states.Nodup) : ¬ g.Doubles wanted := by
  rintro ⟨s, -, hs⟩
  have hle := List.nodup_iff_count_le_one.mp h s
  omega

theorem one_lt_length_clashing_of_clashes (h : g.Clashes wanted) :
    1 < (Relation.clashing wanted g).length := by
  obtain ⟨s, hs, t, ht, hne, hsg, htg⟩ := h
  have hs' : s ∈ Relation.clashing wanted g := mem_clashing.mpr ⟨hsg, hs⟩
  have ht' : t ∈ Relation.clashing wanted g := mem_clashing.mpr ⟨htg, ht⟩
  have hpair : [s, t].Nodup := by simpa using hne
  have hsub : [s, t] ⊆ Relation.clashing wanted g := by simp [hs', ht']
  exact (List.subperm_of_subset hpair hsub).length_le

theorem one_lt_length_clashing_of_doubles (h : g.Doubles wanted) :
    1 < (Relation.clashing wanted g).length := by
  obtain ⟨s, hs, hcount⟩ := h
  have hkept : (Relation.clashing wanted g).count s = g.states.count s :=
    List.count_filter (by simpa using hs)
  have hle : (Relation.clashing wanted g).count s ≤ (Relation.clashing wanted g).length :=
    List.count_le_length
  omega

/-- **Several places hold wanted states exactly if two of these clash or one is doubled.** -/
theorem one_lt_length_clashing_iff_or :
    1 < (Relation.clashing wanted g).length ↔ g.Clashes wanted ∨ g.Doubles wanted := by
  constructor
  · intro hlen
    by_cases hnodup : (Relation.clashing wanted g).Nodup
    · -- different states stand at the places
      have hdiffer := mt (Names.length_le_one_iff hnodup).mpr (Nat.not_le.mpr hlen)
      push Not at hdiffer
      obtain ⟨s, hs, t, ht, hne⟩ := hdiffer
      obtain ⟨hsg, hsw⟩ := mem_clashing.mp hs
      obtain ⟨htg, htw⟩ := mem_clashing.mp ht
      exact .inl ⟨s, hsw, t, htw, hne, hsg, htg⟩
    · rw [List.nodup_iff_count_le_one] at hnodup
      push Not at hnodup
      obtain ⟨s, hs⟩ := hnodup
      have hmem : s ∈ Relation.clashing wanted g := List.count_pos_iff.mp (by omega)
      have hle : (Relation.clashing wanted g).count s ≤ g.states.count s :=
        List.filter_sublist.count_le s
      exact .inr ⟨s, (mem_clashing.mp hmem).2, by omega⟩
  · rintro (h | h)
    · exact one_lt_length_clashing_of_clashes h
    · exact one_lt_length_clashing_of_doubles h

end StateGroup

/-! ### The verdict -/

namespace GroupMap

variable {m : GroupMap} {wanted permutation : List String}

/-- The conjunction of the wanted states is reported as contradictory. -/
def RefusesAnd (m : GroupMap) (permutation wanted : List String) : Prop :=
  ∃ r, Registry.builtin.evaluate RelationKind.and.key m permutation wanted = .error (.report r) ∧
    r.code = .contradictoryCondition

/-- **A conjunction is refused exactly if several places of a group hold wanted states.** -/
theorem refusesAnd_iff :
    m.RefusesAnd permutation wanted ↔ ∃ g ∈ m.groups, g.Clashes wanted ∨ g.Doubles wanted := by
  simp only [← StateGroup.one_lt_length_clashing_iff_or]
  unfold RefusesAnd
  rw [evaluate_and]
  cases hcheck : Relation.contradiction? m wanted with
  | some g =>
    have hmem : g ∈ m.groups := List.mem_of_find?_eq_some hcheck
    have hplaces : 1 < (Relation.clashing wanted g).length := by simpa using List.find?_some hcheck
    exact ⟨fun _ => ⟨g, hmem, hplaces⟩, fun _ => ⟨_, rfl, rfl⟩⟩
  | none =>
    have hnone := List.find?_eq_none.mp hcheck
    constructor
    · rintro ⟨_, h, -⟩
      cases h
    · rintro ⟨g, hg, hplaces⟩
      exact absurd (by simpa using hplaces) (hnone g hg)

/-- **A conjunction that is not refused is true exactly if all wanted states are there.** -/
theorem evaluate_and_of_not_refusesAnd (h : ¬ m.RefusesAnd permutation wanted) :
    Registry.builtin.evaluate RelationKind.and.key m permutation wanted =
      .ok (decide (∀ s ∈ wanted, s ∈ permutation)) := by
  unfold RefusesAnd at h
  rw [evaluate_and] at h ⊢
  cases hcheck : Relation.contradiction? m wanted with
  | some g =>
    rw [hcheck] at h
    exact absurd ⟨_, rfl, rfl⟩ h
  | none =>
    refine congrArg Except.ok ?_
    rw [Bool.eq_iff_iff, List.all_eq_true, decide_eq_true_eq]
    simp only [decide_eq_true_eq]

/-- The conjunction of the wanted states is refused exactly if two different ones belong to one
group, whatever the permutation; otherwise it is true exactly if all of them are in the
permutation. -/
def JudgesByClashes (m : GroupMap) (wanted : List String) : Prop :=
  ∀ permutation, (m.RefusesAnd permutation wanted ↔ ∃ g ∈ m.groups, g.Clashes wanted) ∧
    ((∀ g ∈ m.groups, ¬ g.Clashes wanted) →
      Registry.builtin.evaluate RelationKind.and.key m permutation wanted =
        .ok (decide (∀ s ∈ wanted, s ∈ permutation)))

theorem judgesByClashes_iff :
    m.JudgesByClashes wanted ↔
      ((∃ g ∈ m.groups, g.Doubles wanted) → ∃ g ∈ m.groups, g.Clashes wanted) := by
  constructor
  · rintro h ⟨g, hg, hdouble⟩
    exact (h []).1.mp (refusesAnd_iff.mpr ⟨g, hg, .inr hdouble⟩)
  · intro h permutation
    have hiff : m.RefusesAnd permutation wanted ↔ ∃ g ∈ m.groups, g.Clashes wanted := by
      rw [refusesAnd_iff]
      constructor
      · rintro ⟨g, hg, hclash | hdouble⟩
        · exact ⟨g, hg, hclash⟩
        · exact h ⟨g, hg, hdouble⟩
      · rintro ⟨g, hg, hclash⟩
        exact ⟨g, hg, .inl hclash⟩
    refine ⟨hiff, fun hnone => evaluate_and_of_not_refusesAnd fun hrefused => ?_⟩
    obtain ⟨g, hg, hclash⟩ := hiff.mp hrefused
    exact hnone g hg hclash

end GroupMap

/-- **Conjunctions are refused by places, and not by states.** Over the map of any groups, in any
permutation, a conjunction is refused exactly if a group has two different wanted states or lists
one of them more than once; otherwise it is true exactly if all wanted states are in the
permutation. A single state is refused exactly if a group lists it more than once. So conjunctions
are refused for clashes alone exactly if no group doubles a wanted state, unless some clash anyway;
and always if no group repeats a state, whatever different groups have in common. -/
theorem conjunction_counts_places (m : GroupMap) :
    (∀ wanted permutation,
      (m.RefusesAnd permutation wanted ↔ ∃ g ∈ m.groups, g.Clashes wanted ∨ g.Doubles wanted) ∧
      (¬ m.RefusesAnd permutation wanted →
        Registry.builtin.evaluate RelationKind.and.key m permutation wanted =
          .ok (decide (∀ s ∈ wanted, s ∈ permutation)))) ∧
    (∀ s permutation, m.RefusesAnd permutation [s] ↔ ∃ g ∈ m.groups, 1 < g.states.count s) ∧
    (∀ wanted, m.JudgesByClashes wanted ↔
      ((∃ g ∈ m.groups, g.Doubles wanted) → ∃ g ∈ m.groups, g.Clashes wanted)) ∧
    ((∀ g ∈ m.groups, g.states.Nodup) → ∀ wanted, m.JudgesByClashes wanted) := by
  refine ⟨fun wanted permutation =>
    ⟨GroupMap.refusesAnd_iff, GroupMap.evaluate_and_of_not_refusesAnd⟩,
    fun s permutation => ?_, fun wanted => GroupMap.judgesByClashes_iff, fun hnodup wanted => ?_⟩
  · rw [GroupMap.refusesAnd_iff]
    refine exists_congr fun g => and_congr_right fun _ => ?_
    constructor
    · rintro (⟨a, ha, b, hb, hne, -, -⟩ | ⟨a, ha, hcount⟩)
      · rw [List.mem_singleton] at ha hb
        exact absurd (ha.trans hb.symm) hne
      · rwa [List.mem_singleton.mp ha] at hcount
    · exact fun hcount => .inr ⟨s, List.mem_singleton.mpr rfl, hcount⟩
  · refine GroupMap.judgesByClashes_iff.mpr fun ⟨g, hg, hdouble⟩ => ?_
    exact absurd hdouble (StateGroup.not_doubles_of_nodup (hnodup g hg))

/-- The doors as a map that has not been checked. -/
def doorMap : GroupMap := ⟨doors, by decide⟩

/-- **That the front door is open is refused while it is open**, since the door lists this state
twice; no two wanted states clash. That the doors are shut is not refused, although both can be. -/
theorem open_door_refused :
    doorMap.RefusesAnd ["Open", "Ajar"] ["Open"] ∧ (∀ g ∈ doorMap.groups, ¬ g.Clashes ["Open"]) ∧
      ¬ doorMap.JudgesByClashes ["Open"] ∧ ¬ doorMap.RefusesAnd ["Shut", "Shut"] ["Shut"] := by
  have hrefused : doorMap.RefusesAnd ["Open", "Ajar"] ["Open"] := ⟨_, rfl, rfl⟩
  have hnone : ∀ g ∈ doorMap.groups, ¬ g.Clashes ["Open"] := by decide
  refine ⟨hrefused, hnone, fun h => ?_, fun h => ?_⟩
  · obtain ⟨g, hg, hclash⟩ := (h ["Open", "Ajar"]).1.mp hrefused
    exact hnone g hg hclash
  · have hplaces : ¬ ∃ g ∈ doorMap.groups, g.Clashes ["Shut"] ∨ g.Doubles ["Shut"] := by decide
    exact hplaces (GroupMap.refusesAnd_iff.mp h)

end Typestate
