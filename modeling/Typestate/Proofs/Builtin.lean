import Typestate.Proofs.Fault

/-! # Conditions under the built-in relations

Whether a condition has a verdict under the built-in relations does not depend on the permutation:
its relation has to be one of the three, and a conjunction must not ask two states of one group.

* `Condition.Valid`, `Condition.Met`: the condition has a verdict; the verdict is that it holds.
* `Rules.decided_builtin_iff`, `Rules.holds_builtin_iff`: so it is under the built-in relations.
* `Failure.Inconsistent`: the report of an inconsistency. The built-in relations fail with nothing
  else (`Registry.inconsistent_of_evaluate_builtin`).
* `Resolver.Fails.site`: what the report about a capability names. -/

namespace Typestate

/-! ### Counting -/

/-- A list without repetition is short exactly if all its members are one. -/
theorem Names.length_le_one_iff {names : List String} (h : names.Nodup) :
    names.length ≤ 1 ↔ ∀ s ∈ names, ∀ t ∈ names, s = t := by
  match names with
  | [] => simp
  | [s] => simp
  | s :: t :: rest =>
    have hne : s ≠ t := fun heq => (List.nodup_cons.mp h).1 (heq ▸ List.mem_cons_self ..)
    simp [hne]

namespace Relation

variable {permutation wanted : List String}

theorem countMatches_pos_iff :
    1 ≤ countMatches permutation wanted ↔ ∃ s ∈ wanted, s ∈ permutation := by
  rw [countMatches, Nat.one_le_iff_ne_zero, ne_eq, List.length_eq_zero_iff, List.filter_eq_nil_iff]
  simp [Names.mem_distinct]

theorem countMatches_eq_one_iff :
    countMatches permutation wanted = 1 ↔
      ∃ s ∈ wanted, s ∈ permutation ∧ ∀ t ∈ wanted, t ∈ permutation → t = s := by
  have hnodup : ((Names.distinct wanted).filter (· ∈ permutation)).Nodup :=
    (Names.nodup_distinct wanted).filter _
  have hle := Names.length_le_one_iff hnodup
  simp only [List.mem_filter, Names.mem_distinct, decide_eq_true_eq, and_imp] at hle
  constructor
  · intro h
    obtain ⟨s, hs, hsp⟩ := countMatches_pos_iff.mp (Nat.le_of_eq h.symm)
    exact ⟨s, hs, hsp, fun t ht htp => hle.mp (Nat.le_of_eq h) t ht htp s hs hsp⟩
  · rintro ⟨s, hs, hsp, hone⟩
    refine Nat.le_antisymm (hle.mpr fun t ht htp u hu hup => ?_)
      (countMatches_pos_iff.mpr ⟨s, hs, hsp⟩)
    rw [hone t ht htp, hone u hu hup]

/-- **No group contradicts a conjunction exactly if none has two of the wanted states.** -/
theorem contradiction?_eq_none_iff {m : GroupMap} (hu : m.allStates.Nodup) :
    contradiction? m wanted = none ↔ ∀ g ∈ m.groups, ∀ s ∈ wanted, ∀ t ∈ wanted,
      s ∈ g.states → t ∈ g.states → s = t := by
  rw [contradiction?, List.find?_eq_none]
  refine forall₂_congr fun g hg => ?_
  have hnodup : (clashing wanted g).Nodup := ((List.nodup_flatMap.mp hu).1 g hg).filter _
  rw [decide_eq_true_eq, Nat.not_lt, Names.length_le_one_iff hnodup]
  simp only [clashing, List.mem_filter, decide_eq_true_eq, and_imp]
  constructor
  · exact fun h s hs t ht hsg htg => h s hsg hs t htg ht
  · exact fun h s hsg hs t htg ht => h s hs t ht hsg htg

end Relation

/-! ### Verdicts -/

theorem RelationRef.key_eq_lower (r : RelationRef) : r.key = Text.lower r.identifier := by
  cases r with
  | builtin kind => cases kind <;> rfl
  | named text _ => rfl

/-- The wanted states stand in the relation to the states of a permutation. -/
def RelationKind.Met : RelationKind → (wanted permutation : List String) → Prop
  | .and, wanted, permutation => ∀ s ∈ wanted, s ∈ permutation
  | .or, wanted, permutation => ∃ s ∈ wanted, s ∈ permutation
  | .xor, wanted, permutation =>
    ∃ s ∈ wanted, s ∈ permutation ∧ ∀ t ∈ wanted, t ∈ permutation → t = s

namespace Condition

/-- The relation is one of the three, in any letter case, and a conjunction names no two states of
one group. -/
def Valid (groups : List StateGroup) (c : Condition) : Prop :=
  ∃ kind : RelationKind, Text.lower c.relation.identifier = kind.key ∧
    (kind = .and → ∀ g ∈ groups, ∀ s ∈ c.states.toList, ∀ t ∈ c.states.toList,
      s ∈ g.states → t ∈ g.states → s = t)

/-- The condition holds in the permutation. -/
def Met (c : Condition) (p : Permutation) : Prop :=
  ∃ kind : RelationKind, Text.lower c.relation.identifier = kind.key ∧
    kind.Met c.states.toList p.states

end Condition

theorem RelationKind.key_injective {a b : RelationKind} (h : a.key = b.key) : a = b := by
  have hb := ofKey?_key b
  rw [← h, ofKey?_key a] at hb
  exact Option.some.inj hb

theorem Registry.find?_builtin (key : String) :
    Registry.builtin.find? key = (RelationKind.ofKey? key).map RelationKind.relation := by
  by_cases hand : key = "and"
  · subst hand
    rfl
  by_cases hor : key = "or"
  · subst hor
    rfl
  by_cases hxor : key = "xor"
  · subst hxor
    rfl
  simp [RelationKind.ofKey?, find?, builtin, RelationKind.key, List.lookup_cons, hand, hor,
    hxor, beq_false_of_ne]

theorem Relation.verdict_eq_iff {b verdict : Bool} {P : Prop} (h : b = true ↔ P) :
    (.ok b : Except Failure Bool) = .ok verdict ↔ (verdict = true ↔ P) := by
  rw [Except.ok.injEq, Bool.eq_iff_iff, h]
  exact iff_comm

/-- **The verdict of a kind**, unless a group contradicts a conjunction. -/
theorem RelationKind.holds_eq_ok_iff (kind : RelationKind) {m : GroupMap}
    {permutation wanted : List String} {verdict : Bool} :
    kind.relation.holds m permutation wanted = .ok verdict ↔
      (kind = .and → Relation.contradiction? m wanted = none) ∧
        (verdict = true ↔ kind.Met wanted permutation) := by
  cases kind with
  | and =>
    simp only [relation, Relation.conjunction, Met, true_implies]
    cases Relation.contradiction? m wanted with
    | some g => simp
    | none => simpa using Relation.verdict_eq_iff (by simp)
  | or =>
    simp only [relation, Relation.disjunction, Met, reduceCtorEq, false_implies, true_and]
    exact Relation.verdict_eq_iff (decide_eq_true_iff.trans Relation.countMatches_pos_iff)
  | xor =>
    simp only [relation, Relation.exclusive, Met, reduceCtorEq, false_implies, true_and]
    exact Relation.verdict_eq_iff (decide_eq_true_iff.trans Relation.countMatches_eq_one_iff)

/-- **A condition has a verdict exactly if it is valid, and it holds exactly if it is met.** -/
theorem Registry.evaluate_builtin_eq_ok_iff {m : GroupMap} (hu : m.allStates.Nodup)
    {condition : Condition} {p : Permutation} {verdict : Bool} :
    Registry.builtin.evaluate condition.relation.key m p.states condition.states.toList =
        .ok verdict ↔
      condition.Valid m.groups ∧ (verdict = true ↔ condition.Met p) := by
  rw [evaluate, getKey, find?_builtin, condition.relation.key_eq_lower, Condition.Valid,
    Condition.Met]
  cases hkind : RelationKind.ofKey? (Text.lower condition.relation.identifier) with
  | none =>
    have hother : ∀ kind : RelationKind, Text.lower condition.relation.identifier ≠ kind.key :=
      fun kind h => by
        rw [h, RelationKind.ofKey?_key] at hkind
        cases hkind
    simp [hother, Bind.bind, Except.bind]
  | some kind =>
    have hkey := RelationKind.key_of_ofKey? hkind
    have hunique : ∀ {P : RelationKind → Prop},
        (∃ k : RelationKind, Text.lower condition.relation.identifier = k.key ∧ P k) ↔ P kind := by
      intro P
      rw [← hkey]
      exact ⟨fun ⟨k, hk, h⟩ => RelationKind.key_injective hk ▸ h, fun h => ⟨kind, rfl, h⟩⟩
    rw [hunique, hunique, ← Relation.contradiction?_eq_none_iff hu]
    exact kind.holds_eq_ok_iff

namespace Rules

variable {m : GroupMap} {condition : Condition} {p : Permutation}

theorem decided_builtin_iff (hu : m.allStates.Nodup) :
    Decided m Registry.builtin condition p ↔ condition.Valid m.groups := by
  classical
  simp only [Decided, Registry.evaluate_builtin_eq_ok_iff hu]
  constructor
  · exact fun ⟨_, h, _⟩ => h
  · exact fun h => ⟨decide (condition.Met p), h, decide_eq_true_iff⟩

theorem holds_builtin_iff (hu : m.allStates.Nodup) (hv : condition.Valid m.groups) :
    holds m Registry.builtin condition p = true ↔ condition.Met p :=
  ((Registry.evaluate_builtin_eq_ok_iff hu).mp
    (evaluate_eq_ok_iff.mpr ⟨(decided_builtin_iff hu).mpr hv, rfl⟩)).2

end Rules

/-! ### Failures -/

/-- The failure is the report of an inconsistency. -/
def Failure.Inconsistent (e : Failure) : Prop := ∃ r, e = .report r ∧ r.family = .inconsistency

theorem Failure.Inconsistent.mapSite {e : Failure} (h : e.Inconsistent) (f : Site → Site) :
    (e.mapSite f).Inconsistent := by
  obtain ⟨r, rfl, hr⟩ := h
  exact ⟨{ r with site := f r.site }, if_pos hr, hr⟩

/-- **A built-in relation fails with the report about a contradiction**, or not at all. -/
theorem RelationKind.exists_contradiction_of_error {kind : RelationKind} {m : GroupMap}
    {permutation wanted : List String} {e : Failure}
    (h : kind.relation.holds m permutation wanted = .error e) :
    ∃ g, e = .report (Relation.contradictionReport permutation wanted g) := by
  cases kind with
  | and =>
    simp only [relation, Relation.conjunction] at h
    split at h
    · next g _ =>
      cases h
      exact ⟨g, rfl⟩
    · cases h
  | or => cases h
  | xor => cases h

theorem Registry.code_of_raises_builtin {code : Code} (h : Registry.builtin.Raises code) :
    code = .contradictoryCondition := by
  obtain ⟨entry, hentry, m, permutation, wanted, e, hholds, hcode⟩ := h
  obtain ⟨kind, -, rfl⟩ := List.mem_map.mp hentry
  obtain ⟨g, rfl⟩ := RelationKind.exists_contradiction_of_error hholds
  exact (Option.some.inj hcode).symm

/-- The report of an inconsistency that names neither the entity nor the capability, and no
permutation but the one that was tested. -/
structure Report.Unnamed (permutation : List String) (r : Report) : Prop where
  family : r.family = .inconsistency
  entity : r.site.entity = none
  capability : r.site.capability = none
  permutation : r.site.permutation = none ∨ r.site.permutation = some permutation

/-- **A built-in relation leaves it to others to name the entity and the capability.** -/
theorem Registry.unnamed_of_evaluate_builtin {key : String} {m : GroupMap}
    {permutation wanted : List String} {e : Failure}
    (h : Registry.builtin.evaluate key m permutation wanted = .error e) :
    ∃ r, e = .report r ∧ r.Unnamed permutation := by
  rw [evaluate, getKey, find?_builtin] at h
  cases hkind : RelationKind.ofKey? key with
  | none =>
    rw [hkind] at h
    cases h
    exact ⟨_, rfl, rfl, rfl, rfl, .inl rfl⟩
  | some kind =>
    rw [hkind] at h
    obtain ⟨g, rfl⟩ := RelationKind.exists_contradiction_of_error h
    exact ⟨_, rfl, rfl, rfl, rfl, .inr rfl⟩

theorem Registry.inconsistent_of_evaluate_builtin {key : String} {m : GroupMap}
    {permutation wanted : List String} {e : Failure}
    (h : Registry.builtin.evaluate key m permutation wanted = .error e) : e.Inconsistent := by
  obtain ⟨r, rfl, hr⟩ := unnamed_of_evaluate_builtin h
  exact ⟨r, rfl, hr.family⟩

/-- The report is completed with the names of the entity, the capability and the permutation. -/
theorem Report.Unnamed.filled {permutation : List String} {r : Report} (h : r.Unnamed permutation)
    (entity : Option String) (capability : String) :
    r.site.filled entity capability permutation =
      { r.site with
        entity := entity, capability := some capability, permutation := some permutation } := by
  unfold Site.filled
  rw [h.entity, h.capability]
  rcases h.permutation with hp | hp
  · rw [hp]
    rfl
  · rw [hp]
    cases permutation <;> rfl

/-- **A capability that fails is reported under its own name and that of its entity**, with the
permutation in which it fails. -/
theorem Resolver.Fails.site {resolver : Resolver} (hr : resolver.registry = Registry.builtin)
    {c : Capability} {p : Permutation} {e : Failure} (h : resolver.Fails c p e) :
    ∃ r, e = .report r ∧ r.site.entity = resolver.entity ∧ r.site.capability = some c.name ∧
      r.site.permutation = some p.states := by
  cases h with
  | conflict => exact ⟨_, rfl, rfl, rfl, rfl⟩
  | unknown => exact ⟨_, rfl, rfl, rfl, rfl⟩
  | ambiguous => exact ⟨_, rfl, rfl, rfl, rfl⟩
  | condition _ hholds =>
    obtain ⟨d, hd, rfl⟩ := resolver.holds_eq_error_iff.mp hholds
    rw [hr] at hd
    obtain ⟨own, rfl, hown⟩ := Registry.unnamed_of_evaluate_builtin hd
    rw [Failure.mapSite, if_pos hown.family, hown.filled]
    exact ⟨_, rfl, rfl, rfl, rfl⟩

end Typestate
