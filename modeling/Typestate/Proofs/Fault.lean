import Typestate.Proofs.Rules

/-! # What resolution fails with

A capability that cannot be resolved in a permutation fails for one of four reasons: it is available
always and also under conditions, one of its conditions has no verdict, some of its targets are
unknown, or some compete for one group. Positions are always found, so no look-up fails.

* `Resolver.Fails`: the four reasons; `Resolver.fails_of_resolve`: there is no other.
* `Resolver.heldTargets_eq_error_iff`: the first condition without a verdict ends the look for
  targets.
* `Resolver.resolve_eq_error_iff`: the part of resolution that fails.
* `Failure.code?`: the code of a report; putting names into a report does not change it.
* `Registry.Raises`: some relation of the registry fails with a report of a code. Only such a code
  comes out of a condition, apart from the one for unknown relations (`code?_of_evaluate`). -/

namespace Typestate

/-! ### Codes -/

namespace Failure

/-- The code of a report. -/
def code? : Failure → Option Code
  | .report r => some r.code
  | _ => none

/-- **Names put into a report leave its code alone.** -/
theorem code?_mapSite (f : Site → Site) (e : Failure) : (e.mapSite f).code? = e.code? := by
  unfold mapSite
  split
  · split <;> rfl
  · rfl

end Failure

/-- Some relation of the registry fails with a report of the code. -/
def Registry.Raises (registry : Registry) (code : Code) : Prop :=
  ∃ entry ∈ registry.entries, ∃ m permutation wanted e,
    entry.2.holds m permutation wanted = .error e ∧ e.code? = some code

theorem Registry.getKey_eq_ok {registry : Registry} {key : String} {relation : Relation}
    (h : registry.getKey key = .ok relation) : (key, relation) ∈ registry.entries := by
  unfold getKey at h
  split at h
  · next found hfound =>
    cases h
    obtain ⟨before, after, hentries, -⟩ := List.lookup_eq_some_iff.mp hfound
    rw [hentries]
    simp
  · cases h

theorem Registry.code?_of_evaluate {registry : Registry} {key : String} {m : GroupMap}
    {permutation wanted : List String} {e : Failure} {code : Code}
    (h : registry.evaluate key m permutation wanted = .error e) (hcode : e.code? = some code) :
    code = .invalidRelation ∨ registry.Raises code := by
  rcases Outcome.bind_eq_error.mp h with hget | ⟨relation, hget, hholds⟩
  · unfold getKey at hget
    split at hget
    · cases hget
    · cases hget
      exact .inl (Option.some.inj hcode).symm
  · exact .inr ⟨_, getKey_eq_ok hget, m, permutation, wanted, e, hholds, hcode⟩

namespace Resolver

variable (r : Resolver)

/-! ### Reasons -/

/-- Why a capability fails in a permutation. -/
inductive Fails (c : Capability) (p : Permutation) : Failure → Prop where
  | conflict : c.availableForAll = true → c.availability ≠ [] → Fails c p (r.conflict c p)
  | condition {condition : Condition} {e : Failure} :
      condition ∈ c.availability ++ c.transitions.map (·.condition) →
      r.holds condition c p = .error e → Fails c p e
  | unknown (states : List String) : Fails c p (r.unknownTargets c p states)
  | ambiguous (entries : List (String × List String)) : Fails c p (r.ambiguousTargets c p entries)

theorem fails_of_isAvailable {c : Capability} {p : Permutation} {e : Failure}
    (h : r.isAvailable c p = .error e) : r.Fails c p e := by
  unfold isAvailable at h
  split at h
  · next hall =>
    split at h
    · cases h
    · next hne =>
      cases h
      exact .conflict hall (by simpa using hne)
  · rcases Outcome.bind_eq_error.mp h with h | ⟨_, -, h⟩
    · rw [verdicts_eq_mapM] at h
      obtain ⟨before, condition, after, hsplit, -, he⟩ := Outcome.mapM_eq_error.mp h
      exact .condition (by simp [hsplit]) he
    · cases h

/-- **The first condition without a verdict ends everything**: the rules behind it do not matter. -/
theorem heldTargets_eq_error {c : Capability} {p : Permutation} {before after : List TransitionRule}
    {rule : TransitionRule} {e : Failure}
    (hbefore : ∀ x ∈ before, ∃ verdict, r.holds x.condition c p = .ok verdict)
    (he : r.holds rule.condition c p = .error e) :
    r.heldTargets c p (before ++ rule :: after) = .error e := by
  induction before with
  | nil =>
    rw [List.nil_append, heldTargets, he]
    rfl
  | cons x before ih =>
    obtain ⟨verdict, hx⟩ := hbefore x (by simp)
    have hrest := ih fun y hy => hbefore y (List.mem_cons_of_mem x hy)
    rw [List.cons_append, heldTargets, hx]
    exact Outcome.bind_eq_error.mpr (.inr ⟨verdict, rfl, Outcome.bind_eq_error.mpr (.inl hrest)⟩)

/-- **The rules have no targets exactly if the condition of one has no verdict**; the first such one
is what is reported. -/
theorem heldTargets_eq_error_iff {c : Capability} {p : Permutation} {rules : List TransitionRule}
    {e : Failure} :
    r.heldTargets c p rules = .error e ↔ ∃ before rule after, rules = before ++ rule :: after ∧
      (∀ x ∈ before, ∃ verdict, r.holds x.condition c p = .ok verdict) ∧
      r.holds rule.condition c p = .error e := by
  constructor
  · intro h
    induction rules with
    | nil => cases h
    | cons rule rest ih =>
      rw [heldTargets] at h
      rcases Outcome.bind_eq_error.mp h with h | ⟨verdict, hverdict, h⟩
      · exact ⟨[], rule, rest, rfl, by simp, h⟩
      · rcases Outcome.bind_eq_error.mp h with h | ⟨_, -, h⟩
        · obtain ⟨before, other, after, rfl, hbefore, he⟩ := ih h
          exact ⟨rule :: before, other, after, rfl,
            List.forall_mem_cons.mpr ⟨⟨verdict, hverdict⟩, hbefore⟩, he⟩
        · cases h
  · rintro ⟨before, rule, after, rfl, hbefore, he⟩
    exact r.heldTargets_eq_error hbefore he

theorem fails_of_successor {c : Capability} {p : Permutation}
    (hp : p.states.length = r.groups.groups.length) {e : Failure}
    (h : r.successor c p = .error e) : r.Fails c p e := by
  rcases Outcome.bind_eq_error.mp h with h | ⟨held, -, h⟩
  · obtain ⟨before, rule, after, hsplit, -, he⟩ := r.heldTargets_eq_error_iff.mp h
    have hrule : rule ∈ c.transitions := by simp [hsplit]
    exact .condition (List.mem_append_right _ (List.mem_map_of_mem hrule)) he
  · rcases Outcome.bind_eq_error.mp h with h | ⟨_, -, h⟩
    · rcases moveToTargets_eq_error r hp (Names.nodup_distinct held) h with
        ⟨states, rfl⟩ | ⟨entries, rfl⟩
      · exact .unknown states
      · exact .ambiguous entries
    · cases h

theorem result_eq_error_iff {c : Capability} {p : Permutation} {e : Failure} :
    r.result c p = .error e ↔ c.returns = none ∧ r.successor c p = .error e := by
  unfold Resolver.result
  cases c.returns with
  | some type => simp
  | none => simp [Outcome.bind_eq_error]

/-- **Resolution fails where availability does, or where a successor is asked for and there is
none.** -/
theorem resolve_eq_error_iff {c : Capability} {p : Permutation} {e : Failure} :
    r.resolve c p = .error e ↔ r.isAvailable c p = .error e ∨
      r.isAvailable c p = .ok true ∧ c.returns = none ∧ r.successor c p = .error e := by
  rw [resolve, Outcome.bind_eq_error]
  refine or_congr_right ⟨?_, ?_⟩
  · rintro ⟨b, hb, h⟩
    split at h
    · next hopen =>
      rcases Outcome.bind_eq_error.mp h with h | ⟨_, -, h⟩
      · exact ⟨hopen ▸ hb, (result_eq_error_iff r).mp h⟩
      · cases h
    · cases h
  · rintro ⟨hopen, h⟩
    exact ⟨true, hopen, Outcome.bind_eq_error.mpr (.inl ((result_eq_error_iff r).mpr h))⟩

/-- **There is no other reason.** -/
theorem fails_of_resolve {c : Capability} {p : Permutation}
    (hp : p.states.length = r.groups.groups.length) {e : Failure}
    (h : r.resolve c p = .error e) : r.Fails c p e := by
  rcases (resolve_eq_error_iff r).mp h with h | ⟨-, -, h⟩
  · exact fails_of_isAvailable r h
  · exact fails_of_successor r hp h

theorem fails_of_enumerated {before after : List Permutation} {c : Capability} {p : Permutation}
    (hp : Permutation.enumerate r.groups.stateLists = before ++ p :: after) {e : Failure}
    (h : r.resolve c p = .error e) : r.Fails c p e := by
  have hmem : p ∈ Permutation.enumerate r.groups.stateLists := by simp [hp]
  exact fails_of_resolve r (GroupMap.mem_enumerate.mp hmem).2.size h

/-! ### What a reason says -/

theorem holds_eq_error_iff {condition : Condition} {c : Capability} {p : Permutation}
    {e : Failure} :
    r.holds condition c p = .error e ↔ ∃ d,
      r.registry.evaluate condition.relation.key r.groups p.states condition.states.toList =
        .error d ∧ d.mapSite (fun s => s.filled r.entity c.name p.states) = e := by
  rw [Resolver.holds, Outcome.mapError_eq_error]

theorem code?_failure (code : Code) (message : String) (c : Capability) (p : Permutation)
    (states : List String) : (r.failure code message c p states).code? = some code := rfl

/-- **The codes of the four reasons.** -/
theorem Fails.code {c : Capability} {p : Permutation} {e : Failure} (h : r.Fails c p e)
    {code : Code} (hcode : e.code? = some code) :
    code ∈ [.conflictingAvailability, .invalidRelation, .unknownTarget, .ambiguousTransition] ∨
      r.registry.Raises code := by
  cases h with
  | conflict =>
    rw [Resolver.conflict, code?_failure] at hcode
    exact .inl (by simp [← Option.some.inj hcode])
  | condition _ hholds =>
    obtain ⟨d, hd, rfl⟩ := (holds_eq_error_iff r).mp hholds
    rw [Failure.code?_mapSite] at hcode
    rcases Registry.code?_of_evaluate hd hcode with rfl | hraises
    · exact .inl (by simp)
    · exact .inr hraises
  | unknown =>
    rw [unknownTargets, code?_failure] at hcode
    exact .inl (by simp [← Option.some.inj hcode])
  | ambiguous =>
    rw [ambiguousTargets, code?_failure] at hcode
    exact .inl (by simp [← Option.some.inj hcode])

end Resolver
end Typestate
