import Typestate.Proofs.Builtin
import Typestate.Proofs.Numbering

/-! # Availability

All conditions of a capability are tested, also those behind one that holds. So availability depends
on the set of its conditions alone, apart from which failure is reported: that is the first one.

* `Resolver.verdict`: what the relation of a condition says, before a report is completed.
* `Resolver.isAvailable_eq_error_iff`: availability fails with the first condition that does.
* `Resolver.isAvailable_congr`: neither the order nor the repetition of conditions matters.
* `Registry.evaluate_builtin_elsewhere`: a built-in relation that fails in one permutation fails in
  every other one, and with the same code.
* `availability_tests_all`: all of this together. -/

namespace Typestate

/-! ### Testing conditions -/

namespace Resolver

variable (r : Resolver)

/-- What the relation of a condition says in a permutation. -/
def verdict (condition : Condition) (p : Permutation) : Except Failure Bool :=
  r.registry.evaluate condition.relation.key r.groups p.states condition.states.toList

variable {r} {c : Capability} {p : Permutation}

theorem holds_eq_verdict (condition : Condition) :
    r.holds condition c p = (r.verdict condition p).mapError
      (Failure.mapSite fun s => s.filled r.entity c.name p.states) := rfl

theorem exists_holds_iff_verdict {condition : Condition} :
    (∃ b, r.holds condition c p = .ok b) ↔ ∃ b, r.verdict condition p = .ok b := by
  simp only [holds_eq_verdict, Outcome.mapError_eq_ok]

theorem isAvailable_of_conditional (hall : c.availableForAll = false) :
    r.isAvailable c p = (c.availability.mapM fun condition => r.holds condition c p) >>=
      fun verdicts => .ok (verdicts.any id) := by
  rw [isAvailable, hall, verdicts_eq_mapM]
  rfl

/-- **Availability fails with the first condition that has no verdict**, whether or not another one
holds. -/
theorem isAvailable_eq_error_iff (hall : c.availableForAll = false) {e : Failure} :
    r.isAvailable c p = .error e ↔ ∃ before condition after d,
      c.availability = before ++ condition :: after ∧
        (∀ x ∈ before, ∃ b, r.verdict x p = .ok b) ∧ r.verdict condition p = .error d ∧
        e = d.mapSite fun s => s.filled r.entity c.name p.states := by
  rw [isAvailable_of_conditional hall, Outcome.bind_eq_error]
  simp only [reduceCtorEq, and_false, exists_false, or_false, Outcome.mapM_eq_error,
    exists_holds_iff_verdict]
  constructor
  · rintro ⟨before, condition, after, hsplit, hbefore, he⟩
    obtain ⟨d, hd, rfl⟩ := Outcome.mapError_eq_error.mp he
    exact ⟨before, condition, after, d, hsplit, hbefore, hd, rfl⟩
  · rintro ⟨before, condition, after, d, hsplit, hbefore, hd, rfl⟩
    exact ⟨before, condition, after, hsplit, hbefore, Outcome.mapError_eq_error.mpr ⟨d, hd, rfl⟩⟩

/-- **If all conditions have a verdict, then one that is true is enough.** -/
theorem isAvailable_eq_ok_iff_verdict (hall : c.availableForAll = false) {b : Bool} :
    r.isAvailable c p = .ok b ↔ (∀ condition ∈ c.availability, ∃ v, r.verdict condition p = .ok v) ∧
      (b = true ↔ ∃ condition ∈ c.availability, r.verdict condition p = .ok true) := by
  rw [isAvailable_eq_ok_iff, hall]
  simp only [Bool.false_eq_true, false_implies, true_and]
  refine and_congr_right fun _ => ?_
  rw [Bool.eq_iff_iff, Rules.available, hall, Bool.false_or, List.any_eq_true]
  simp only [Rules.holds_eq_true_iff]
  rfl

/-- **Availability fails exactly if a condition has no verdict.** -/
theorem exists_isAvailable_error_iff (hall : c.availableForAll = false) :
    (∃ e, r.isAvailable c p = .error e) ↔
      ∃ condition ∈ c.availability, ∃ d, r.verdict condition p = .error d := by
  have htested : (∃ e, r.isAvailable c p = .error e) ↔
      ∃ e, (c.availability.mapM fun condition => r.holds condition c p) = .error e := by
    rw [isAvailable_of_conditional hall]
    simp [Outcome.bind_eq_error]
  rw [htested, Outcome.exists_mapM_error_iff]
  simp only [Outcome.exists_error_iff, exists_holds_iff_verdict]

/-- **Neither the order nor the repetition of conditions matters.** -/
theorem isAvailable_congr {conditions : List Condition}
    (hset : ∀ condition, condition ∈ conditions ↔ condition ∈ c.availability) {b : Bool} :
    r.isAvailable { c with availability := conditions } p = .ok b ↔ r.isAvailable c p = .ok b := by
  have hnone : conditions = [] ↔ c.availability = [] := by
    simp only [List.eq_nil_iff_forall_not_mem, hset]
  have havailable : Rules.available r.groups r.registry { c with availability := conditions } p =
      Rules.available r.groups r.registry c p := by
    rw [Rules.available, Rules.available, Bool.eq_iff_iff]
    simp only [Bool.or_eq_true, List.any_eq_true, hset]
  rw [isAvailable_eq_ok_iff, isAvailable_eq_ok_iff, havailable, hnone]
  simp only [hset]

end Resolver

/-! ### The built-in relations -/

/-- **A built-in relation that fails in one permutation fails in every other one**, and with a
report of the same code. -/
theorem Registry.evaluate_builtin_elsewhere {key : String} {m : GroupMap}
    {permutation wanted : List String} {e : Failure}
    (h : Registry.builtin.evaluate key m permutation wanted = .error e) :
    ∃ code, e.code? = some code ∧ ∀ other, ∃ e',
      Registry.builtin.evaluate key m other wanted = .error e' ∧ e'.code? = some code := by
  rw [evaluate, getKey, find?_builtin] at h
  simp only [evaluate, getKey, find?_builtin]
  cases hkind : RelationKind.ofKey? key with
  | none =>
    rw [hkind] at h
    cases h
    exact ⟨_, rfl, fun other => ⟨_, rfl, rfl⟩⟩
  | some kind =>
    rw [hkind] at h
    cases kind with
    | and =>
      -- the groups and the wanted states decide, and the permutation does not
      cases hcheck : Relation.contradiction? m wanted with
      | none =>
        have hok : (RelationKind.and.relation.holds m permutation wanted) =
            .ok (wanted.all (· ∈ permutation)) := by
          simp only [RelationKind.relation, Relation.conjunction, hcheck]
        cases hok.symm.trans h
      | some g =>
        have hfails : ∀ other, RelationKind.and.relation.holds m other wanted =
            .error (.report (Relation.contradictionReport other wanted g)) := fun other => by
          simp only [RelationKind.relation, Relation.conjunction, hcheck]
        cases (hfails permutation).symm.trans h
        exact ⟨_, rfl, fun other => ⟨_, hfails other, rfl⟩⟩
    | or => cases h
    | xor => cases h

namespace Resolver

variable {r : Resolver} {c : Capability} {p : Permutation}

theorem verdict_builtin_elsewhere (hr : r.registry = Registry.builtin) {condition : Condition}
    {e : Failure} (h : r.verdict condition p = .error e) :
    ∃ code, e.code? = some code ∧ ∀ q, ∃ e', r.verdict condition q = .error e' ∧
      e'.code? = some code := by
  simp only [verdict, hr] at h ⊢
  obtain ⟨code, hcode, helsewhere⟩ := Registry.evaluate_builtin_elsewhere h
  exact ⟨code, hcode, fun q => helsewhere q.states⟩

theorem exists_verdict_builtin (hr : r.registry = Registry.builtin) {condition : Condition}
    (h : ∃ b, r.verdict condition p = .ok b) (q : Permutation) :
    ∃ b, r.verdict condition q = .ok b := by
  obtain ⟨b, hb⟩ := h
  cases hq : r.verdict condition q with
  | ok b' => exact ⟨b', rfl⟩
  | error e =>
    obtain ⟨_, -, helsewhere⟩ := verdict_builtin_elsewhere hr hq
    obtain ⟨e', he', -⟩ := helsewhere p
    cases hb.symm.trans he'

/-- **Under the built-in relations availability fails in every permutation or in none**, and always
with the same code. -/
theorem isAvailable_builtin_elsewhere (hr : r.registry = Registry.builtin) {e : Failure}
    (h : r.isAvailable c p = .error e) :
    ∃ code, e.code? = some code ∧
      ∀ q, ∃ e', r.isAvailable c q = .error e' ∧ e'.code? = some code := by
  cases hall : c.availableForAll with
  | true =>
    have hne : c.availability ≠ [] := fun hnil => by
      rw [isAvailable_of_all r hall hnil] at h
      cases h
    rw [isAvailable_of_both r hall hne] at h
    cases h
    exact ⟨.conflictingAvailability, rfl, fun q => ⟨_, isAvailable_of_both r hall hne, rfl⟩⟩
  | false =>
    obtain ⟨before, condition, after, d, hsplit, hbefore, hd, rfl⟩ :=
      (isAvailable_eq_error_iff hall).mp h
    obtain ⟨code, hcode, helsewhere⟩ := verdict_builtin_elsewhere hr hd
    refine ⟨code, by rw [Failure.code?_mapSite, hcode], fun q => ?_⟩
    obtain ⟨d', hd', hcode'⟩ := helsewhere q
    -- the conditions in front have verdicts in `q` too, so the same one is the first to fail
    exact ⟨_, (isAvailable_eq_error_iff hall).mpr ⟨before, condition, after, d', hsplit,
      fun x hx => exists_verdict_builtin hr (hbefore x hx) q, hd', rfl⟩,
      by rw [Failure.code?_mapSite, hcode']⟩

end Resolver

/-- **Availability tests all conditions.** Without the mark for all states it fails exactly if a
condition does, and with the failure of the first one that does, whichever ones hold; otherwise it
is true exactly if a condition holds. So it answers the same for conditions in any order and
repeated in any way. Under the built-in relations it fails in every permutation or in none, always
with the same code. With both marks it fails for that, whatever relations there are. -/
theorem availability_tests_all (r : Resolver) (c : Capability) :
    (c.availableForAll = false → ∀ p,
      ((∃ e, r.isAvailable c p = .error e) ↔
        ∃ condition ∈ c.availability, ∃ d, r.verdict condition p = .error d) ∧
      (∀ before condition after d, c.availability = before ++ condition :: after →
        (∀ x ∈ before, ∃ b, r.verdict x p = .ok b) → r.verdict condition p = .error d →
        r.isAvailable c p = .error (d.mapSite fun s => s.filled r.entity c.name p.states)) ∧
      ((∀ condition ∈ c.availability, ∃ b, r.verdict condition p = .ok b) →
        ∃ b, r.isAvailable c p = .ok b ∧
          (b = true ↔ ∃ condition ∈ c.availability, r.verdict condition p = .ok true)) ∧
      ∀ conditions, (∀ x, x ∈ conditions ↔ x ∈ c.availability) → ∀ b,
        r.isAvailable { c with availability := conditions } p = .ok b ↔ r.isAvailable c p = .ok b) ∧
    (r.registry = Registry.builtin → ∀ p e, r.isAvailable c p = .error e →
      ∃ code, e.code? = some code ∧
        ∀ q, ∃ e', r.isAvailable c q = .error e' ∧ e'.code? = some code) ∧
    (c.availableForAll = true → c.availability ≠ [] → ∃ message, ∀ registry p,
      Resolver.isAvailable { r with registry } c p =
        .error (r.failure .conflictingAvailability message c p [])) := by
  refine ⟨fun hall p => ⟨Resolver.exists_isAvailable_error_iff hall, ?_, fun hdecided => ?_,
      fun conditions hset b => Resolver.isAvailable_congr hset⟩,
    fun hr p e => Resolver.isAvailable_builtin_elsewhere hr,
    fun hall hne => ⟨_, fun registry p => Resolver.isAvailable_of_both _ hall hne⟩⟩
  · intro before condition after d hsplit hbefore hd
    exact (Resolver.isAvailable_eq_error_iff hall).mpr
      ⟨before, condition, after, d, hsplit, hbefore, hd, rfl⟩
  · classical
    exact ⟨decide (∃ condition ∈ c.availability, r.verdict condition p = .ok true),
      (Resolver.isAvailable_eq_ok_iff_verdict hall).mpr ⟨hdecided, decide_eq_true_iff⟩,
      decide_eq_true_iff⟩

/-- A relation that reports wanted states which the permutation lacks. The report names a place of
its own, and leaves the capability empty. -/
def fussy : Relation where
  name := "Fussy"
  holds _ permutation wanted :=
    if wanted.all (· ∈ permutation) then .ok true
    else .error (.report (Report.inconsistent .unknown "Not in the mood"
      { entity := some "Workshop", capability := some "", states := wanted }))

/-- A registry without a conjunction, in which the exclusive disjunction is fussy. -/
def fussyRegistry : Registry := ⟨[("or", Relation.disjunction), ("xor", fussy)]⟩

/-- What resolves the capabilities of a lamp under fussy relations. -/
def fussyResolver : Resolver := ⟨dimmer, fussyRegistry, "State", some "Dimmer"⟩

/-- A capability that is available under the conditions and leads nowhere else. -/
def lifting (availability : List Condition) : Capability where
  name := "lift"
  returns := none
  parameters := []
  typeParameters := []
  availableForAll := false
  availability := availability
  transitions := []

/-- Behind a condition that holds, a fussy one fails, and a third one with an unknown relation does
not matter. Conditions that hold do so in any order. That two levels are wanted at once is reported
in every permutation, and so is a second mark, which fussy relations do not get to see. -/
theorem availability_tests_all_dimmer :
    (∃ report, fussyResolver.isAvailable
        (lifting [Condition.of ["On"] (.builtin .or), Condition.of ["High"] (.builtin .xor),
          Condition.of ["On"] (.builtin .and)]) ⟨["On", "Mid", "Day"]⟩ = .error (.report report) ∧
      report.code = .unknown ∧ report.site.entity = some "Workshop" ∧
      report.site.capability = some "lift" ∧ report.site.states = ["High"]) ∧
    fussyResolver.isAvailable
        (lifting [Condition.of ["Night"] (.builtin .or), Condition.of ["On"] (.builtin .xor),
          Condition.of ["Night"] (.builtin .or)]) ⟨["On", "Mid", "Day"]⟩ = .ok true ∧
    (∀ q, ∃ e, Resolver.isAvailable { fussyResolver with registry := Registry.builtin }
        (lifting [Condition.of ["On"] (.builtin .or),
          Condition.of ["Low", "High"] (.builtin .and)]) q = .error e ∧
          e.code? = some .contradictoryCondition) ∧
    ∀ p, ∃ message, fussyResolver.isAvailable
        { lifting [Condition.of ["High"] (.builtin .xor)] with availableForAll := true } p =
          .error (fussyResolver.failure .conflictingAvailability message (lifting []) p []) := by
  refine ⟨?_, ?_, ?_, fun p => ?_⟩
  · obtain ⟨hconditional, -⟩ := availability_tests_all fussyResolver
      (lifting [Condition.of ["On"] (.builtin .or), Condition.of ["High"] (.builtin .xor),
        Condition.of ["On"] (.builtin .and)])
    obtain ⟨-, hfirst, -⟩ := hconditional rfl ⟨["On", "Mid", "Day"]⟩
    refine ⟨_, hfirst [Condition.of ["On"] (.builtin .or)] (Condition.of ["High"] (.builtin .xor))
      [Condition.of ["On"] (.builtin .and)] _ rfl (fun x hx => ?_) rfl, rfl, rfl, rfl, rfl⟩
    obtain rfl := List.mem_singleton.mp hx
    exact ⟨true, rfl⟩
  · obtain ⟨hconditional, -⟩ := availability_tests_all fussyResolver
      (lifting [Condition.of ["On"] (.builtin .xor), Condition.of ["Night"] (.builtin .or)])
    obtain ⟨-, -, -, hset⟩ := hconditional rfl ⟨["On", "Mid", "Day"]⟩
    exact (hset [Condition.of ["Night"] (.builtin .or), Condition.of ["On"] (.builtin .xor),
      Condition.of ["Night"] (.builtin .or)] (by simp [lifting, or_comm]) true).mpr rfl
  · obtain ⟨-, hbuiltin, -⟩ := availability_tests_all
      { fussyResolver with registry := Registry.builtin }
      (lifting [Condition.of ["On"] (.builtin .or), Condition.of ["Low", "High"] (.builtin .and)])
    obtain ⟨code, hcode, helsewhere⟩ := hbuiltin rfl ⟨["On", "Mid", "Day"]⟩ _ rfl
    cases hcode
    exact helsewhere
  · obtain ⟨-, -, hboth⟩ := availability_tests_all fussyResolver
      { lifting [Condition.of ["High"] (.builtin .xor)] with availableForAll := true }
    obtain ⟨message, hconflict⟩ := hboth rfl (by simp [lifting])
    exact ⟨message, hconflict fussyRegistry p⟩

end Typestate
