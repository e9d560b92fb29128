import Typestate.Proofs.Builtin
import Typestate.Proofs.Numbering

/-! # Where a capability leads

The targets of the rules that hold are looked at as a whole. What is wrong with them is reported in
a fixed order: a condition without a verdict first, then targets that no group declares, then
different targets in one group. If nothing is wrong, every target is put at the position of its
group.

* `GroupMap.together`: some group declares both states.
* `GroupMap.Contested`: the targets of groups with more than one, group by group, in the order in
  which the groups receive their first target.
* `Resolver.contested_byGroup`: what the resolver sorts out by the names of groups is that.
* `successor_outcome`: what comes out, in each of the four cases. -/

namespace Typestate

/-! ### Order of first occurrence -/

namespace Names

theorem distinct_filter (q : String → Bool) (names : List String) :
    distinct (names.filter q) = (distinct names).filter q := by
  induction names with
  | nil => rfl
  | cons s rest ih =>
    by_cases hq : q s = true
    · rw [List.filter_cons_of_pos hq, distinct, distinct, List.filter_cons_of_pos hq, ih,
        List.filter_filter, List.filter_filter]
      exact congrArg _ (List.filter_congr fun t _ => Bool.and_comm ..)
    · rw [List.filter_cons_of_neg hq, distinct, List.filter_cons_of_neg hq, ih, List.filter_filter]
      refine List.filter_congr fun t _ => ?_
      have hne : q t = true → t ≠ s := fun ht hts => hq (hts ▸ ht)
      cases ht : q t with
      | false => rfl
      | true => simp [hne ht]

/-- **Labels stand in the order of the first items that have them.** -/
theorem pairwise_distinct_filterMap {α : Type} (label : α → Option String) (items : List α) :
    (distinct (items.filterMap label)).Pairwise fun a b =>
      items.findIdx (fun x => label x = some a) < items.findIdx (fun x => label x = some b) := by
  induction items with
  | nil => exact .nil
  | cons x rest ih =>
    cases hx : label x with
    | none => simpa [List.filterMap_cons, hx, List.findIdx_cons] using ih
    | some a =>
      rw [List.filterMap_cons, hx]
      refine List.pairwise_cons.mpr ⟨fun b hb => ?_, ?_⟩
      · have hne : b ≠ a := by simpa using (List.mem_filter.mp hb).2
        simp [List.findIdx_cons, hx, hne.symm]
      · refine (ih.filter _).imp_of_mem fun {b c} hb hc h => ?_
        have hb' : b ≠ a := by simpa using (List.mem_filter.mp hb).2
        have hc' : c ≠ a := by simpa using (List.mem_filter.mp hc).2
        simpa [List.findIdx_cons, hx, hb'.symm, hc'.symm] using h

/-- **There is one list of given items in a given order.** -/
theorem eq_of_ordered {α : Type} {before : α → α → Prop} (hasymm : ∀ a b, before a b → ¬ before b a)
    {xs ys : List α} (hx : xs.Pairwise before) (hy : ys.Pairwise before)
    (hmem : ∀ a, a ∈ xs ↔ a ∈ ys) : xs = ys := by
  have hnodup : ∀ {l : List α}, l.Pairwise before → l.Nodup := fun hl =>
    hl.imp fun {a b} hab heq => by
      subst heq
      exact hasymm a a hab hab
  have hperm : xs.Perm ys := (List.perm_ext_iff_of_nodup (hnodup hx) (hnodup hy)).mpr hmem
  exact hperm.eq_of_pairwise (fun a b _ _ hab hba => absurd hba (hasymm a b hab)) hx hy

/-- Names without repetition stand in the order of their positions. -/
theorem pairwise_idxOf {names : List String} (h : names.Nodup) :
    names.Pairwise fun s t => names.idxOf s < names.idxOf t := by
  rw [List.pairwise_iff_getElem]
  intro i j hi hj hij
  rwa [h.idxOf_getElem, h.idxOf_getElem]

/-- A list without repetition has another member besides a given one exactly if it is not short. -/
theorem one_lt_length_iff {names : List String} (h : names.Nodup) {s : String} (hs : s ∈ names) :
    1 < names.length ↔ ∃ t ∈ names, t ≠ s := by
  constructor
  · intro hlen
    by_contra hall
    push Not at hall
    have hle := (length_le_one_iff h).mpr fun t ht u hu => (hall t ht).trans (hall u hu).symm
    omega
  · rintro ⟨t, ht, hne⟩
    by_contra hlen
    exact hne ((length_le_one_iff h).mp (Nat.not_lt.mp hlen) t ht s hs)

end Names

/-! ### Contested groups -/

namespace GroupMap

variable (m : GroupMap)

/-- Some group declares both states. -/
def together (s t : String) : Bool := m.groups.any fun g => s ∈ g.states ∧ t ∈ g.states

/-- The position of the first target in the group of a state. -/
def firstTarget (targets : List String) (s : String) : Nat := targets.findIdx (m.together s)

/-- **The states are the contested ones of the targets**: those of the groups that receive another
one as well. The groups come in the order of their first targets, and the targets of one group in
their own order. -/
structure Contested (targets states : List String) : Prop where
  mem_iff : ∀ s, s ∈ states ↔ s ∈ targets ∧ ∃ t ∈ targets, t ≠ s ∧ m.together s t = true
  ordered : states.Pairwise fun s t =>
    m.firstTarget targets s < m.firstTarget targets t ∨
      m.firstTarget targets s = m.firstTarget targets t ∧ targets.idxOf s < targets.idxOf t

variable {m}

/-- **There is one list of contested states.** -/
theorem Contested.unique {targets states states' : List String} (h : m.Contested targets states)
    (h' : m.Contested targets states') : states = states' :=
  Names.eq_of_ordered (fun s t hst hts => by omega) h.ordered h'.ordered fun s => by
    rw [h.mem_iff, h'.mem_iff]

theorem together_iff_groupOf? (hu : m.allStates.Nodup) {s t : String} :
    m.together s t = true ↔ ∃ name, m.groupOf? s = some name ∧ m.groupOf? t = some name := by
  simp only [together, List.any_eq_true, decide_eq_true_eq]
  constructor
  · rintro ⟨g, hg, hs, ht⟩
    obtain ⟨i, hi, rfl⟩ := List.getElem_of_mem hg
    have hplace : ∀ u ∈ m.groups[i].states, m.groupOf? u = some m.groups[i].name := fun u hu' =>
      groupOf?_eq_some_iff.mpr ⟨i, hi, (place?_eq_some_iff hu).mpr ⟨hi, hu'⟩, rfl⟩
    exact ⟨_, hplace s hs, hplace t ht⟩
  · rintro ⟨name, hs, ht⟩
    obtain ⟨i, hi, hsi, -⟩ := groupOf?_eq_some_iff.mp hs
    have hti : m.place? t = some i := place?_eq_of_groupOf?_eq ht hs ▸ hsi
    exact ⟨_, List.getElem_mem hi, (mem_of_place? hsi).2, (mem_of_place? hti).2⟩

theorem together_of_groupOf? (hu : m.allStates.Nodup) {s name : String}
    (hs : m.groupOf? s = some name) : m.together s = fun t => m.groupOf? t = some name := by
  funext t
  rw [Bool.eq_iff_iff, together_iff_groupOf? hu, decide_eq_true_eq]
  constructor
  · rintro ⟨other, hs', ht⟩
    exact ht.trans (hs'.symm.trans hs)
  · exact fun ht => ⟨name, hs, ht⟩

/-- **Targets agree if no group declares two different ones.** -/
theorem agree_iff_together (hu : m.allStates.Nodup) {states : List String} :
    m.Agree states ↔ ∀ s ∈ states, ∀ t ∈ states, m.together s t = true → s = t := by
  rw [agree_iff hu]
  simp only [together, List.any_eq_true, decide_eq_true_eq]
  constructor
  · rintro h s hs t ht ⟨g, hg, hsg, htg⟩
    exact h g hg s hs t ht hsg htg
  · exact fun h g hg s hs t ht hsg htg => h s hs t ht ⟨g, hg, hsg, htg⟩

end GroupMap

namespace Resolver

variable (r : Resolver)

/-- The entries for groups stand in the order of their first targets. -/
theorem pairwise_byGroup (targets : List String) :
    (r.byGroup targets).Pairwise fun e f =>
      targets.findIdx (fun t => r.groups.groupOf? t = some e.1) <
        targets.findIdx (fun t => r.groups.groupOf? t = some f.1) := by
  have hlabels : (targets.filterMap fun t => (r.groups.groupOf? t).map (·, t)).map (·.1) =
      targets.filterMap r.groups.groupOf? := by
    rw [List.map_filterMap]
    refine List.filterMap_congr fun t _ => ?_
    cases r.groups.groupOf? t <;> rfl
  rw [byGroup, Names.collect, hlabels, List.pairwise_map]
  exact Names.pairwise_distinct_filterMap r.groups.groupOf? targets

/-- An entry has the targets that its group declares. -/
theorem mem_entry_iff {targets : List String} {e : String × List String}
    (he : e ∈ r.byGroup targets) {s : String} :
    s ∈ e.2 ↔ s ∈ targets ∧ r.groups.groupOf? s = some e.1 := by
  rw [((mem_byGroup r).mp he).2]
  simp

/-- **The entries with several targets have the targets that are not alone in their group.** -/
theorem mem_contested_iff (hu : r.groups.allStates.Nodup) {targets : List String}
    (hn : targets.Nodup) {s : String} :
    s ∈ ((r.byGroup targets).filter fun e => 1 < e.2.length).flatMap (·.2) ↔
      s ∈ targets ∧ ∃ t ∈ targets, t ≠ s ∧ r.groups.together s t = true := by
  simp only [List.mem_flatMap, List.mem_filter, decide_eq_true_eq]
  constructor
  · rintro ⟨e, ⟨he, hlen⟩, hs⟩
    have hnodup : e.2.Nodup := by
      rw [((mem_byGroup r).mp he).2]
      exact hn.filter _
    obtain ⟨t, ht, hne⟩ := (Names.one_lt_length_iff hnodup hs).mp hlen
    obtain ⟨hst, hsg⟩ := (r.mem_entry_iff he).mp hs
    obtain ⟨htt, htg⟩ := (r.mem_entry_iff he).mp ht
    exact ⟨hst, t, htt, hne, (GroupMap.together_iff_groupOf? hu).mpr ⟨_, hsg, htg⟩⟩
  · rintro ⟨hs, t, ht, hne, htogether⟩
    obtain ⟨name, hsg, htg⟩ := (GroupMap.together_iff_groupOf? hu).mp htogether
    have he := entry_mem_byGroup r hs hsg
    have hse := (r.mem_entry_iff he).mpr ⟨hs, hsg⟩
    have hte := (r.mem_entry_iff he).mpr ⟨ht, htg⟩
    exact ⟨_, ⟨he, (Names.one_lt_length_iff (hn.filter _) hse).mpr ⟨t, hte, hne⟩⟩, hse⟩

/-- The first target in the group of a member of an entry is the entry's first target. -/
theorem firstTarget_of_mem_entry (hu : r.groups.allStates.Nodup) {targets : List String}
    {e : String × List String} (he : e ∈ r.byGroup targets) {s : String} (hs : s ∈ e.2) :
    r.groups.firstTarget targets s =
      targets.findIdx fun t => r.groups.groupOf? t = some e.1 := by
  rw [GroupMap.firstTarget, GroupMap.together_of_groupOf? hu ((r.mem_entry_iff he).mp hs).2]

/-- **The targets that are sorted out by the names of groups are the contested ones.** -/
theorem contested_byGroup (hu : r.groups.allStates.Nodup) {targets : List String}
    (hn : targets.Nodup) :
    r.groups.Contested targets
      (((r.byGroup targets).filter fun e => 1 < e.2.length).flatMap (·.2)) := by
  refine ⟨fun s => r.mem_contested_iff hu hn, List.pairwise_flatMap.mpr ⟨fun e he => ?_, ?_⟩⟩
  · -- within one group the targets keep their order
    have he := (List.mem_filter.mp he).1
    have hsublist : e.2.Sublist targets := by
      rw [((mem_byGroup r).mp he).2]
      exact List.filter_sublist
    refine ((Names.pairwise_idxOf hn).sublist hsublist).imp_of_mem fun {s t} hs ht h => .inr ⟨?_, h⟩
    rw [r.firstTarget_of_mem_entry hu he hs, r.firstTarget_of_mem_entry hu he ht]
  · refine ((r.pairwise_byGroup targets).filter _).imp_of_mem fun {e f} he hf h s hs t ht => .inl ?_
    rwa [r.firstTarget_of_mem_entry hu (List.mem_filter.mp he).1 hs,
      r.firstTarget_of_mem_entry hu (List.mem_filter.mp hf).1 ht]

/-! ### The four cases -/

theorem exists_holds_iff {condition : Condition} {c : Capability} {p : Permutation} :
    (∃ verdict, r.holds condition c p = .ok verdict) ↔
      Rules.Decided r.groups r.registry condition p := by
  simp only [holds_eq_ok_iff, exists_and_left, exists_eq, and_true]

theorem moveToTargets_of_unknown {c : Capability} {p : Permutation} {targets : List String}
    (h : ∃ t ∈ targets, t ∉ r.groups.allStates) :
    r.moveToTargets c p targets =
      .error (r.unknownTargets c p (targets.filter (· ∉ r.groups.allStates))) := by
  have hunknown : (targets.filter fun t => !r.groups.declares t) =
      targets.filter (· ∉ r.groups.allStates) :=
    List.filter_congr fun t _ => by
      rw [Bool.eq_iff_iff, Bool.not_eq_true', ← Bool.not_eq_true, r.groups.declares_iff,
        decide_eq_true_eq]
  have hne : targets.filter (· ∉ r.groups.allStates) ≠ [] := by
    simpa [List.filter_eq_nil_iff] using h
  rw [moveToTargets, hunknown, if_pos (by simpa using hne)]

theorem moveToTargets_of_ambiguous {c : Capability} {p : Permutation} {targets : List String}
    (hd : ∀ t ∈ targets, r.groups.declares t = true) (hn : targets.Nodup)
    (ha : ¬ r.groups.Agree targets) :
    r.moveToTargets c p targets =
      .error (r.ambiguousTargets c p ((r.byGroup targets).filter fun e => 1 < e.2.length)) := by
  have hne := mt (ambiguous_isEmpty_iff r hn).mp ha
  rw [moveToTargets, (unknown_isEmpty_iff r).mpr hd, if_neg (by simp), if_pos (by simpa using hne)]

section Decided

variable {c : Capability} {p : Permutation}
  (hd : ∀ rule ∈ c.transitions, Rules.Decided r.groups r.registry rule.condition p)
include hd

/-- With verdicts for all conditions it depends on the targets alone. -/
theorem successor_of_decided :
    r.successor c p =
      (r.moveToTargets c p (Names.distinct (Rules.targets r.groups r.registry c p))).map
      fun reached => (reached, Names.distinct (Rules.targets r.groups r.registry c p)) := by
  rw [successor, (heldTargets_eq_ok_iff r).mpr ⟨hd, rfl⟩]
  change (r.moveToTargets c p (Names.distinct (Rules.targets r.groups r.registry c p)) >>= _) = _
  cases r.moveToTargets c p (Names.distinct (Rules.targets r.groups r.registry c p)) <;> rfl

/-- **Targets that no group declares are reported before all else.** -/
theorem successor_of_unknown
    (h : ∃ t ∈ Rules.targets r.groups r.registry c p, t ∉ r.groups.allStates) :
    r.successor c p = .error (r.unknownTargets c p
      (Names.distinct
        ((Rules.targets r.groups r.registry c p).filter (· ∉ r.groups.allStates)))) := by
  obtain ⟨t, ht, hundeclared⟩ := h
  rw [r.successor_of_decided hd,
    r.moveToTargets_of_unknown ⟨t, Names.mem_distinct.mpr ht, hundeclared⟩, Names.distinct_filter]
  rfl

/-- **Different targets of one group are reported for all such groups.** -/
theorem successor_of_ambiguous
    (hall : ∀ t ∈ Rules.targets r.groups r.registry c p, t ∈ r.groups.allStates)
    (h : ¬ r.groups.Agree (Rules.targets r.groups r.registry c p)) :
    r.successor c p = .error (r.ambiguousTargets c p
      ((r.byGroup (Names.distinct (Rules.targets r.groups r.registry c p))).filter
        fun e => 1 < e.2.length)) := by
  have hdeclares : ∀ t ∈ Names.distinct (Rules.targets r.groups r.registry c p),
      r.groups.declares t = true := fun t ht =>
    r.groups.declares_iff.mpr (hall t (Names.mem_distinct.mp ht))
  have hcontested : ¬ r.groups.Agree (Names.distinct (Rules.targets r.groups r.registry c p)) :=
    fun ha => h (ha.congr fun _ => Names.mem_distinct)
  rw [r.successor_of_decided hd,
    r.moveToTargets_of_ambiguous hdeclares (Names.nodup_distinct _) hcontested]
  rfl

/-- **With verdicts for all conditions only the targets can be wrong.** -/
theorem successor_eq_error_iff_of_decided (hp : p.states.length = r.groups.groups.length)
    {e : Failure} :
    r.successor c p = .error e ↔
      (∃ t ∈ Rules.targets r.groups r.registry c p, t ∉ r.groups.allStates) ∧
        e = r.unknownTargets c p (Names.distinct
          ((Rules.targets r.groups r.registry c p).filter (· ∉ r.groups.allStates))) ∨
      (∀ t ∈ Rules.targets r.groups r.registry c p, t ∈ r.groups.allStates) ∧
        ¬ r.groups.Agree (Rules.targets r.groups r.registry c p) ∧
        e = r.ambiguousTargets c p
          ((r.byGroup (Names.distinct (Rules.targets r.groups r.registry c p))).filter
            fun e => 1 < e.2.length) := by
  by_cases hall : ∀ t ∈ Rules.targets r.groups r.registry c p, t ∈ r.groups.allStates
  · have hnone : ¬ ∃ t ∈ Rules.targets r.groups r.registry c p, t ∉ r.groups.allStates :=
      fun ⟨t, ht, hundeclared⟩ => hundeclared (hall t ht)
    by_cases ha : r.groups.Agree (Rules.targets r.groups r.registry c p)
    · have hok := (r.successor_eq_ok_iff hp).mpr
        ⟨⟨hd, fun t ht => r.groups.declares_iff.mpr (hall t ht), ha⟩, rfl⟩
      simp [hok, hnone, ha]
    · rw [r.successor_of_ambiguous hd hall ha]
      constructor
      · exact fun h => .inr ⟨hall, ha, (Except.error.inj h).symm⟩
      · rintro (⟨h, -⟩ | ⟨-, -, rfl⟩)
        · exact absurd h hnone
        · rfl
  · have hundeclared : ∃ t ∈ Rules.targets r.groups r.registry c p, t ∉ r.groups.allStates := by
      simpa using hall
    rw [r.successor_of_unknown hd hundeclared]
    constructor
    · exact fun h => .inl ⟨hundeclared, (Except.error.inj h).symm⟩
    · rintro (⟨-, rfl⟩ | ⟨h, -⟩)
      · rfl
      · exact absurd h hall

end Decided

end Resolver

/-- **Where a capability leads.** The first condition of a rule that has no verdict is what comes
out, whatever the targets. If all have one, then targets that no group declares are reported, each
once in the order of first occurrence. If there are none, then different targets in one group are
reported, for all such groups. Otherwise every group that receives a target moves to it, and all
others stay. -/
theorem successor_outcome {r : Resolver} (hu : r.groups.allStates.Nodup) (c : Capability)
    {p : Permutation} (hp : p.states.length = r.groups.groups.length) :
    let decided := ∀ rule ∈ c.transitions, ∃ verdict, r.holds rule.condition c p = .ok verdict
    let targets := Rules.targets r.groups r.registry c p
    (∀ before rule after e, c.transitions = before ++ rule :: after →
      (∀ x ∈ before, ∃ verdict, r.holds x.condition c p = .ok verdict) →
      r.holds rule.condition c p = .error e → r.successor c p = .error e) ∧
    (decided → (∃ t ∈ targets, t ∉ r.groups.allStates) →
      ∃ message, r.successor c p = .error (r.failure .unknownTarget message c p
        (Names.distinct (targets.filter (· ∉ r.groups.allStates))))) ∧
    (decided → (∀ t ∈ targets, t ∈ r.groups.allStates) →
      (∃ s ∈ targets, ∃ t ∈ targets, r.groups.together s t = true ∧ s ≠ t) →
      ∃ message states, r.groups.Contested (Names.distinct targets) states ∧
        r.successor c p = .error (r.failure .ambiguousTransition message c p states)) ∧
    (decided → (∀ t ∈ targets, t ∈ r.groups.allStates) →
      (∀ s ∈ targets, ∀ t ∈ targets, r.groups.together s t = true → s = t) →
      ∃ q, r.successor c p = .ok (q, Names.distinct targets) ∧
        q.states.length = p.states.length ∧ ∀ i (hi : i < r.groups.groups.length),
          (∀ t ∈ targets, t ∈ r.groups.groups[i].states → q.states[i]? = some t) ∧
          ((∀ t ∈ targets, t ∉ r.groups.groups[i].states) → q.states[i]? = p.states[i]?)) := by
  intro decided targets
  have hdecided : decided → ∀ rule ∈ c.transitions,
      Rules.Decided r.groups r.registry rule.condition p := fun hd rule hrule =>
    r.exists_holds_iff.mp (hd rule hrule)
  refine ⟨fun before rule after e hsplit hbefore he => ?_,
    fun hd hundeclared => ⟨_, r.successor_of_unknown (hdecided hd) hundeclared⟩,
    fun hd hall ⟨s, hs, t, ht, htogether, hne⟩ => ?_, fun hd hall hagree => ?_⟩
  · rw [Resolver.successor, hsplit, r.heldTargets_eq_error hbefore he]
    rfl
  · have hcontested : ¬ r.groups.Agree targets := fun ha =>
      hne ((GroupMap.agree_iff_together hu).mp ha s hs t ht htogether)
    exact ⟨_, _, r.contested_byGroup hu (Names.nodup_distinct targets),
      r.successor_of_ambiguous (hdecided hd) hall hcontested⟩
  · have ha : r.groups.Agree targets := (GroupMap.agree_iff_together hu).mpr hagree
    have hmovable : Rules.Movable r.groups r.registry c p :=
      ⟨hdecided hd, fun t ht => r.groups.declares_iff.mpr (hall t ht), ha⟩
    obtain ⟨hsize, hmoved, hkept⟩ := GroupMap.lands_foldl_put ha hp
    refine ⟨_, (r.successor_eq_ok_iff hp).mpr ⟨hmovable, rfl⟩, hsize,
      fun i hi => ⟨fun t ht htg => ?_, fun hnone => ?_⟩⟩
    · exact hmoved t ht i ((GroupMap.place?_eq_some_iff hu).mpr ⟨hi, htg⟩)
    · exact hkept i fun t ht hti => hnone t ht (GroupMap.mem_of_place? hti).2

/-- A capability that leads to all of the targets, under no condition. -/
def leading (targets : List String) : Capability where
  name := "lead"
  returns := none
  parameters := []
  typeParameters := []
  availableForAll := true
  availability := []
  transitions := targets.map TransitionRule.always

/-- A rule that asks for two levels at once. -/
def torn : TransitionRule := ⟨"Off", Condition.of ["Low", "High"] (.builtin .and)⟩

/-- What resolves the capabilities of a lamp with three levels and two modes. -/
def dimmerResolver : Resolver := ⟨dimmer, Registry.builtin, "State", some "Dimmer"⟩

theorem contested_dimmer :
    dimmer.Contested ["Night", "Low", "On", "Day", "High"] ["Night", "Day", "Low", "High"] := by
  have hto : ∀ s ∈ ["Night", "Low", "On", "Day", "High"],
      (∃ t ∈ ["Night", "Low", "On", "Day", "High"], t ≠ s ∧ dimmer.together s t = true) →
      s ∈ ["Night", "Day", "Low", "High"] := by decide
  have hfrom : ∀ s ∈ ["Night", "Day", "Low", "High"], s ∈ ["Night", "Low", "On", "Day", "High"] ∧
      ∃ t ∈ ["Night", "Low", "On", "Day", "High"], t ≠ s ∧ dimmer.together s t = true := by decide
  exact ⟨fun s => ⟨hfrom s, fun ⟨hs, h⟩ => hto s hs h⟩, by decide⟩

/-- A condition without a verdict is reported before the unknown target of the rule in front of it.
Of unknown and ambiguous targets the unknown ones are reported; ambiguous ones are reported for all
groups; and targets without a fault are put at their positions. -/
theorem successor_outcome_dimmer :
    dimmerResolver.groups.allStates.Nodup ∧
      (∃ r, dimmerResolver.successor
          { leading [] with transitions := [TransitionRule.always "Gone", torn] }
          ⟨["On", "Mid", "Day"]⟩ = .error (.report r) ∧ r.code = .contradictoryCondition) ∧
      (∃ message, dimmerResolver.successor (leading ["Low", "Gone", "High", "Gone"])
          ⟨["On", "Mid", "Day"]⟩ = .error (dimmerResolver.failure .unknownTarget message
            (leading ["Low", "Gone", "High", "Gone"]) ⟨["On", "Mid", "Day"]⟩ ["Gone"])) ∧
      (∃ message, dimmerResolver.successor (leading ["Night", "Low", "On", "Day", "High", "Low"])
          ⟨["On", "Mid", "Day"]⟩ = .error (dimmerResolver.failure .ambiguousTransition message
            (leading ["Night", "Low", "On", "Day", "High", "Low"]) ⟨["On", "Mid", "Day"]⟩
            ["Night", "Day", "Low", "High"])) ∧
      ∃ q, dimmerResolver.successor (leading ["Night", "Off", "Night"]) ⟨["On", "Mid", "Day"]⟩ =
          .ok (q, ["Night", "Off"]) ∧
        q.states[0]? = some "Off" ∧ q.states[1]? = some "Mid" ∧ q.states[2]? = some "Night" := by
  have hu : dimmerResolver.groups.allStates.Nodup := by decide
  have hp : (⟨["On", "Mid", "Day"]⟩ : Permutation).states.length =
      dimmerResolver.groups.groups.length := rfl
  have hdecided : ∀ targets, ∀ rule ∈ (leading targets).transitions, ∃ verdict,
      dimmerResolver.holds rule.condition (leading targets) ⟨["On", "Mid", "Day"]⟩ =
        .ok verdict := by
    intro targets rule hrule
    obtain ⟨t, -, rfl⟩ := List.mem_map.mp hrule
    exact ⟨true, rfl⟩
  obtain ⟨hfailing, -⟩ := successor_outcome hu
    { leading [] with transitions := [TransitionRule.always "Gone", torn] } hp
  obtain ⟨-, hunknown, -⟩ := successor_outcome hu (leading ["Low", "Gone", "High", "Gone"]) hp
  obtain ⟨-, -, hambiguous, -⟩ :=
    successor_outcome hu (leading ["Night", "Low", "On", "Day", "High", "Low"]) hp
  obtain ⟨-, -, -, hmoved⟩ := successor_outcome hu (leading ["Night", "Off", "Night"]) hp
  obtain ⟨message, states, hcontested, hambiguous⟩ := hambiguous (hdecided _) (by decide)
    ⟨"Night", by decide, "Day", by decide, by decide, by decide⟩
  obtain rfl := hcontested.unique contested_dimmer
  obtain ⟨q, hq, -, hstates⟩ := hmoved (hdecided _) (by decide) (by decide)
  refine ⟨hu, ⟨_, hfailing [TransitionRule.always "Gone"] torn [] _ rfl (fun x hx => ?_) rfl, rfl⟩,
    hunknown (hdecided _) ⟨"Gone", by decide, by decide⟩, ⟨message, hambiguous⟩, q, hq, ?_, ?_, ?_⟩
  · obtain rfl := List.mem_singleton.mp hx
    exact ⟨true, rfl⟩
  · exact (hstates 0 (by decide)).1 "Off" (by decide) (by decide)
  · exact (hstates 1 (by decide)).2 (by decide)
  · exact (hstates 2 (by decide)).1 "Night" (by decide) (by decide)

end Typestate
