import Typestate.Proofs.Contradiction
import Typestate.Proofs.NameTable

/-! # Where states are declared

A map of groups answers four questions that have to fit together: which states occur more than once,
which group declares a state, which states a group has, and at which position a group stands. If no
state occurs more than once, each question undoes the other, and a permutation has a state exactly
if it has it at the position that is found for the state.

* `Names.Repeats`: a list of the names that occur more than once, in the order of first occurrence.
  There is one such list (`Names.repeats_iff`).
* `GroupMap.groupOf?_eq_some_iff_first`, `GroupMap.groupOf?_eq_some_iff_statesOf`: the group of a
  state.
* `GroupMap.Fits.mem_states_iff_get`: the states of a permutation, by position.
* `lookups_agree`: all of this for the map of any groups with different names. -/

namespace Typestate

/-! ### Repeated names -/

namespace Names

/-- **The list holds the names that occur at least twice**, each of them once, in the order of first
occurrence. -/
structure Repeats (names list : List String) : Prop where
  mem_iff : ∀ s, s ∈ list ↔ 2 ≤ names.count s
  ordered : list.Pairwise fun s t => names.idxOf s < names.idxOf t

variable {names : List String}

theorem pairwise_distinct (names : List String) :
    (distinct names).Pairwise fun s t => names.idxOf s < names.idxOf t := by
  simpa [List.idxOf, beq_eq_decide] using pairwise_distinct_map id names

theorem repeats_repeated (names : List String) : Repeats names (repeated names) where
  mem_iff _ := mem_repeated
  ordered := by
    rw [repeated, distinct_filter]
    exact (pairwise_distinct names).sublist List.filter_sublist

/-- **There is one list of the repeated names.** -/
theorem repeats_iff {list : List String} : Repeats names list ↔ list = repeated names := by
  constructor
  · intro h
    exact eq_of_ordered (fun s t hst hts => by omega) h.ordered (repeats_repeated names).ordered
      fun s => by rw [h.mem_iff, (repeats_repeated names).mem_iff]
  · rintro rfl
    exact repeats_repeated names

end Names

/-! ### Groups and states -/

namespace GroupMap

variable {m : GroupMap} {s name : String}

/-- **The map is refused exactly if a state is repeated,** with the report that lists these
states. -/
theorem validate_eq_error_iff {entity : Option String} {e : Failure} :
    m.validate entity = .error e ↔
      m.duplicateStates ≠ [] ∧ e = .report (duplicateReport entity m.duplicateStates) := by
  unfold validate
  split
  · next h => simp [List.isEmpty_iff.mp h]
  · next h => simp [List.isEmpty_iff.not.mp h, eq_comm]

/-- **The group of a state is the first one that has it.** -/
theorem groupOf?_eq_some_iff_first :
    m.groupOf? s = some name ↔ ∃ before g after, m.groups = before ++ g :: after ∧ g.name = name ∧
      s ∈ g.states ∧ ∀ other ∈ before, s ∉ other.states := by
  rw [groupOf?, Option.map_eq_some_iff]
  simp only [List.find?_eq_some_iff_append, decide_eq_true_eq, Bool.not_eq_true',
    decide_eq_false_iff_not]
  constructor
  · rintro ⟨g, ⟨hs, before, after, hsplit, hbefore⟩, hname⟩
    exact ⟨before, g, after, hsplit, hname, hs, hbefore⟩
  · rintro ⟨before, g, after, hsplit, hname, hs, hbefore⟩
    exact ⟨g, ⟨hs, before, after, hsplit, hbefore⟩, hname⟩

theorem groupOf?_eq_none_iff : m.groupOf? s = none ↔ m.declares s = false := by
  rw [← groupOf?_isSome, Option.isSome_eq_false_iff, Option.isNone_iff_eq_none]

/-- **A group is found by its name.** -/
theorem statesOf_eq_ok_iff {states : List String} :
    m.statesOf name = .ok states ↔ ∃ g ∈ m.groups, g.name = name ∧ g.states = states := by
  unfold statesOf
  constructor
  · intro h
    split at h
    · next g hg =>
      cases h
      exact ⟨g, List.mem_of_find?_eq_some hg, by simpa using List.find?_some hg, rfl⟩
    · cases h
  · rintro ⟨g, hg, rfl, rfl⟩
    cases hfind : m.find? g.name with
    | none => simpa using List.find?_eq_none.mp hfind g hg
    | some other =>
      have hname : other.name = g.name := by simpa using List.find?_some hfind
      have heq : other = g :=
        List.inj_on_of_nodup_map m.distinctNames (List.mem_of_find?_eq_some hfind) hg hname
      rw [heq]

/-- **With unique state names the group of a state is the one that has it.** -/
theorem groupOf?_eq_some_iff_statesOf (hu : m.allStates.Nodup) :
    m.groupOf? s = some name ↔ ∃ states, m.statesOf name = .ok states ∧ s ∈ states := by
  constructor
  · intro h
    obtain ⟨i, hi, hplace, rfl⟩ := groupOf?_eq_some_iff.mp h
    exact ⟨_, statesOf_eq_ok_iff.mpr ⟨_, List.getElem_mem hi, rfl, rfl⟩, (mem_of_place? hplace).2⟩
  · rintro ⟨states, hstates, hs⟩
    obtain ⟨g, hg, rfl, rfl⟩ := statesOf_eq_ok_iff.mp hstates
    obtain ⟨i, hi, rfl⟩ := List.getElem_of_mem hg
    exact groupOf?_eq_some_iff.mpr ⟨i, hi, (place?_eq_some_iff hu).mpr ⟨hi, hs⟩, rfl⟩

/-- The position that is found for a state by way of its group is its place. -/
theorem indexOf_eq_ok_iff (hg : m.groupOf? s = some name) {i : Nat} :
    m.indexOf name = .ok i ↔ m.place? s = some i := by
  rw [indexOf, indexOf?_of_groupOf? hg]
  cases m.place? s <;> simp

/-- **A permutation has a state exactly if it has it at the position that is found for it.** -/
theorem Fits.mem_states_iff_get {p : Permutation} (hu : m.allStates.Nodup) (h : m.Fits p) :
    s ∈ p.states ↔ m.declares s = true ∧ ∃ name i, m.groupOf? s = some name ∧
      m.indexOf name = .ok i ∧ p.get i = .ok s := by
  constructor
  · intro hs
    obtain ⟨i, hi, rfl⟩ := List.getElem_of_mem hs
    obtain ⟨hlt, hmem⟩ := h.mem i _ (List.getElem?_eq_getElem hi)
    have hplace := (place?_eq_some_iff hu).mpr ⟨hlt, hmem⟩
    have hgroup := groupOf?_eq_some_iff.mpr ⟨i, hlt, hplace, rfl⟩
    refine ⟨by rw [← groupOf?_isSome, hgroup, Option.isSome_some], _, i, hgroup,
      (indexOf_eq_ok_iff hgroup).mpr hplace, ?_⟩
    exact Permutation.get_natCast_eq_ok_iff.mpr (List.getElem?_eq_getElem hi)
  · rintro ⟨-, name, i, -, -, hget⟩
    exact List.mem_of_getElem? (Permutation.get_natCast_eq_ok_iff.mp hget)

end GroupMap

/-- **The look-ups of a map undo each other.** A map is made of any groups with different names. The
repeated states that it lists are the states that occur at least twice in all groups together, in
the order of first occurrence, and it is refused with this list exactly if there is any. The group
of a state is the first one that has it, and there is none exactly if the state is not declared. If
the map is not refused, the groups of states and the states of groups are the same relation, and a
permutation has a state exactly if the state is declared and stands at the position of its group. -/
theorem lookups_agree {groups : List StateGroup} (hnames : (groups.map (·.name)).Nodup)
    (entity : Option String) :
    ∃ m, GroupMap.ofGroups groups = .ok m ∧ m.groups = groups ∧
      (∀ list, Names.Repeats (groups.flatMap (·.states)) list ↔ list = m.duplicateStates) ∧
      ((∃ e, m.validate entity = .error e) ↔ m.duplicateStates ≠ []) ∧
      (∀ e, m.validate entity = .error e → ∃ r, e = .report r ∧ r.code = .duplicateState ∧
        r.site.states = m.duplicateStates ∧ r.site.entity = entity) ∧
      (∀ s name, m.groupOf? s = some name ↔ ∃ before g after, groups = before ++ g :: after ∧
        g.name = name ∧ s ∈ g.states ∧ ∀ other ∈ before, s ∉ other.states) ∧
      (∀ s, m.groupOf? s = none ↔ m.declares s = false) ∧
      (m.validate entity = .ok () →
        (∀ s name, m.groupOf? s = some name ↔ ∃ states, m.statesOf name = .ok states ∧ s ∈ states) ∧
        ∀ p ∈ Permutation.enumerate m.stateLists, ∀ s, s ∈ p.states ↔
          m.declares s = true ∧ ∃ name i, m.groupOf? s = some name ∧ m.indexOf name = .ok i ∧
            p.get i = .ok s) := by
  refine ⟨⟨groups, hnames⟩, GroupMap.ofGroups_eq_ok hnames, rfl, fun list => Names.repeats_iff, ?_,
    fun e he => ?_, fun s name => GroupMap.groupOf?_eq_some_iff_first,
    fun s => GroupMap.groupOf?_eq_none_iff, fun hvalid => ?_⟩
  · simp only [GroupMap.validate_eq_error_iff]
    exact exists_and_left.trans (and_iff_left ⟨_, rfl⟩)
  · obtain ⟨-, rfl⟩ := GroupMap.validate_eq_error_iff.mp he
    exact ⟨_, rfl, rfl, rfl, rfl⟩
  · have hu := GroupMap.validate_eq_ok_iff.mp hvalid
    exact ⟨fun s name => GroupMap.groupOf?_eq_some_iff_statesOf hu,
      fun p hp s => (GroupMap.mem_enumerate.mp hp).2.mem_states_iff_get hu⟩

/-- Two doors with states in common. -/
def doors : List StateGroup := [⟨"Front", ["Open", "Shut", "Open"]⟩, ⟨"Back", ["Ajar", "Shut"]⟩]

/-- Of the states of the doors one is repeated within a door and one between the doors; they are
listed in the order in which they come first. In the lamp a level is found where its group
stands. -/
theorem lookups_agree_doors :
    (doors.map (·.name)).Nodup ∧ (dimmer.groups.map (·.name)).Nodup ∧
      Names.Repeats ["Open", "Shut", "Open", "Ajar", "Shut"] ["Open", "Shut"] ∧
      (∃ m, GroupMap.ofGroups doors = .ok m ∧ m.groupOf? "Shut" = some "Front") ∧
      ∃ m, GroupMap.ofGroups dimmer.groups = .ok m ∧ m.validate none = .ok () ∧
        ∀ p ∈ Permutation.enumerate m.stateLists, "Mid" ∈ p.states ↔ p.get 1 = .ok "Mid" := by
  have hdoors : (doors.map (·.name)).Nodup := by decide
  obtain ⟨m, hm, -, hrepeats, -, -, hfirst, -⟩ := lookups_agree hdoors none
  obtain ⟨n, hn, -, -, -, -, -, -, hagree⟩ := lookups_agree dimmer.distinctNames none
  obtain rfl : (⟨doors, hdoors⟩ : GroupMap) = m :=
    Except.ok.inj ((GroupMap.ofGroups_eq_ok hdoors).symm.trans hm)
  obtain rfl : dimmer = n :=
    Except.ok.inj ((GroupMap.ofGroups_eq_ok dimmer.distinctNames).symm.trans hn)
  have hvalid : dimmer.validate none = .ok () := rfl
  refine ⟨hdoors, dimmer.distinctNames, (hrepeats _).mpr rfl,
    ⟨_, hm, (hfirst _ _).mpr ⟨[], _, _, rfl, rfl, by decide, by simp⟩⟩,
    dimmer, hn, hvalid, fun p hp => ((hagree hvalid).2 p hp "Mid").trans ⟨?_, fun hget => ?_⟩⟩
  · rintro ⟨-, name, i, hname, hi, hget⟩
    obtain rfl : "Level" = name := Option.some.inj hname
    obtain rfl : 1 = i := Except.ok.inj hi
    exact hget
  · exact ⟨rfl, "Level", 1, rfl, rfl, hget⟩

end Typestate
