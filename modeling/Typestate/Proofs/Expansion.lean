import Typestate.Generation
import Typestate.Proofs.Rules

/-! # The unit of an entity

Generation that succeeds has one wrapper for each permutation, in the order of the enumeration, and
each wrapper has one member for each capability that is available in its permutation.

* `Assembler.expected`: the wrapper that the rules call for.
* `Expands`: the unit is made of the wrappers that the rules call for, and the rules say something
  sensible everywhere.
* `generate_eq_ok_iff`: generation gives a unit exactly if the entity expands to it; no successor is
  without a wrapper then (`Expands.unresolved_eq_nil`). -/

namespace Typestate

open Rules

/-! ### Groups and names -/

namespace Names

theorem distinct_eq_nil_iff {names : List String} : distinct names = [] ↔ names = [] := by
  cases names <;> simp [distinct]

/-- **No name is repeated exactly if all are different.** -/
theorem repeated_eq_nil_iff {names : List String} : repeated names = [] ↔ names.Nodup := by
  rw [repeated, distinct_eq_nil_iff, List.filter_eq_nil_iff, List.nodup_iff_count_le_one]
  constructor
  · intro h s
    by_cases hs : s ∈ names
    · simpa using h s hs
    · simp [List.count_eq_zero_of_not_mem hs]
  · intro h s _
    simpa using h s

end Names

namespace GroupMap

theorem ofGroups_eq_ok_iff {groups : List StateGroup} {m : GroupMap} :
    ofGroups groups = .ok m ↔ m.groups = groups := by
  obtain ⟨groups', hn⟩ := m
  constructor
  · intro h
    unfold ofGroups at h
    split at h
    · cases h
      rfl
    · cases h
  · rintro rfl
    exact ofGroups_eq_ok hn

theorem validate_eq_ok_iff {m : GroupMap} {entity : Option String} {x : Unit} :
    m.validate entity = .ok x ↔ m.allStates.Nodup := by
  rw [validate, duplicateStates, ← Names.repeated_eq_nil_iff, ← List.isEmpty_iff]
  split
  · next h => simp [h]
  · next h => simp [h]

end GroupMap

/-! ### Wrappers -/

namespace Assembler

variable (a : Assembler)

/-- The member that the rules call for. -/
def expectedMember (c : Capability) (p : Permutation) : Member :=
  a.member c (Rules.result a.resolver.groups a.resolver.registry a.resolver.suffix c p)

/-- The wrapper that the rules call for. -/
def expected (p : Permutation) : Wrapper :=
  a.wrapper p ((exposed a.resolver.groups a.resolver.registry a.entity.capabilities p).map
    fun c => a.expectedMember c p)

theorem members_resolved (capabilities : List Capability) (p : Permutation) :
    a.members (capabilities.map fun c =>
      resolved a.resolver.groups a.resolver.registry a.resolver.suffix c p) =
      (exposed a.resolver.groups a.resolver.registry capabilities p).map
        fun c => a.expectedMember c p := by
  induction capabilities with
  | nil => rfl
  | cons c rest ih =>
    unfold members exposed at ih ⊢
    by_cases h : available a.resolver.groups a.resolver.registry c p = true
    · have hc : (resolved a.resolver.groups a.resolver.registry a.resolver.suffix c p).result =
          some (Rules.result a.resolver.groups a.resolver.registry a.resolver.suffix c p) :=
        if_pos h
      simp only [List.map_cons, List.filterMap_cons, hc, Option.map_some, List.filter_cons, h,
        if_true, ih]
      rfl
    · have hc : (resolved a.resolver.groups a.resolver.registry a.resolver.suffix c p).result =
          none := if_neg h
      simp only [List.map_cons, List.filterMap_cons, hc, Option.map_none, List.filter_cons, h,
        if_false, ih, Bool.false_eq_true]

/-- **Assembling succeeds exactly if every capability can be resolved, and gives the wrapper that
the rules call for.** -/
theorem assemble_eq_ok_iff {p : Permutation}
    (hp : p.states.length = a.resolver.groups.groups.length) {w : Wrapper} :
    a.assemble p = .ok w ↔
      (∀ c ∈ a.entity.capabilities, Resolvable a.resolver.groups a.resolver.registry c p) ∧
        w = a.expected p := by
  rw [assemble, assembleOnly, resolveAll_eq_mapM, Outcome.bind_eq_ok]
  simp only [Outcome.mapM_eq_ok_map fun c _ _ => a.resolver.resolve_eq_ok_iff hp]
  constructor
  · rintro ⟨_, ⟨hr, rfl⟩, h⟩
    cases h
    exact ⟨hr, by rw [members_resolved]; rfl⟩
  · rintro ⟨hr, rfl⟩
    exact ⟨_, ⟨hr, rfl⟩, by rw [members_resolved]; rfl⟩

theorem mapM_assemble_eq_ok_iff {ws : List Wrapper} :
    (Permutation.enumerate a.resolver.groups.stateLists).mapM a.assemble = .ok ws ↔
      (∀ p ∈ Permutation.enumerate a.resolver.groups.stateLists,
        ∀ c ∈ a.entity.capabilities, Resolvable a.resolver.groups a.resolver.registry c p) ∧
      ws = (Permutation.enumerate a.resolver.groups.stateLists).map a.expected :=
  Outcome.mapM_eq_ok_map fun _ hp _ => a.assemble_eq_ok_iff (GroupMap.mem_enumerate.mp hp).2.size

/-- **The members of a wrapper are the available capabilities.** -/
theorem members_expected (p : Permutation) :
    (a.expected p).members =
      (exposed a.resolver.groups a.resolver.registry a.entity.capabilities p).map
        fun c => a.expectedMember c p := rfl

theorem mem_members_expected {p : Permutation} {x : Member} :
    x ∈ (a.expected p).members ↔ ∃ c ∈ a.entity.capabilities,
      available a.resolver.groups a.resolver.registry c p = true ∧ x = a.expectedMember c p := by
  simp only [members_expected, exposed, List.mem_map, List.mem_filter, and_assoc, eq_comm]

/-- A transition of a member is a step of its capability. -/
theorem result_expectedMember {c : Capability} {p q : Permutation} {type : String}
    {targets : List String} (h : (a.expectedMember c p).result = .transition q type targets) :
    c.returns = none ∧ q = step a.resolver.groups a.resolver.registry c p ∧
      type = genericName (q.typeName a.resolver.suffix) a.entity.typeParameters := by
  unfold expectedMember member Rules.result at h
  cases hc : c.returns with
  | some t => simp [hc, memberResult] at h
  | none =>
    simp only [hc, memberResult, Result.transition.injEq] at h
    obtain ⟨rfl, rfl, -⟩ := h
    exact ⟨rfl, rfl, rfl⟩

end Assembler

/-! ### The unit -/

namespace CompilationUnit

/-- Names tell the wrappers of a unit apart. -/
theorem eq_of_typeName {u : CompilationUnit} {w v : Wrapper} (hw : w ∈ u.wrappers)
    (hv : v ∈ u.wrappers) (h : w.typeName = v.typeName) : w = v :=
  List.inj_on_of_nodup_map u.distinctNames hw hv h

/-- **A wrapper of the unit is found by its name.** -/
theorem get_eq_ok {u : CompilationUnit} {w : Wrapper} (hw : w ∈ u.wrappers) :
    u.get w.typeName = .ok w := by
  have hsome : (u.find? w.typeName).isSome = true := by
    rw [find?, List.find?_isSome]
    exact ⟨w, hw, by simp⟩
  obtain ⟨v, hv⟩ := Option.isSome_iff_exists.mp hsome
  have hname : v.typeName = w.typeName := by simpa using List.find?_some hv
  rw [get, hv, eq_of_typeName (List.mem_of_find?_eq_some hv) hw hname]

theorem make_eq_ok_iff {entity : Entity} {wrappers : List Wrapper} {suffix : String}
    {u : CompilationUnit} :
    make entity wrappers suffix = .ok u ↔
      u.entity = entity ∧ u.wrappers = wrappers ∧ u.suffix = suffix := by
  obtain ⟨entity', wrappers', suffix', hn⟩ := u
  constructor
  · intro h
    unfold make at h
    split at h
    · cases h
      exact ⟨rfl, rfl, rfl⟩
    · cases h
  · rintro ⟨rfl, rfl, rfl⟩
    exact make_eq_ok hn

/-- **No reference is open exactly if every successor has the name of a wrapper.** -/
theorem unresolved_eq_nil_iff {u : CompilationUnit} :
    u.unresolved = [] ↔
      ∀ w ∈ u.wrappers, ∀ q ∈ successors w, u.contains (q.typeName u.suffix) = true := by
  rw [unresolved, Names.distinct_eq_nil_iff, List.filter_eq_nil_iff]
  simp only [List.mem_map, List.mem_flatMap, Bool.not_eq_true', Bool.not_eq_false]
  constructor
  · intro h w hw q hq
    exact h _ ⟨q, ⟨w, hw, hq⟩, rfl⟩
  · rintro h _ ⟨q, ⟨w, hw, hq⟩, rfl⟩
    exact h w hw q hq

theorem mem_successors {w : Wrapper} {q : Permutation} :
    q ∈ successors w ↔ ∃ x ∈ w.members, ∃ type targets, x.result = .transition q type targets := by
  rw [successors, List.mem_filterMap]
  refine exists_congr fun x => and_congr_right fun _ => ?_
  cases x.result <;> simp

end CompilationUnit

/-- **The unit consists of the wrappers that the rules call for.** -/
structure Expands (settings : Settings) (registry : Registry) (entity : Entity) (m : GroupMap)
    (unit : CompilationUnit) : Prop where
  groups : m.groups = entity.groups
  unique : m.allStates.Nodup
  resolvable : ∀ p ∈ Permutation.enumerate m.stateLists, ∀ c ∈ entity.capabilities,
    Resolvable m registry c p
  entity_eq : unit.entity = entity
  suffix_eq : unit.suffix = settings.nameSuffix
  wrappers_eq : unit.wrappers =
    (Permutation.enumerate m.stateLists).map
      (Assembler.ofEntity settings registry entity m).expected

namespace Expands

variable {settings : Settings} {registry : Registry} {entity : Entity} {m : GroupMap}
  {unit : CompilationUnit}

theorem mem_wrappers (h : Expands settings registry entity m unit) {w : Wrapper} :
    w ∈ unit.wrappers ↔ ∃ p ∈ Permutation.enumerate m.stateLists,
      w = (Assembler.ofEntity settings registry entity m).expected p := by
  rw [h.wrappers_eq, List.mem_map]
  simp only [eq_comm]

/-- **The wrapper of an enumerated permutation is found.** -/
theorem wrapperFor_eq (h : Expands settings registry entity m unit) {p : Permutation}
    (hp : p ∈ Permutation.enumerate m.stateLists) :
    unit.wrapperFor p = .ok ((Assembler.ofEntity settings registry entity m).expected p) := by
  have hname : p.typeName unit.suffix =
      ((Assembler.ofEntity settings registry entity m).expected p).typeName := by
    rw [h.suffix_eq]
    rfl
  rw [CompilationUnit.wrapperFor, hname]
  exact CompilationUnit.get_eq_ok (h.mem_wrappers.mpr ⟨p, hp, rfl⟩)

/-- **A transition leads from an enumerated permutation to an enumerated one.** -/
theorem mem_enumerate_of_transition {p q : Permutation} {x : Member} {type : String}
    {targets : List String} (hp : p ∈ Permutation.enumerate m.stateLists)
    (hx : x ∈ ((Assembler.ofEntity settings registry entity m).expected p).members)
    (hr : x.result = .transition q type targets) : q ∈ Permutation.enumerate m.stateLists := by
  obtain ⟨c, -, -, rfl⟩ := (Assembler.mem_members_expected _).mp hx
  obtain ⟨-, rfl, -⟩ := Assembler.result_expectedMember _ hr
  obtain ⟨hne, hfits⟩ := GroupMap.mem_enumerate.mp hp
  exact GroupMap.mem_enumerate.mpr ⟨hne, fits_step hfits c⟩

/-- **A transition member leads to the wrapper of its successor.** -/
theorem successorOf_eq (h : Expands settings registry entity m unit) {p q : Permutation}
    {x : Member}
    {type : String} {targets : List String} (hp : p ∈ Permutation.enumerate m.stateLists)
    (hx : x ∈ ((Assembler.ofEntity settings registry entity m).expected p).members)
    (hr : x.result = .transition q type targets) :
    unit.successorOf x = .ok ((Assembler.ofEntity settings registry entity m).expected q) := by
  rw [CompilationUnit.successorOf, hr]
  exact h.wrapperFor_eq (mem_enumerate_of_transition hp hx hr)

theorem unresolved_eq_nil (h : Expands settings registry entity m unit) : unit.unresolved = [] := by
  refine CompilationUnit.unresolved_eq_nil_iff.mpr fun w hw q hq => ?_
  obtain ⟨p, hp, rfl⟩ := h.mem_wrappers.mp hw
  obtain ⟨x, hx, type, targets, hr⟩ := CompilationUnit.mem_successors.mp hq
  have hq' := mem_enumerate_of_transition hp hx hr
  rw [CompilationUnit.contains_eq, decide_eq_true_eq, CompilationUnit.typeNames, List.mem_map]
  refine ⟨_, h.mem_wrappers.mpr ⟨q, hq', rfl⟩, ?_⟩
  rw [h.suffix_eq]
  rfl

end Expands

/-! ### Generation -/

theorem checkReferences_eq_ok_iff {u v : CompilationUnit} :
    checkReferences u = .ok v ↔ u.unresolved = [] ∧ u = v := by
  unfold checkReferences
  by_cases h : u.unresolved = []
  · simp [h]
  · simp [h]

theorem expand_eq_ok_iff {schedule : Schedule} {settings : Settings} {registry : Registry}
    {entity : Entity} {unit : CompilationUnit} :
    expand schedule settings registry entity = .ok unit ↔
      ∃ m, Expands settings registry entity m unit := by
  simp only [expand, Outcome.bind_eq_ok, GroupMap.ofGroups_eq_ok_iff, assembleAll_eq_mapM]
  constructor
  · rintro ⟨m, hm, _, hvalid, ws, hws, u, hu, hcheck⟩
    obtain ⟨-, rfl⟩ := checkReferences_eq_ok_iff.mp hcheck
    obtain ⟨hentity, rfl, hsuffix⟩ := CompilationUnit.make_eq_ok_iff.mp hu
    obtain ⟨hr, hws⟩ := (Assembler.mapM_assemble_eq_ok_iff
      (Assembler.ofEntity settings registry entity m)).mp hws
    exact ⟨m, hm, GroupMap.validate_eq_ok_iff.mp hvalid, hr, hentity, hsuffix, hws⟩
  · rintro ⟨m, h⟩
    refine ⟨m, h.groups, (), GroupMap.validate_eq_ok_iff.mpr h.unique, unit.wrappers, ?_, unit,
      ?_, ?_⟩
    · rw [h.wrappers_eq]
      exact (Assembler.mapM_assemble_eq_ok_iff
        (Assembler.ofEntity settings registry entity m)).mpr ⟨h.resolvable, rfl⟩
    · exact CompilationUnit.make_eq_ok_iff.mpr ⟨h.entity_eq, rfl, h.suffix_eq⟩
    · exact checkReferences_eq_ok_iff.mpr ⟨h.unresolved_eq_nil, rfl⟩

/-- **Generation gives a unit exactly if the entity expands to it.** -/
theorem generate_eq_ok_iff {settings : Settings} {registry : Registry} {entity : Entity}
    {unit : CompilationUnit} :
    generate settings registry entity = .ok unit ↔
      ∃ m, Expands settings registry entity m unit := by
  rw [generate, generateBy, Outcome.mapError_eq_ok, expand_eq_ok_iff]

/-! ### A lamp -/

/-- A lamp with a dimmer: pressing it turns it on or off, and while it is on it shows its level and
can be raised from the low one. -/
def lamp : Entity where
  name := "Lamp"
  groups := [⟨"Power", ["Off", "On"]⟩, ⟨"Level", ["Low", "High"]⟩]
  capabilities :=
    [{ name := "press", returns := none, parameters := [], typeParameters := []
       availableForAll := true, availability := []
       transitions :=
         [⟨"On", Condition.of ["Off"] (.builtin .and)⟩,
          ⟨"Off", Condition.of ["On"] (.builtin .and)⟩] },
     { name := "raise", returns := none, parameters := [⟨"by", "T"⟩], typeParameters := []
       availableForAll := false, availability := [Condition.of ["Low", "On"] (.builtin .and)]
       transitions := [TransitionRule.always "High"] },
     { name := "level", returns := some "T", parameters := [], typeParameters := []
       availableForAll := false, availability := [Condition.of ["On"] (.builtin .or)]
       transitions := [] }]
  typeParameters := ["T"]
  module := none

/-- The groups of the lamp. -/
def lampGroups : GroupMap := ⟨lamp.groups, by decide⟩

/-- What assembles the wrappers of the lamp. -/
def lampAssembler : Assembler := Assembler.ofEntity {} Registry.builtin lamp lampGroups

/-- The unit of the lamp. -/
def lampUnit : CompilationUnit where
  entity := lamp
  wrappers := (Permutation.enumerate lampGroups.stateLists).map lampAssembler.expected
  suffix := "State"
  distinctNames := by decide

theorem generate_lamp : generate {} Registry.builtin lamp = .ok lampUnit := rfl

end Typestate
