import Typestate.Proofs.Criterion

/-! # One group more

A group whose states no capability mentions is a frame: it takes no part in what the rules say. With
such a group behind the others, each permutation comes once with each state of the group, and all
else goes on as before.

* `Permutation.extend`, `Wrapper.extend`: a permutation, and a wrapper, with a state of the group.
* `Capability.Avoids`: the capability does not mention the states of the group.
* `Permutation.enumerate_append`: the permutations with the group are the extended ones.
* `Rules.holds_extend`, `Rules.targets_extend`, `Rules.step_extend`: conditions, targets and steps
  in an extended permutation; `Rules.resolvable_extend`: what can be resolved there.
* `Expands.of_withGroup`: the unit without the group; `independent_group`: the same for
  generation. -/

namespace Typestate

open Rules

/-! ### States behind a permutation -/

namespace Permutation

/-- The permutation with a state of one more group. -/
def extend (p : Permutation) (s : String) : Permutation := ⟨p.states ++ [s]⟩

theorem states_extend (p : Permutation) (s : String) : (p.extend s).states = p.states ++ [s] := rfl

theorem extend_injective (s : String) : Function.Injective fun p : Permutation => p.extend s := by
  rintro ⟨xs⟩ ⟨ys⟩ h
  simpa [extend] using h

theorem concat_extend (p : Permutation) (s : String) :
    concat (p.extend s).states = concat p.states ++ s := by
  obtain ⟨states⟩ := p
  induction states with
  | nil => simp [extend, concat]
  | cons t rest ih => exact (congrArg (t ++ ·) ih).trans String.append_assoc.symm

/-- **With one more list, each choice comes once with each of its items.** -/
theorem choices_append {α : Type} (ls : List (List α)) (l : List α) :
    choices (ls ++ [l]) = (choices ls).flatMap fun xs => l.map fun a => xs ++ [a] := by
  induction ls with
  | nil =>
    simp only [List.nil_append, choices, List.flatMap_cons, List.flatMap_nil, List.append_nil,
      List.map_cons, List.map_nil]
    exact List.map_eq_flatMap.symm
  | cons k rest ih =>
    rw [List.cons_append, choices, choices, ih, List.flatMap_assoc]
    refine List.flatMap_congr fun a _ => ?_
    rw [List.map_flatMap, List.flatMap_map]
    exact List.flatMap_congr fun xs _ => List.map_map

theorem enumerate_append {ls : List (List String)} (hls : ls ≠ []) (l : List String) :
    enumerate (ls ++ [l]) = (enumerate ls).flatMap fun p => l.map p.extend := by
  have hls' : ls.isEmpty = false := by simpa using hls
  have happend : (ls ++ [l]).isEmpty = false := by simp
  simp only [enumerate, hls', happend, Bool.false_eq_true, if_false, choices_append,
    List.map_flatMap, List.flatMap_map, List.map_map]
  rfl

end Permutation

/-- The result with a state of one more group behind its successor. -/
def Result.extend (suffix : String) (typeParameters : List String) (s : String) : Result → Result
  | .value type => .value type
  | .transition successor _ targets =>
    .transition (successor.extend s)
      (genericName ((successor.extend s).typeName suffix) typeParameters) targets

/-- The wrapper with a state of one more group: the same members, each of which keeps the state. -/
def Wrapper.extend (suffix : String) (w : Wrapper) (s : String) : Wrapper :=
  { w with
    typeName := (w.permutation.extend s).typeName suffix
    permutation := w.permutation.extend s
    members := w.members.map fun x =>
      { x with result := x.result.extend suffix w.typeParameters s } }

/-! ### Capabilities that do not mention a group -/

/-- The condition asks for no state of the group. -/
def Condition.Avoids (condition : Condition) (g : StateGroup) : Prop :=
  ∀ s ∈ condition.states.toList, s ∉ g.states

/-- The capability neither asks for a state of the group nor leads to one. -/
structure Capability.Avoids (c : Capability) (g : StateGroup) : Prop where
  availability : ∀ condition ∈ c.availability, condition.Avoids g
  conditions : ∀ rule ∈ c.transitions, rule.condition.Avoids g
  targets : ∀ rule ∈ c.transitions, rule.target ∉ g.states

section Conditions

variable {g : StateGroup} {condition : Condition} {p : Permutation} {s : String}

theorem mem_extend_iff {t : String} (hs : s ∈ g.states) (ht : t ∉ g.states) :
    t ∈ (p.extend s).states ↔ t ∈ p.states := by
  have hne : t ≠ s := fun h => ht (h ▸ hs)
  simp [Permutation.states_extend, hne]

theorem Condition.Avoids.valid_iff (h : condition.Avoids g) (groups : List StateGroup) :
    condition.Valid (groups ++ [g]) ↔ condition.Valid groups := by
  refine exists_congr fun kind => and_congr_right fun _ => imp_congr_right fun _ => ?_
  rw [List.forall_mem_append]
  refine and_iff_left ?_
  rw [List.forall_mem_singleton]
  exact fun s hs t _ hsg => absurd hsg (h s hs)

theorem Condition.Avoids.met_iff (h : condition.Avoids g) (hs : s ∈ g.states) :
    condition.Met (p.extend s) ↔ condition.Met p := by
  refine exists_congr fun kind => and_congr_right fun _ => ?_
  have hmem : ∀ t ∈ condition.states.toList, (t ∈ (p.extend s).states ↔ t ∈ p.states) :=
    fun t ht => mem_extend_iff hs (h t ht)
  cases kind with
  | and => exact forall₂_congr hmem
  | or => exact exists_congr fun t => and_congr_right fun ht => hmem t ht
  | xor =>
    refine exists_congr fun t => and_congr_right fun ht => and_congr (hmem t ht) ?_
    exact forall₂_congr fun u hu => imp_congr_left (hmem u hu)

end Conditions

/-! ### The rules with one more group -/

/-- `m'` has the groups of `m` and one more behind them; no state name is repeated. -/
structure GroupMap.Extends (m' m : GroupMap) (g : StateGroup) : Prop where
  groups : m'.groups = m.groups ++ [g]
  unique : m'.allStates.Nodup

namespace GroupMap.Extends

variable {m m' : GroupMap} {g : StateGroup} {p : Permutation} {s t : String}

theorem unique_left (h : m'.Extends m g) : m.allStates.Nodup := by
  have hu := h.unique
  rw [allStates, h.groups, List.flatMap_append] at hu
  exact (List.nodup_append.mp hu).1

theorem stateLists_eq (h : m'.Extends m g) : m'.stateLists = m.stateLists ++ [g.states] := by
  rw [stateLists, h.groups, List.map_append]
  rfl

theorem place?_eq (h : m'.Extends m g) (ht : t ∉ g.states) : m'.place? t = m.place? t := by
  rw [place?, place?, h.groups, List.findIdx?_append]
  have hnone : List.findIdx? (fun g' : StateGroup => decide (t ∈ g'.states)) [g] = none := by
    simp [List.findIdx?_cons, ht]
  rw [hnone, Option.map_none, Option.or_none]

theorem declares_eq (h : m'.Extends m g) (ht : t ∉ g.states) : m'.declares t = m.declares t := by
  simp [declares, h.groups, ht]

theorem agree_iff (h : m'.Extends m g) {states : List String}
    (hstates : ∀ t ∈ states, t ∉ g.states) :
    m'.Agree states ↔ m.Agree states := by
  refine forall₂_congr fun t ht => forall₂_congr fun u hu => ?_
  rw [h.place?_eq (hstates t ht), h.place?_eq (hstates u hu)]

/-- **A state of the old groups is put in front of the state of the new one.** -/
theorem put_extend (h : m'.Extends m g) (ht : t ∉ g.states)
    (hp : p.states.length = m.groups.length) : m'.put (p.extend s) t = (m.put p t).extend s := by
  rw [put, put, h.place?_eq ht]
  cases hi : m.place? t with
  | none => rfl
  | some i =>
    obtain ⟨hlt, -⟩ := mem_of_place? hi
    simp only [Permutation.extend, List.set_append_left _ _ (hp ▸ hlt)]

theorem foldl_put_extend (h : m'.Extends m g) {states : List String}
    (hstates : ∀ t ∈ states, t ∉ g.states) (hp : p.states.length = m.groups.length) :
    states.foldl m'.put (p.extend s) = (states.foldl m.put p).extend s := by
  induction states generalizing p with
  | nil => rfl
  | cons t rest ih =>
    rw [List.foldl_cons, List.foldl_cons, h.put_extend (hstates t (by simp)) hp]
    exact ih (fun u hu => hstates u (List.mem_cons_of_mem t hu)) (by rw [size_put, hp])

end GroupMap.Extends

namespace Rules

variable {m m' : GroupMap} {g : StateGroup} {c : Capability} {p : Permutation} {s : String}

section Condition

variable {condition : Condition}

theorem decided_extend (h : m'.Extends m g) (hc : condition.Avoids g) :
    Decided m' Registry.builtin condition (p.extend s) ↔
      Decided m Registry.builtin condition p := by
  rw [decided_builtin_iff h.unique, decided_builtin_iff h.unique_left, h.groups, hc.valid_iff]

/-- **A condition holds with any state of a group that it does not ask for.** -/
theorem holds_extend (h : m'.Extends m g) (hc : condition.Avoids g) (hs : s ∈ g.states) :
    holds m' Registry.builtin condition (p.extend s) = holds m Registry.builtin condition p := by
  rw [Bool.eq_iff_iff, holds_eq_true_iff, holds_eq_true_iff,
    Registry.evaluate_builtin_eq_ok_iff h.unique, Registry.evaluate_builtin_eq_ok_iff h.unique_left,
    h.groups, hc.valid_iff, hc.met_iff hs]

end Condition

theorem available_extend (h : m'.Extends m g) (hc : c.Avoids g) (hs : s ∈ g.states) :
    available m' Registry.builtin c (p.extend s) = available m Registry.builtin c p := by
  rw [available, available, Bool.eq_iff_iff, Bool.or_eq_true, Bool.or_eq_true, List.any_eq_true,
    List.any_eq_true]
  refine or_congr_right (exists_congr fun condition => and_congr_right fun hmem => ?_)
  rw [holds_extend h (hc.availability condition hmem) hs]

theorem targets_extend (h : m'.Extends m g) (hc : c.Avoids g) (hs : s ∈ g.states) :
    targets m' Registry.builtin c (p.extend s) = targets m Registry.builtin c p := by
  unfold targets
  congr 1
  exact List.filter_congr fun rule hmem => holds_extend h (hc.conditions rule hmem) hs

theorem not_mem_of_mem_targets (hc : c.Avoids g) {t : String}
    (ht : t ∈ targets m Registry.builtin c p) : t ∉ g.states := by
  obtain ⟨rule, hrule, rfl⟩ := List.mem_map.mp ht
  exact hc.targets rule (List.mem_filter.mp hrule).1

/-- **A step keeps the state of a group that is not mentioned.** -/
theorem step_extend (h : m'.Extends m g) (hc : c.Avoids g) (hs : s ∈ g.states)
    (hp : p.states.length = m.groups.length) :
    step m' Registry.builtin c (p.extend s) = (step m Registry.builtin c p).extend s := by
  rw [step, targets_extend h hc hs]
  exact h.foldl_put_extend (fun t ht => not_mem_of_mem_targets hc ht) hp

theorem movable_extend (h : m'.Extends m g) (hc : c.Avoids g) (hs : s ∈ g.states) :
    Movable m' Registry.builtin c (p.extend s) ↔ Movable m Registry.builtin c p := by
  have havoid : ∀ t ∈ targets m Registry.builtin c p, t ∉ g.states := fun t ht =>
    not_mem_of_mem_targets hc ht
  have hdecided : ∀ rule ∈ c.transitions, (Decided m' Registry.builtin rule.condition (p.extend s) ↔
      Decided m Registry.builtin rule.condition p) := fun rule hrule =>
    decided_extend h (hc.conditions rule hrule)
  have hdeclares : ∀ t ∈ targets m Registry.builtin c p, m'.declares t = m.declares t := fun t ht =>
    h.declares_eq (havoid t ht)
  constructor
  · rintro ⟨hd, hdeclared, hagree⟩
    rw [targets_extend h hc hs] at hdeclared hagree
    exact ⟨fun rule hrule => (hdecided rule hrule).mp (hd rule hrule),
      fun t ht => hdeclares t ht ▸ hdeclared t ht, (h.agree_iff havoid).mp hagree⟩
  · rintro ⟨hd, hdeclared, hagree⟩
    refine ⟨fun rule hrule => (hdecided rule hrule).mpr (hd rule hrule), fun t ht => ?_, ?_⟩
    · rw [targets_extend h hc hs] at ht
      exact (hdeclares t ht).trans (hdeclared t ht)
    · rw [targets_extend h hc hs]
      exact (h.agree_iff havoid).mpr hagree

/-- **What can be resolved does not depend on a group that is not mentioned.** -/
theorem resolvable_extend (h : m'.Extends m g) (hc : c.Avoids g) (hs : s ∈ g.states) :
    Resolvable m' Registry.builtin c (p.extend s) ↔ Resolvable m Registry.builtin c p := by
  have hdecided : ∀ condition ∈ c.availability,
      (Decided m' Registry.builtin condition (p.extend s) ↔
        Decided m Registry.builtin condition p) :=
    fun condition hmem => decided_extend h (hc.availability condition hmem)
  constructor
  · rintro ⟨hunmixed, hd, hmovable⟩
    refine ⟨hunmixed, fun condition hmem => (hdecided condition hmem).mp (hd condition hmem),
      fun hopen hr => (movable_extend h hc hs).mp (hmovable ?_ hr)⟩
    rwa [available_extend h hc hs]
  · rintro ⟨hunmixed, hd, hmovable⟩
    refine ⟨hunmixed, fun condition hmem => (hdecided condition hmem).mpr (hd condition hmem),
      fun hopen hr => (movable_extend h hc hs).mpr (hmovable ?_ hr)⟩
    rwa [available_extend h hc hs] at hopen

end Rules

/-! ### Generation with one more group -/

/-- The entity with one more group, behind its own. -/
def Entity.withGroup (entity : Entity) (g : StateGroup) : Entity :=
  { entity with groups := entity.groups ++ [g] }

section WithGroup

variable {settings : Settings} {entity : Entity} {m m' : GroupMap} {g : StateGroup}

theorem expectedMember_extend (h : m'.Extends m g) {c : Capability} (hc : c.Avoids g)
    {p : Permutation} (hp : p.states.length = m.groups.length) {s : String} (hs : s ∈ g.states) :
    (Assembler.ofEntity settings Registry.builtin (entity.withGroup g) m').expectedMember c
        (p.extend s) =
      { (Assembler.ofEntity settings Registry.builtin entity m).expectedMember c p with
        result :=
          ((Assembler.ofEntity settings Registry.builtin entity m).expectedMember c p).result.extend
          settings.nameSuffix entity.typeParameters s } := by
  unfold Assembler.expectedMember Rules.result
  simp only [Assembler.ofEntity]
  cases c.returns with
  | some type => rfl
  | none =>
    simp only [step_extend h hc hs hp, targets_extend h hc hs]
    rfl

/-- **The wrapper of an extended permutation is the extended wrapper.** -/
theorem expected_extend (h : m'.Extends m g) (hc : ∀ c ∈ entity.capabilities, c.Avoids g)
    {p : Permutation} (hp : p.states.length = m.groups.length) {s : String} (hs : s ∈ g.states) :
    (Assembler.ofEntity settings Registry.builtin (entity.withGroup g) m').expected (p.extend s) =
      ((Assembler.ofEntity settings Registry.builtin entity m).expected p).extend
        settings.nameSuffix s := by
  have hexposed : exposed m' Registry.builtin entity.capabilities (p.extend s) =
      exposed m Registry.builtin entity.capabilities p :=
    List.filter_congr fun c hmem => available_extend h (hc c hmem) hs
  have hmembers : ((exposed m' Registry.builtin entity.capabilities (p.extend s)).map fun c =>
        (Assembler.ofEntity settings Registry.builtin (entity.withGroup g) m').expectedMember c
          (p.extend s)) =
      ((exposed m Registry.builtin entity.capabilities p).map fun c =>
        (Assembler.ofEntity settings Registry.builtin entity m).expectedMember c p).map fun x =>
          { x with result := x.result.extend settings.nameSuffix entity.typeParameters s } := by
    rw [hexposed, List.map_map]
    refine List.map_congr_left fun c hmem => ?_
    exact expectedMember_extend h (hc c (List.mem_filter.mp hmem).1) hp hs
  exact congrArg _ hmembers

/-- **The unit without a group that is not mentioned**: each of its wrappers comes once with each
state of the group. -/
theorem Expands.of_withGroup {unit' : CompilationUnit}
    (h : Expands settings Registry.builtin (entity.withGroup g) m' unit')
    (hgroups : entity.groups ≠ []) (hg : g.states ≠ [])
    (hc : ∀ c ∈ entity.capabilities, c.Avoids g) :
    ∃ m unit, Expands settings Registry.builtin entity m unit ∧
      unit'.wrappers = unit.wrappers.flatMap fun w =>
        g.states.map (w.extend settings.nameSuffix) := by
  obtain ⟨hm', -, hr', hnaming'⟩ := exists_expands_iff.mp ⟨unit', h⟩
  have hnames := m'.distinctNames
  rw [hm', Entity.withGroup, List.map_append] at hnames
  let m : GroupMap := ⟨entity.groups, (List.nodup_append.mp hnames).1⟩
  have hext : m'.Extends m g := ⟨hm', h.unique⟩
  have hperms : Permutation.enumerate m'.stateLists =
      (Permutation.enumerate m.stateLists).flatMap fun p => g.states.map p.extend := by
    rw [hext.stateLists_eq]
    exact Permutation.enumerate_append (by simpa [GroupMap.stateLists, m] using hgroups) g.states
  have hmem : ∀ p ∈ Permutation.enumerate m.stateLists, ∀ s ∈ g.states,
      p.extend s ∈ Permutation.enumerate m'.stateLists := fun p hp s hs => by
    rw [hperms]
    exact List.mem_flatMap.mpr ⟨p, hp, List.mem_map_of_mem hs⟩
  -- one state of the group is enough to see that the entity has a unit without it
  obtain ⟨s, hs⟩ := List.exists_mem_of_ne_nil _ hg
  have hr : ∀ p ∈ Permutation.enumerate m.stateLists, ∀ c ∈ entity.capabilities,
      Resolvable m Registry.builtin c p := fun p hp c hmemc =>
    (resolvable_extend hext (hc c hmemc) hs).mp (hr' _ (hmem p hp s hs) c hmemc)
  have hnaming : ∀ p ∈ Permutation.enumerate m.stateLists,
      ∀ q ∈ Permutation.enumerate m.stateLists,
      Permutation.concat p.states = Permutation.concat q.states → p = q := by
    intro p hp q hq hpq
    refine Permutation.extend_injective s (hnaming' _ (hmem p hp s hs) _ (hmem q hq s hs) ?_)
    rw [Permutation.concat_extend, Permutation.concat_extend, hpq]
  obtain ⟨unit, he⟩ : ∃ unit, Expands settings Registry.builtin entity m unit :=
    exists_expands_iff.mpr ⟨rfl, hext.unique_left, hr, hnaming⟩
  refine ⟨m, unit, he, ?_⟩
  rw [h.wrappers_eq, he.wrappers_eq, hperms, List.map_flatMap, List.flatMap_map]
  refine List.flatMap_congr fun p hp => ?_
  rw [List.map_map]
  exact List.map_congr_left fun s hs =>
    expected_extend hext hc (GroupMap.mem_enumerate.mp hp).2.size hs

end WithGroup

/-- **Independent groups do not interact.** If an entity has a unit with one more group, of whose
states no capability makes a mention, then it has one without it, and each of its wrappers comes
once with each state of the group: the state is kept by all transitions, and nothing else is
different. That the name and the states of the group are new need not be asked for; otherwise there
is no unit. -/
theorem independent_group (settings : Settings) {entity : Entity} {g : StateGroup}
    (hgroups : entity.groups ≠ []) (hg : g.states ≠ [])
    (hc : ∀ c ∈ entity.capabilities, c.Avoids g) {unit' : CompilationUnit}
    (h : generate settings Registry.builtin (entity.withGroup g) = .ok unit') :
    ∃ unit, generate settings Registry.builtin entity = .ok unit ∧
      unit'.wrappers = unit.wrappers.flatMap fun w =>
        g.states.map (w.extend settings.nameSuffix) := by
  obtain ⟨m', he'⟩ := generate_eq_ok_iff.mp h
  obtain ⟨m, unit, he, hwrappers⟩ := he'.of_withGroup hgroups hg hc
  exact ⟨unit, generate_eq_ok_iff.mpr ⟨m, he⟩, hwrappers⟩

/-- The rooms that a lamp can stand in. -/
def room : StateGroup := ⟨"Room", ["Hall", "Attic"]⟩

/-- The lamp works in every room as it works anywhere. -/
theorem independent_group_lamp :
    lamp.groups ≠ [] ∧ room.states ≠ [] ∧ (∀ c ∈ lamp.capabilities, c.Avoids room) ∧
      ∃ unit', generate {} Registry.builtin (lamp.withGroup room) = .ok unit' ∧
        unit'.wrappers = lampUnit.wrappers.flatMap fun w => room.states.map (w.extend "State") := by
  have hc : ∀ c ∈ lamp.capabilities, c.Avoids room := by
    have havoids : ∀ c ∈ lamp.capabilities,
        (∀ condition ∈ c.availability, ∀ s ∈ condition.states.toList, s ∉ room.states) ∧
          (∀ rule ∈ c.transitions, ∀ s ∈ rule.condition.states.toList, s ∉ room.states) ∧
          ∀ rule ∈ c.transitions, rule.target ∉ room.states := by decide
    exact fun c hmem => ⟨(havoids c hmem).1, (havoids c hmem).2.1, (havoids c hmem).2.2⟩
  obtain ⟨unit', hunit'⟩ :
      ∃ unit', generate {} Registry.builtin (lamp.withGroup room) = .ok unit' :=
    ⟨_, rfl⟩
  obtain ⟨unit, hunit, hwrappers⟩ := independent_group {} (by decide) (by decide) hc hunit'
  cases generate_lamp.symm.trans hunit
  exact ⟨by decide, by decide, hc, unit', hunit', hwrappers⟩

end Typestate
