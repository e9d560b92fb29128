import Typestate.Proofs.Criterion
import Typestate.Proofs.Lookup
import Typestate.Proofs.Successor
import Mathlib.Data.List.NodupEquivFin

/-! # The names of a unit

A unit is a table of wrappers by name. It is refused if a name is used at two positions, and the
report then says, for each such name, which permutations have it.

* `CompilationUnit.Shares`: two wrappers at different positions have the name.
* `CompilationUnit.Lists`: a table of the shared names, in the order of first use, each with the
  permutations of all its wrappers. There is one such table (`Lists.unique`), and it is the one that
  is reported (`lists_collisions`).
* `GroupMap.Confuses`: two permutations of the groups make up one text. This is what is wrong with
  the names of generated wrappers, if anything is (`generate_of_assembled`).
* `shared_names_refused`: when a unit is refused and with what, and what it answers otherwise. -/

namespace Typestate

/-- **Labels stand in the order of the first items that have them.** -/
theorem Names.pairwise_distinct_map {α : Type} (label : α → String) (items : List α) :
    (distinct (items.map label)).Pairwise fun a b =>
      items.findIdx (fun x => label x = a) < items.findIdx (fun x => label x = b) := by
  simpa using pairwise_distinct_filterMap (fun x => some (label x)) items

namespace CompilationUnit

/-! ### Shared names -/

/-- Two wrappers at different positions have the name. -/
def Shares (wrappers : List Wrapper) (name : String) : Prop :=
  ∃ i j : Nat, i < j ∧ ∃ v w : Wrapper, wrappers[i]? = some v ∧ wrappers[j]? = some w ∧
    v.typeName = name ∧ w.typeName = name

/-- The position of the first wrapper of a name. -/
def firstUse (wrappers : List Wrapper) (name : String) : Nat :=
  wrappers.findIdx fun w => w.typeName = name

/-- **The table lists the shared names**: each of them once, in the order of first use, with the
permutations of all wrappers of the name in their order. -/
structure Lists (wrappers : List Wrapper) (table : List (String × List Permutation)) : Prop where
  mem_iff : ∀ name, name ∈ table.map (·.1) ↔ Shares wrappers name
  permutations : ∀ entry ∈ table,
    entry.2 = (wrappers.filter fun w => w.typeName = entry.1).map (·.permutation)
  ordered : (table.map (·.1)).Pairwise fun a b => firstUse wrappers a < firstUse wrappers b

variable {wrappers : List Wrapper}

theorem shares_iff_duplicate {name : String} :
    Shares wrappers name ↔ (wrappers.map (·.typeName)).Duplicate name := by
  rw [List.duplicate_iff_exists_distinct_get]
  constructor
  · rintro ⟨i, j, hij, v, w, hv, hw, rfl, hname⟩
    obtain ⟨hi, rfl⟩ := List.getElem?_eq_some_iff.mp hv
    obtain ⟨hj, rfl⟩ := List.getElem?_eq_some_iff.mp hw
    exact ⟨⟨i, by simpa using hi⟩, ⟨j, by simpa using hj⟩, hij, by simp, by simp [hname]⟩
  · rintro ⟨⟨i, hi⟩, ⟨j, hj⟩, hij, hv, hw⟩
    rw [List.length_map] at hi hj
    exact ⟨i, j, hij, wrappers[i], wrappers[j], List.getElem?_eq_getElem hi,
      List.getElem?_eq_getElem hj, by simpa using hv.symm, by simpa using hw.symm⟩

theorem shares_iff {name : String} :
    Shares wrappers name ↔ 1 < (wrappers.filter fun w => w.typeName = name).length := by
  rw [shares_iff_duplicate, List.duplicate_iff_two_le_count, List.count, List.countP_map,
    List.countP_eq_length_filter]
  rfl

/-- **The names differ exactly if none is shared.** -/
theorem nodup_typeNames_iff_not_shares :
    (wrappers.map (·.typeName)).Nodup ↔ ∀ name, ¬ Shares wrappers name := by
  simp only [shares_iff_duplicate, List.nodup_iff_forall_not_duplicate]

/-! ### The table of shared names -/

theorem mem_collisions {entry : String × List Permutation} :
    entry ∈ collisions wrappers ↔ Shares wrappers entry.1 ∧
      entry.2 = (wrappers.filter fun w => w.typeName = entry.1).map (·.permutation) := by
  have hitems : ((wrappers.map fun w => (w.typeName, w.permutation)).filter
      fun item => item.1 = entry.1).map (·.2) =
        (wrappers.filter fun w => w.typeName = entry.1).map (·.permutation) := by
    rw [List.filter_map, List.map_map]
    rfl
  rw [collisions, List.mem_filter, Names.mem_collect, hitems, shares_iff, decide_eq_true_eq]
  constructor
  · rintro ⟨⟨-, hperms⟩, hlen⟩
    rw [hperms, List.length_map] at hlen
    exact ⟨hlen, hperms⟩
  · rintro ⟨hlen, hperms⟩
    obtain ⟨w, hw⟩ := List.exists_mem_of_length_pos (Nat.zero_lt_of_lt hlen)
    obtain ⟨hmem, hname⟩ := List.mem_filter.mp hw
    refine ⟨⟨⟨_, List.mem_map.mpr ⟨w, hmem, rfl⟩, by simpa using hname⟩, hperms⟩, ?_⟩
    rwa [hperms, List.length_map]

/-- **What is reported lists the shared names.** -/
theorem lists_collisions (wrappers : List Wrapper) : Lists wrappers (collisions wrappers) where
  mem_iff name := by
    rw [List.mem_map]
    constructor
    · rintro ⟨entry, hentry, rfl⟩
      exact (mem_collisions.mp hentry).1
    · intro h
      exact ⟨(name, (wrappers.filter fun w => w.typeName = name).map (·.permutation)),
        mem_collisions.mpr ⟨h, rfl⟩, rfl⟩
  permutations entry hentry := (mem_collisions.mp hentry).2
  ordered := by
    have hlabels : ((Names.collect (wrappers.map fun w => (w.typeName, w.permutation))).map (·.1)) =
        Names.distinct (wrappers.map (·.typeName)) := by
      simp [Names.collect, List.map_map, Function.comp_def]
    refine List.Pairwise.sublist (List.filter_sublist.map _) ?_
    rw [hlabels]
    exact Names.pairwise_distinct_map _ wrappers

/-- **There is one table of the shared names.** -/
theorem Lists.unique {table table' : List (String × List Permutation)} (h : Lists wrappers table)
    (h' : Lists wrappers table') : table = table' := by
  have hnames : table.map (·.1) = table'.map (·.1) :=
    Names.eq_of_ordered (fun a b hab hba => by omega) h.ordered h'.ordered fun name => by
      rw [h.mem_iff, h'.mem_iff]
  -- a table is its list of names, each with the permutations that go with it
  have hfill : ∀ {t : List (String × List Permutation)}, Lists wrappers t → t =
      (t.map (·.1)).map fun name =>
        (name, (wrappers.filter fun w => w.typeName = name).map (·.permutation)) := fun {t} ht => by
    rw [List.map_map]
    refine ((List.map_congr_left fun entry hentry => ?_).trans (List.map_id t)).symm
    exact Prod.ext rfl (ht.permutations entry hentry).symm
  rw [hfill h, hfill h', hnames]

/-- **A unit is refused exactly if a name is shared**, with the report about the shared names. -/
theorem make_eq_error_iff {entity : Entity} {suffix : String} {e : Failure} :
    make entity wrappers suffix = .error e ↔
      (∃ name, Shares wrappers name) ∧
        e = .report (collisionReport entity (collisions wrappers)) := by
  have hshares : (∃ name, Shares wrappers name) ↔ ¬ (wrappers.map (·.typeName)).Nodup := by
    rw [nodup_typeNames_iff_not_shares]
    push Not
    rfl
  rw [hshares, make]
  split
  · next h => simp [h]
  · next h => simp [h, eq_comm]

end CompilationUnit

/-! ### The names of generated wrappers -/

/-- Two different permutations of the groups make up one text. -/
def GroupMap.Confuses (m : GroupMap) : Prop :=
  ∃ p ∈ Permutation.enumerate m.stateLists, ∃ q ∈ Permutation.enumerate m.stateLists,
    p ≠ q ∧ Permutation.concat p.states = Permutation.concat q.states

theorem GroupMap.not_confuses_iff {m : GroupMap} :
    ¬ m.Confuses ↔ ∀ p ∈ Permutation.enumerate m.stateLists,
      ∀ q ∈ Permutation.enumerate m.stateLists,
        Permutation.concat p.states = Permutation.concat q.states → p = q := by
  unfold Confuses
  push Not
  exact forall₂_congr fun p _ => forall₂_congr fun q _ => not_imp_not

section Generated

variable {settings : Settings} {registry : Registry} {entity : Entity} {m : GroupMap}

/-- Whether a permutation can be assembled does not depend on the settings. -/
theorem exists_assemble_iff_resolvable (settings : Settings) {p : Permutation}
    (hp : p ∈ Permutation.enumerate m.stateLists) :
    (∃ w, (Assembler.ofEntity settings registry entity m).assemble p = .ok w) ↔
      ∀ c ∈ entity.capabilities, Rules.Resolvable m registry c p := by
  simp only [Assembler.assemble_eq_ok_iff (Assembler.ofEntity settings registry entity m)
    (GroupMap.mem_enumerate.mp hp).2.size]
  exact exists_and_left.trans (and_iff_left ⟨_, rfl⟩)

/-- **Where everything can be assembled, generation fails exactly if the groups confuse two
permutations**, and then with the code for shared names. -/
theorem generate_of_assembled (settings : Settings) (hm : m.groups = entity.groups)
    (hu : m.allStates.Nodup)
    (hr : ∀ p ∈ Permutation.enumerate m.stateLists, ∀ c ∈ entity.capabilities,
      Rules.Resolvable m registry c p) :
    ((∃ e, generate settings registry entity = .error e ∧ e.code? = some .nameCollision) ↔
        m.Confuses) ∧
      ((∃ u, generate settings registry entity = .ok u) ↔ ¬ m.Confuses) := by
  have hunit : ¬ m.Confuses → ∃ u, generate settings registry entity = .ok u := fun h =>
    exists_generate_iff.mpr ⟨m, hm, hu, hr, GroupMap.not_confuses_iff.mp h⟩
  have hends : Ends settings registry entity m (generate settings registry entity) :=
    ends_generateBy Schedule.inOrder settings registry hm
  generalize generate settings registry entity = outcome at hunit hends ⊢
  cases hends with
  | repeated hn => exact absurd hu hn
  | @failing _ _ p _ _ c e _ hperms _ hcaps _ hc =>
    have hp : p ∈ Permutation.enumerate m.stateLists := by simp [hperms]
    have hall := (Assembler.exists_assemble_ok_iff _).mp
      ((exists_assemble_iff_resolvable settings hp).mpr (hr p hp))
    obtain ⟨x, hx⟩ := hall c (by simp [Assembler.ofEntity, hcaps])
    rw [hx] at hc
    cases hc
  | @collision p q _ _ hp hq hne hname =>
    have hconfuses : m.Confuses :=
      ⟨p, hp, q, hq, hne, (String.append_left_inj settings.nameSuffix).mp hname⟩
    exact ⟨iff_of_true ⟨_, rfl, rfl⟩ hconfuses,
      iff_of_false (by rintro ⟨u, h⟩; cases h) (not_not_intro hconfuses)⟩
  | unit he =>
    have hnot : ¬ m.Confuses := GroupMap.not_confuses_iff.mpr (exists_expands_iff.mp ⟨_, he⟩).2.2.2
    exact ⟨iff_of_false (by rintro ⟨e, h, -⟩; cases h) hnot, iff_of_true ⟨_, rfl⟩ hnot⟩

end Generated

/-! ### The table -/

open CompilationUnit

/-- **A unit is a table by name.** Wrappers, whatever their names and permutations, make a unit
exactly if no name is used at two positions. Otherwise the report about shared names maps each of
them, in the order of first use, to the states of all its wrappers in their order, and no other name
to anything. In a unit each name is answered with its wrapper, any other text is not found, and
containment agrees with that. For an entity whose states are unique and whose permutations can all
be assembled this means that, with every suffix, shared names are reported exactly if two
permutations make up one text; otherwise there is a unit. -/
theorem shared_names_refused (entity : Entity) (wrappers : List Wrapper) (suffix : String) :
    ((∃ e, make entity wrappers suffix = .error e) ↔ ∃ name, Shares wrappers name) ∧
    (∀ e, make entity wrappers suffix = .error e → ∃ r table, e = .report r ∧
      r.code = .nameCollision ∧ r.site.entity = some entity.name ∧ Lists wrappers table ∧
      r.site.extra = [("permutations", Data.ofPairs (table.map fun entry =>
        (entry.1, .list (entry.2.map fun p => Data.texts p.states))))]) ∧
    (∀ u, make entity wrappers suffix = .ok u →
      (∀ w ∈ wrappers, u.get w.typeName = .ok w) ∧
      (∀ name, (∀ w ∈ wrappers, w.typeName ≠ name) ↔
        u.get name = .error (.missing (.wrapper name))) ∧
      ∀ name, u.contains name = true ↔ ∃ w, u.get name = .ok w) ∧
    ∀ (settings : Settings) (registry : Registry) (m : GroupMap), m.groups = entity.groups →
      m.allStates.Nodup →
      (∀ p ∈ Permutation.enumerate m.stateLists,
        ∃ w, (Assembler.ofEntity settings registry entity m).assemble p = .ok w) →
      ∀ suffix',
        ((∃ e, generate { settings with nameSuffix := suffix' } registry entity = .error e ∧
            e.code? = some .nameCollision) ↔ m.Confuses) ∧
          ((∃ u, generate { settings with nameSuffix := suffix' } registry entity = .ok u) ↔
            ¬ m.Confuses) := by
  refine ⟨?_, fun e he => ?_, fun u hu => ⟨fun w hw => ?_, fun name => ?_, fun name => ?_⟩,
    fun settings registry m hm hu hok suffix' => ?_⟩
  · simp only [make_eq_error_iff]
    exact exists_and_left.trans (and_iff_left ⟨_, rfl⟩)
  · obtain ⟨-, rfl⟩ := make_eq_error_iff.mp he
    exact ⟨_, _, rfl, rfl, rfl, lists_collisions wrappers, rfl⟩
  · obtain ⟨-, rfl, -⟩ := make_eq_ok_iff.mp hu
    exact CompilationUnit.get_eq_ok hw
  · obtain ⟨-, rfl, -⟩ := make_eq_ok_iff.mp hu
    exact CompilationUnit.get_eq_error_iff.symm
  · rw [contains, Option.isSome_iff_exists]
    refine exists_congr fun w => ?_
    unfold CompilationUnit.get
    cases u.find? name <;> simp
  · exact generate_of_assembled _ hm hu fun p hp =>
      (exists_assemble_iff_resolvable settings hp).mp (hok p hp)

/-- A joint that reads `"ABC"` in two ways. -/
def joint : Entity where
  name := "Joint"
  groups := [⟨"Left", ["AB", "A"]⟩, ⟨"Right", ["C", "BC"]⟩]
  capabilities := []
  typeParameters := []
  module := none

/-- The groups of the joint. -/
def jointGroups : GroupMap := ⟨joint.groups, by decide⟩

/-- The wrapper of the joint in given states. -/
def jointWrapper (states : List String) : Wrapper :=
  (Assembler.ofEntity {} Registry.builtin joint jointGroups).expected ⟨states⟩

/-- With any suffix the joint has no unit. The report about three of its wrappers names the two that
share a name, and two of them that do not share one make a unit. -/
theorem shared_names_refused_joint :
    (∀ suffix, ∃ e, generate { nameSuffix := suffix } Registry.builtin joint = .error e ∧
        e.code? = some .nameCollision) ∧
      (∃ r, make joint [jointWrapper ["AB", "C"], jointWrapper ["A", "C"],
          jointWrapper ["A", "BC"]] "State" = .error (.report r) ∧
        r.site.extra = [("permutations", Data.ofPairs
          [("ABCState", .list [Data.texts ["AB", "C"], Data.texts ["A", "BC"]])])]) ∧
      ∃ u, make joint [jointWrapper ["AB", "BC"], jointWrapper ["A", "C"]] "State" = .ok u ∧
        u.contains "ACState" = true ∧
        u.get "ABCState" = .error (.missing (.wrapper "ABCState")) := by
  obtain ⟨-, herror, -, hgenerate⟩ := shared_names_refused joint
    [jointWrapper ["AB", "C"], jointWrapper ["A", "C"], jointWrapper ["A", "BC"]] "State"
  obtain ⟨-, -, hunit, -⟩ := shared_names_refused joint
    [jointWrapper ["AB", "BC"], jointWrapper ["A", "C"]] "State"
  refine ⟨fun suffix => ?_, ?_, ?_⟩
  · have hassemble : ∀ p ∈ Permutation.enumerate jointGroups.stateLists, ∃ w,
        (Assembler.ofEntity {} Registry.builtin joint jointGroups).assemble p = .ok w := fun p _ =>
      ⟨_, rfl⟩
    exact (hgenerate {} Registry.builtin jointGroups rfl (by decide) hassemble suffix).1.mpr
      ⟨⟨["AB", "C"]⟩, by decide, ⟨["A", "BC"]⟩, by decide, by decide, by decide⟩
  · obtain ⟨r, table, hr, -, -, htable, hextra⟩ := herror _ rfl
    rw [htable.unique (lists_collisions _)] at hextra
    exact ⟨r, congrArg Except.error hr, hextra⟩
  · obtain ⟨hget, hnone, hcontains⟩ := hunit _ (make_eq_ok (by decide))
    exact ⟨_, make_eq_ok (by decide), (hcontains "ACState").mpr ⟨_, hget _ (.tail _ (.head _))⟩,
      (hnone "ABCState").mp (by decide)⟩

end Typestate
