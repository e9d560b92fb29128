import Typestate.Proofs.NameTable

/-! # Units of some of the wrappers

Some wrappers of a unit, in any order, make a unit of their own. A transition member can lead out of
it then: the wrapper that it returns is not there. The unit looks for names, but as no two wrappers
of the whole unit share a name, it finds by them exactly the permutations.

* `CompilationUnit.references`: the successors that wrappers refer to, in the order of reference.
* `CompilationUnit.Dangling`: the names of those that are not among the wrappers, in the order of
  first reference. There is one such list (`Dangling.unique`).
* `CompilationUnit.Finds`: the wrappers find by name what they refer to by permutation; this is what
  some wrappers have from the whole unit (`Expands.finds_of_subset`).
* `partial_unit_lists_dangling`: what such a unit says about its references. -/

namespace Typestate

namespace CompilationUnit

/-- The successors that wrappers refer to, in the order of reference. -/
def references (wrappers : List Wrapper) : List Permutation := wrappers.flatMap successors

/-- The position of the first reference to a name. -/
def firstReference (wrappers : List Wrapper) (suffix name : String) : Nat :=
  (references wrappers).findIdx fun q => q.typeName suffix = name

/-- **The names are those of the successors that no wrapper is for**, each of them once, in the
order of first reference. -/
structure Dangling (wrappers : List Wrapper) (suffix : String) (names : List String) : Prop where
  mem_iff : ∀ name, name ∈ names ↔ ∃ q ∈ references wrappers,
    (∀ w ∈ wrappers, w.permutation ≠ q) ∧ q.typeName suffix = name
  ordered : names.Pairwise fun a b =>
    firstReference wrappers suffix a < firstReference wrappers suffix b

/-- **There is one list of the dangling names.** -/
theorem Dangling.unique {wrappers : List Wrapper} {suffix : String} {names names' : List String}
    (h : Dangling wrappers suffix names) (h' : Dangling wrappers suffix names') : names = names' :=
  Names.eq_of_ordered (fun a b hab hba => by omega) h.ordered h'.ordered fun name => by
    rw [h.mem_iff, h'.mem_iff]

/-- Among the wrappers, one that has the name of a successor is for it. -/
structure Finds (wrappers : List Wrapper) (suffix : String) : Prop where
  named : ∀ w ∈ wrappers, w.typeName = w.permutation.typeName suffix
  permutation : ∀ w ∈ wrappers, ∀ q ∈ references wrappers, w.typeName = q.typeName suffix →
    w.permutation = q

variable {u : CompilationUnit}

theorem mem_references {q : Permutation} :
    q ∈ references u.wrappers ↔ ∃ w ∈ u.wrappers, q ∈ successors w := List.mem_flatMap

/-- **A unit that finds its wrappers has the name of a successor exactly if it has a wrapper for
it.** -/
theorem Finds.contains_iff (h : Finds u.wrappers u.suffix) {q : Permutation}
    (hq : q ∈ references u.wrappers) :
    u.contains (q.typeName u.suffix) = true ↔ ∃ w ∈ u.wrappers, w.permutation = q := by
  rw [contains_eq, decide_eq_true_eq, typeNames, List.mem_map]
  constructor
  · rintro ⟨w, hw, hname⟩
    exact ⟨w, hw, h.permutation w hw q hq hname⟩
  · rintro ⟨w, hw, rfl⟩
    exact ⟨w, hw, h.named w hw⟩

theorem Finds.dangling_unresolved (h : Finds u.wrappers u.suffix) :
    Dangling u.wrappers u.suffix u.unresolved where
  mem_iff name := by
    rw [unresolved, Names.mem_distinct, List.mem_filter, List.mem_map]
    constructor
    · rintro ⟨⟨q, hq, rfl⟩, hmissing⟩
      refine ⟨q, hq, fun w hw hperm => ?_, rfl⟩
      rw [(h.contains_iff hq).mpr ⟨w, hw, hperm⟩] at hmissing
      cases hmissing
    · rintro ⟨q, hq, hnone, rfl⟩
      refine ⟨⟨q, hq, rfl⟩, ?_⟩
      rw [Bool.not_eq_true', Bool.eq_false_iff, ne_eq, h.contains_iff hq]
      rintro ⟨w, hw, hperm⟩
      exact hnone w hw hperm
  ordered := by
    rw [unresolved, Names.distinct_filter]
    exact (Names.pairwise_distinct_map (fun q : Permutation => q.typeName u.suffix)
      (references u.wrappers)).sublist List.filter_sublist

/-- The name of a successor is listed exactly if no wrapper is for it. -/
theorem Finds.mem_unresolved_iff (h : Finds u.wrappers u.suffix) {q : Permutation}
    (hq : q ∈ references u.wrappers) :
    q.typeName u.suffix ∈ u.unresolved ↔ ∀ w ∈ u.wrappers, w.permutation ≠ q := by
  rw [unresolved, Names.mem_distinct, List.mem_filter, List.mem_map, Bool.not_eq_true',
    Bool.eq_false_iff, ne_eq, h.contains_iff hq]
  simp only [not_exists, not_and]
  exact and_iff_right ⟨q, hq, rfl⟩

/-- **Nothing dangles exactly if the wrappers are closed under their transitions.** -/
theorem Finds.unresolved_eq_nil_iff (h : Finds u.wrappers u.suffix) :
    u.unresolved = [] ↔
      ∀ w ∈ u.wrappers, ∀ q ∈ successors w, ∃ next ∈ u.wrappers, next.permutation = q := by
  rw [CompilationUnit.unresolved_eq_nil_iff]
  exact forall₂_congr fun w hw => forall₂_congr fun q hq =>
    h.contains_iff (mem_references.mpr ⟨w, hw, hq⟩)

/-- **A transition member leads to the wrapper of its successor, or its successor is listed.** -/
theorem Finds.successorOf (h : Finds u.wrappers u.suffix) {w : Wrapper} (hw : w ∈ u.wrappers)
    {x : Member} (hx : x ∈ w.members) {q : Permutation} {type : String} {targets : List String}
    (hr : x.result = .transition q type targets) :
    (∀ e, u.successorOf x = .error e ↔ q.typeName u.suffix ∈ u.unresolved ∧
      e = .missing (.wrapper (q.typeName u.suffix))) ∧
    (q.typeName u.suffix ∉ u.unresolved →
      ∃ next ∈ u.wrappers, u.successorOf x = .ok next ∧ next.permutation = q) := by
  have hq : q ∈ references u.wrappers :=
    mem_references.mpr ⟨w, hw, mem_successors.mpr ⟨x, hx, type, targets, hr⟩⟩
  have hget : u.successorOf x = u.get (q.typeName u.suffix) := by
    rw [CompilationUnit.successorOf, hr]; rfl
  by_cases hlisted : q.typeName u.suffix ∈ u.unresolved
  · have hnone := (h.mem_unresolved_iff hq).mp hlisted
    have hmissing := get_eq_error_iff.mpr fun v hv hname =>
      hnone v hv (h.permutation v hv q hq hname)
    rw [hget, hmissing]
    exact ⟨fun e => by simp [hlisted, eq_comm], fun hnot => absurd hlisted hnot⟩
  · have hsome := mt (h.mem_unresolved_iff hq).mpr hlisted
    push Not at hsome
    obtain ⟨next, hnext, rfl⟩ := hsome
    have hfound := get_eq_ok_iff.mpr ⟨hnext, h.named next hnext⟩
    rw [hget, hfound]
    exact ⟨fun e => by simp [hlisted], fun _ => ⟨next, hnext, rfl, rfl⟩⟩

end CompilationUnit

open CompilationUnit

namespace Expands

variable {settings : Settings} {registry : Registry} {entity : Entity} {m : GroupMap}
  {unit : CompilationUnit} {part : List Wrapper}

/-- **Some of the wrappers find what they refer to,** as the names in the whole unit differ. -/
theorem finds_of_subset (h : Expands settings registry entity m unit)
    (hpart : ∀ w ∈ part, w ∈ unit.wrappers) : Finds part unit.suffix where
  named w hw := h.typeName_eq (hpart w hw)
  permutation w hw q hq hname := by
    obtain ⟨v, hv, hq⟩ := List.mem_flatMap.mp hq
    obtain ⟨x, hx, type, targets, hr⟩ := mem_successors.mp hq
    obtain ⟨before, next, after, hsplit, -, rfl, -⟩ := h.successor (hpart v hv) hx hr
    have hnext : next ∈ unit.wrappers := by simp [hsplit]
    rw [← h.typeName_eq hnext] at hname
    rw [eq_of_typeName (hpart w hw) hnext hname]

end Expands

/-- **Some of the wrappers of a unit,** each once and in any order, make a unit. It lists exactly
the names of the successors that none of its wrappers is for, in the order of first reference, and
so none exactly if its wrappers are closed under their transitions. A transition member leads to the
wrapper of its successor, unless the successor is listed; then the look-up fails with its name. -/
theorem partial_unit_lists_dangling {settings : Settings} {registry : Registry} {entity : Entity}
    {unit : CompilationUnit} (h : generate settings registry entity = .ok unit)
    {part : List Wrapper} (hpart : ∀ w ∈ part, w ∈ unit.wrappers) (hnodup : part.Nodup) :
    ∃ u, make entity part unit.suffix = .ok u ∧ u.wrappers = part ∧
      (∀ names, Dangling part unit.suffix names ↔ names = u.unresolved) ∧
      (u.unresolved = [] ↔
        ∀ w ∈ part, ∀ q ∈ successors w, ∃ next ∈ part, next.permutation = q) ∧
      ∀ w ∈ part, ∀ x ∈ w.members, ∀ q type targets, x.result = .transition q type targets →
        (∀ e, u.successorOf x = .error e ↔ q.typeName unit.suffix ∈ u.unresolved ∧
          e = .missing (.wrapper (q.typeName unit.suffix))) ∧
        (q.typeName unit.suffix ∉ u.unresolved →
          ∃ next ∈ part, u.successorOf x = .ok next ∧ next.permutation = q) := by
  obtain ⟨m, he⟩ := generate_eq_ok_iff.mp h
  have hnames : (part.map (·.typeName)).Nodup := hnodup.map_on fun w hw v hv =>
    eq_of_typeName (hpart w hw) (hpart v hv)
  have hfinds : Finds (CompilationUnit.mk entity part unit.suffix hnames).wrappers unit.suffix :=
    he.finds_of_subset hpart
  refine ⟨_, make_eq_ok hnames, rfl,
    fun names => ⟨fun hd => hd.unique hfinds.dangling_unresolved, ?_⟩, hfinds.unresolved_eq_nil_iff,
    fun w hw x hx q type targets hr => hfinds.successorOf hw hx hr⟩
  rintro rfl
  exact hfinds.dangling_unresolved

/-- The lamp that is on and low, and the one that is off and low. -/
def lampLow : List Wrapper :=
  [lampAssembler.expected ⟨["On", "Low"]⟩, lampAssembler.expected ⟨["Off", "Low"]⟩]

/-- Turning the low lamp on and off stays among the two, and raising it leads out of them. -/
theorem partial_unit_lists_dangling_lamp :
    generate {} Registry.builtin lamp = .ok lampUnit ∧ (∀ w ∈ lampLow, w ∈ lampUnit.wrappers) ∧
      lampLow.Nodup ∧ Dangling lampLow "State" ["OnHighState"] := by
  have hpart : ∀ w ∈ lampLow, w ∈ lampUnit.wrappers := by decide
  have hnodup : lampLow.Nodup := by decide
  obtain ⟨u, hu, -, hdangling, -⟩ := partial_unit_lists_dangling generate_lamp hpart hnodup
  refine ⟨generate_lamp, hpart, hnodup, (hdangling _).mpr ?_⟩
  cases hu
  rfl

end Typestate
