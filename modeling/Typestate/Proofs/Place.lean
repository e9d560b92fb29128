import Typestate.Group
import Typestate.Permutation
import Mathlib.Data.List.Nodup

/-! # The place of a state

A state belongs to a group, and the group has a position in every permutation; this position is the
place of the state. Moving to a state puts it at its place and leaves the rest alone.

* `GroupMap.place?`: the position of the first group that declares a state. The look-up by the name
  of the group comes to the same (`indexOf?_of_groupOf?`). If no state name is repeated, it is the
  position of the only group that does (`place?_eq_some_iff`).
* `GroupMap.Fits`: the permutations that have a state of each group, in the order of the groups.
* `GroupMap.put`: a permutation with a state put at its place; `Fits` is kept (`fits_put`).
* `GroupMap.Lands`: what it means that several states were put at their places. If they do not
  compete for one place (`Agree`), neither their order nor their repetition matters
  (`foldl_put_congr`). -/

namespace Typestate.GroupMap

variable (m : GroupMap)

/-- The position of the first group that declares a state. -/
def place? (state : String) : Option Nat := m.groups.findIdx? fun g => state ∈ g.states

/-- One state of each group, in the order of the groups. -/
structure Fits (p : Permutation) : Prop where
  size : p.states.length = m.groups.length
  mem : ∀ i s, p.states[i]? = some s → ∃ h : i < m.groups.length, s ∈ m.groups[i].states

/-- The permutation with a state at its place; a state that no group declares changes nothing. -/
def put (p : Permutation) (state : String) : Permutation :=
  match m.place? state with
  | some i => ⟨p.states.set i state⟩
  | none => p

/-- No two of the states have one place. -/
def Agree (states : List String) : Prop :=
  ∀ s ∈ states, ∀ t ∈ states, ∀ i, m.place? s = some i → m.place? t = some i → s = t

/-- `q` is `p` with the states at their places. -/
structure Lands (p : Permutation) (states : List String) (q : Permutation) : Prop where
  size : q.states.length = p.states.length
  moved : ∀ s ∈ states, ∀ i, m.place? s = some i → q.states[i]? = some s
  kept : ∀ i, (∀ s ∈ states, m.place? s ≠ some i) → q.states[i]? = p.states[i]?

variable {m}

/-! ### The place and the group -/

theorem mem_of_place? {s : String} {i : Nat} (h : m.place? s = some i) :
    ∃ h : i < m.groups.length, s ∈ m.groups[i].states := by
  obtain ⟨hi, hs, -⟩ := List.findIdx?_eq_some_iff_getElem.mp h
  exact ⟨hi, by simpa using hs⟩

/-- **With unique state names a state has the place of the only group that declares it.** -/
theorem place?_eq_some_iff (hu : m.allStates.Nodup) {s : String} {i : Nat} :
    m.place? s = some i ↔ ∃ h : i < m.groups.length, s ∈ m.groups[i].states := by
  refine ⟨mem_of_place?, fun ⟨hi, hs⟩ => ?_⟩
  refine List.findIdx?_eq_some_iff_getElem.mpr ⟨hi, by simpa using hs, fun j hj => ?_⟩
  have hd := List.pairwise_iff_getElem.mp (List.nodup_flatMap.mp hu).2 j i (by omega) hi hj
  simp only [decide_eq_true_eq]
  exact fun hs' => hd hs' hs

theorem groupOf?_eq_some_iff {s name : String} :
    m.groupOf? s = some name ↔
      ∃ i, ∃ h : i < m.groups.length, m.place? s = some i ∧ m.groups[i].name = name := by
  rw [groupOf?, List.find?_eq_bind_findIdx?_getElem?]
  change ((m.place? s).bind fun i => m.groups[i]?).map (·.name) = some name ↔ _
  constructor
  · intro h
    obtain ⟨g, hg, rfl⟩ := Option.map_eq_some_iff.mp h
    obtain ⟨i, hi, hgi⟩ := Option.bind_eq_some_iff.mp hg
    obtain ⟨hlt, rfl⟩ := List.getElem?_eq_some_iff.mp hgi
    exact ⟨i, hlt, hi, rfl⟩
  · rintro ⟨i, hlt, hi, rfl⟩
    rw [hi, Option.bind_some, List.getElem?_eq_getElem hlt]
    rfl

theorem indexOf?_name {i : Nat} (h : i < m.groups.length) :
    m.indexOf? m.groups[i].name = some i := by
  refine List.findIdx?_eq_some_iff_getElem.mpr ⟨h, by simp, fun j hj => ?_⟩
  have hne := List.pairwise_iff_getElem.mp m.distinctNames j i (by simp; omega) (by simpa) hj
  simpa using hne

/-- **The group that is found for a state stands at the place of the state.** -/
theorem indexOf?_of_groupOf? {s name : String} (h : m.groupOf? s = some name) :
    m.indexOf? name = m.place? s := by
  obtain ⟨i, hlt, hi, rfl⟩ := groupOf?_eq_some_iff.mp h
  rw [indexOf?_name hlt, hi]

/-- Two declared states have one group exactly if they have one place. -/
theorem place?_eq_of_groupOf?_eq {s t name : String} (hs : m.groupOf? s = some name)
    (ht : m.groupOf? t = some name) : m.place? s = m.place? t := by
  rw [← indexOf?_of_groupOf? hs, ← indexOf?_of_groupOf? ht]

/-- **With unique state names, states agree if no two different ones belong to one group.** -/
theorem agree_iff (hu : m.allStates.Nodup) {states : List String} :
    m.Agree states ↔ ∀ g ∈ m.groups, ∀ s ∈ states, ∀ t ∈ states,
      s ∈ g.states → t ∈ g.states → s = t := by
  constructor
  · intro h g hg s hs t ht hsg htg
    obtain ⟨i, hi, rfl⟩ := List.getElem_of_mem hg
    exact h s hs t ht i ((place?_eq_some_iff hu).mpr ⟨hi, hsg⟩)
      ((place?_eq_some_iff hu).mpr ⟨hi, htg⟩)
  · intro h s hs t ht i hsi hti
    obtain ⟨hi, hsg⟩ := mem_of_place? hsi
    exact h _ (List.getElem_mem hi) s hs t ht hsg (mem_of_place? hti).2

/-! ### Putting states at their places -/

theorem size_put (p : Permutation) (s : String) : (m.put p s).states.length = p.states.length := by
  unfold put
  split <;> simp

theorem getElem?_put (p : Permutation) (s : String) (i : Nat) :
    (m.put p s).states[i]? =
      if m.place? s = some i ∧ i < p.states.length then some s else p.states[i]? := by
  unfold put
  cases hs : m.place? s with
  | none => simp
  | some k =>
    simp only [Option.some.injEq, List.getElem?_set]
    by_cases hk : k = i
    · subst hk
      by_cases hlt : k < p.states.length
      · simp [hlt]
      · simp [hlt]
    · simp [hk]

/-- **A state put at its place leaves one state of each group.** -/
theorem fits_put {p : Permutation} (h : m.Fits p) (s : String) : m.Fits (m.put p s) := by
  refine ⟨by rw [size_put, h.size], fun i t ht => ?_⟩
  rw [getElem?_put] at ht
  split at ht
  · next hi =>
    cases ht
    exact mem_of_place? hi.1
  · exact h.mem i t ht

theorem fits_foldl_put {p : Permutation} (h : m.Fits p) (states : List String) :
    m.Fits (states.foldl m.put p) := by
  induction states generalizing p with
  | nil => exact h
  | cons s rest ih => exact ih (fits_put h s)

theorem size_foldl_put (p : Permutation) (states : List String) :
    (states.foldl m.put p).states.length = p.states.length := by
  induction states generalizing p with
  | nil => rfl
  | cons s rest ih => exact (ih (m.put p s)).trans (size_put p s)

/-- **There is one permutation at most with given states at their places.** -/
theorem Lands.unique {p q q' : Permutation} {states states' : List String}
    (h : m.Lands p states q) (h' : m.Lands p states' q')
    (hmem : ∀ s, s ∈ states ↔ s ∈ states') : q = q' := by
  have hs : q.states = q'.states := by
    refine List.ext_getElem? fun i => ?_
    by_cases hi : ∃ s ∈ states, m.place? s = some i
    · obtain ⟨s, hs, hsi⟩ := hi
      rw [h.moved s hs i hsi, h'.moved s ((hmem s).mp hs) i hsi]
    · have hnone : ∀ s ∈ states, m.place? s ≠ some i := fun s hs hsi => hi ⟨s, hs, hsi⟩
      rw [h.kept i hnone, h'.kept i fun s hs => hnone s ((hmem s).mpr hs)]
  cases q
  cases q'
  simpa using hs

/-- **States that agree land, whatever the order in which they are put.** -/
theorem lands_foldl_put {states : List String} (ha : m.Agree states) {p : Permutation}
    (hp : p.states.length = m.groups.length) : m.Lands p states (states.foldl m.put p) := by
  induction states generalizing p with
  | nil => exact ⟨rfl, by simp, fun _ _ => rfl⟩
  | cons t rest ih =>
    have ha' : m.Agree rest := fun s hs u hu =>
      ha s (List.mem_cons_of_mem t hs) u (List.mem_cons_of_mem t hu)
    have hrest := ih ha' (p := m.put p t) (by rw [size_put, hp])
    refine ⟨size_foldl_put p (t :: rest), fun s hs i hsi => ?_, fun i hi => ?_⟩
    · by_cases hmem : s ∈ rest
      · exact hrest.moved s hmem i hsi
      -- no later state takes the place of `t`, since it would have to be `t` itself
      have hst : s = t := (List.mem_cons.mp hs).resolve_right hmem
      subst hst
      have hnone : ∀ u ∈ rest, m.place? u ≠ some i := fun u hu hui =>
        hmem (ha s (by simp) u (List.mem_cons_of_mem s hu) i hsi hui ▸ hu)
      obtain ⟨hlt, -⟩ := mem_of_place? hsi
      rw [List.foldl_cons, hrest.kept i hnone, getElem?_put, if_pos ⟨hsi, by omega⟩]
    · have ht : m.place? t ≠ some i := hi t (by simp)
      rw [List.foldl_cons, hrest.kept i fun u hu => hi u (List.mem_cons_of_mem t hu), getElem?_put,
        if_neg fun h => ht h.1]

theorem Agree.congr {states states' : List String} (ha : m.Agree states)
    (hmem : ∀ s, s ∈ states ↔ s ∈ states') : m.Agree states' := fun s hs t ht =>
  ha s ((hmem s).mpr hs) t ((hmem t).mpr ht)

/-- **Neither order nor repetition of states that agree matters.** -/
theorem foldl_put_congr {states states' : List String} (ha : m.Agree states)
    (hmem : ∀ s, s ∈ states ↔ s ∈ states') {p : Permutation}
    (hp : p.states.length = m.groups.length) : states.foldl m.put p = states'.foldl m.put p :=
  (lands_foldl_put ha hp).unique (lands_foldl_put (ha.congr hmem) hp) hmem

end Typestate.GroupMap
