/-! # Lists of names

Names come in lists whose order matters and in which repetition is often a fault.

* `distinct`: each name once, where it first occurs.
* `repeated`: the names that occur at least twice, each once, in the order of first occurrence.
* `collect`: labelled items gathered by label, labels in the order of first occurrence.
* `NameSet`: a set of names as its increasing list; `NameSet.ofList` is the only way to make one,
  so two sets with the same members are equal. -/

namespace Typestate.Names

/-- Each name once, where it first occurs. -/
def distinct : List String → List String
  | [] => []
  | s :: rest => s :: (distinct rest).filter (· ≠ s)

/-- The names that occur at least twice, in the order of first occurrence. -/
def repeated (names : List String) : List String :=
  distinct (names.filter fun s => 1 < names.count s)

/-- The items under each label, labels in the order of first occurrence. -/
def collect {α : Type} (items : List (String × α)) : List (String × List α) :=
  (distinct (items.map (·.1))).map fun label =>
    (label, (items.filter fun item => item.1 = label).map (·.2))

/-- **Nothing is lost and nothing added.** -/
theorem mem_distinct {s : String} {names : List String} : s ∈ distinct names ↔ s ∈ names := by
  induction names with
  | nil => simp [distinct]
  | cons t rest ih =>
    by_cases h : s = t <;> simp [distinct, ih, h]

theorem nodup_distinct (names : List String) : (distinct names).Nodup := by
  induction names with
  | nil => simp [distinct]
  | cons s rest ih =>
    simp only [distinct, List.nodup_cons, List.mem_filter, decide_eq_true_eq]
    exact ⟨fun h => h.2 rfl, ih.filter _⟩

/-- **A list without repetition is left as it is.** -/
theorem distinct_of_nodup {names : List String} (h : names.Nodup) : distinct names = names := by
  induction names with
  | nil => rfl
  | cons s rest ih =>
    obtain ⟨hs, hr⟩ := List.nodup_cons.1 h
    rw [distinct, ih hr, List.filter_eq_self.2]
    intro t ht
    simpa using fun (e : t = s) => hs (e ▸ ht)

theorem mem_repeated {s : String} {names : List String} :
    s ∈ repeated names ↔ 1 < names.count s := by
  rw [repeated, mem_distinct, List.mem_filter, decide_eq_true_eq]
  exact ⟨fun h => h.2, fun h => ⟨List.count_pos_iff.1 (by omega), h⟩⟩

/-- **With different labels, what is found under a label is what it is the label of.** -/
theorem lookup_eq_some_iff_mem {α : Type} {items : List (String × α)} (h : (items.map (·.1)).Nodup)
    {label : String} {x : α} : items.lookup label = some x ↔ (label, x) ∈ items := by
  induction items with
  | nil => simp
  | cons item rest ih =>
    obtain ⟨first, y⟩ := item
    rw [List.map_cons, List.nodup_cons] at h
    rw [List.lookup_cons, List.mem_cons, Prod.mk.injEq]
    by_cases hlabel : label = first
    · subst hlabel
      have hnot : (label, x) ∉ rest := fun hmem => h.1 (List.mem_map.mpr ⟨_, hmem, rfl⟩)
      simp [hnot, eq_comm]
    · simp [hlabel, beq_false_of_ne hlabel, ih h.2]

/-! ### Sets of names -/

theorem lt_of_not_lt {s t : String} (h : ¬ s < t) (hne : s ≠ t) : t < s := by
  rcases Decidable.em (t < s) with h' | h'
  · exact h'
  · exact absurd (String.le_antisymm (String.not_lt.1 h') (String.not_lt.1 h)) hne

/-- A name put into an increasing list. -/
def insertSorted (s : String) : List String → List String
  | [] => [s]
  | t :: rest =>
    if s = t then t :: rest
    else if s < t then s :: t :: rest
    else t :: insertSorted s rest

theorem mem_insertSorted {s x : String} {names : List String} :
    x ∈ insertSorted s names ↔ x = s ∨ x ∈ names := by
  induction names with
  | nil => simp [insertSorted]
  | cons t rest ih =>
    unfold insertSorted
    split
    · next h => simp [h]
    split
    · simp
    · simp only [List.mem_cons, ih]
      constructor
      · rintro (h | h | h) <;> simp [h]
      · rintro (h | h | h) <;> simp [h]

theorem pairwise_insertSorted {s : String} {names : List String} (h : names.Pairwise (· < ·)) :
    (insertSorted s names).Pairwise (· < ·) := by
  induction names with
  | nil => simp [insertSorted]
  | cons t rest ih =>
    obtain ⟨ht, hr⟩ := List.pairwise_cons.1 h
    unfold insertSorted
    split
    · exact h
    · next hne =>
      split
      · next hlt =>
        refine List.pairwise_cons.2 ⟨fun x hx => ?_, h⟩
        rcases List.mem_cons.1 hx with rfl | hx
        · exact hlt
        · exact String.lt_trans hlt (ht x hx)
      · next hlt =>
        refine List.pairwise_cons.2 ⟨fun x hx => ?_, ih hr⟩
        rcases mem_insertSorted.1 hx with rfl | hx
        · exact lt_of_not_lt hlt hne
        · exact ht x hx

/-- The names in increasing order, each once. -/
def sorted : List String → List String
  | [] => []
  | s :: rest => insertSorted s (sorted rest)

theorem mem_sorted {s : String} {names : List String} : s ∈ sorted names ↔ s ∈ names := by
  induction names with
  | nil => simp [sorted]
  | cons t rest ih => simp [sorted, mem_insertSorted, ih]

theorem pairwise_sorted (names : List String) : (sorted names).Pairwise (· < ·) := by
  induction names with
  | nil => simp [sorted]
  | cons s rest ih => exact pairwise_insertSorted ih

end Typestate.Names

namespace Typestate

/-- A finite set of names, as its increasing list. -/
structure NameSet where
  toList : List String
  increasing : toList.Pairwise (· < ·)
deriving DecidableEq

namespace NameSet

/-- The set of the names in a list. -/
def ofList (names : List String) : NameSet := ⟨Names.sorted names, Names.pairwise_sorted names⟩

theorem mem_ofList {s : String} {names : List String} :
    s ∈ (ofList names).toList ↔ s ∈ names := Names.mem_sorted

end NameSet
end Typestate
