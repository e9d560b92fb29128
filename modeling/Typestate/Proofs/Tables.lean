import Typestate.Proofs.Declared

/-! # Look-up tables

Groups and wrappers can be looked up in tables, which are filled entry by entry in a loop over the
groups or the wrappers. What is found in such a table is what a search through the groups or the
wrappers themselves finds.

* `Table.put`: an entry that replaces an earlier one with its key; `Table.keep`: one that does not.
* `Table.lookup_foldl_put`, `Table.lookup_foldl_keep`: of the entries with one key the last one is
  found, or the first one.
* `GroupMap.owners`, `GroupMap.positions`, `GroupMap.byName`, `CompilationUnit.byName`: the tables,
  each with what is found in it.
* `GroupMap.countedTwice`: the repeated states, by counting all states first. -/

namespace Typestate

namespace Table

variable {α β : Type}

/-- The table with the entry in the place of an earlier one with its key, or else behind the
others. -/
def put : List (String × α) → String × α → List (String × α)
  | [], entry => [entry]
  | (key, x) :: rest, entry =>
    if key = entry.1 then (key, entry.2) :: rest else (key, x) :: put rest entry

/-- The table with the entry behind the others, unless there is one with its key. -/
def keep (table : List (String × α)) (entry : String × α) : List (String × α) :=
  if (table.lookup entry.1).isSome then table else table ++ [entry]

/-! ### Single entries -/

theorem lookup_put (table : List (String × α)) (entry : String × α) (k : String) :
    (put table entry).lookup k = ([entry].lookup k).or (table.lookup k) := by
  obtain ⟨label, y⟩ := entry
  induction table with
  | nil => simp [put]
  | cons first rest ih =>
    obtain ⟨key, x⟩ := first
    by_cases hkey : key = label
    · subst hkey
      by_cases hk : k = key
      · simp [put, hk]
      · simp [put, List.lookup_cons, beq_false_of_ne hk]
    · by_cases hk : k = key
      · subst hk
        simp [put, hkey, List.lookup_cons, beq_false_of_ne hkey]
      · simp [put, hkey, ih, List.lookup_cons, beq_false_of_ne hk]

theorem lookup_keep (table : List (String × α)) (entry : String × α) (k : String) :
    (keep table entry).lookup k = (table.lookup k).or ([entry].lookup k) := by
  obtain ⟨label, y⟩ := entry
  unfold keep
  split
  · next h =>
    by_cases hk : k = label
    · subst hk
      obtain ⟨x, hx⟩ := Option.isSome_iff_exists.mp h
      simp [hx]
    · simp [List.lookup_cons, beq_false_of_ne hk]
  · rw [List.lookup_append]

/-! ### Loops -/

/-- **Of the entries with one key the last one is found.** -/
theorem lookup_foldl_put (entries table : List (String × α)) (k : String) :
    (entries.foldl put table).lookup k = (entries.reverse.lookup k).or (table.lookup k) := by
  induction entries generalizing table with
  | nil => rfl
  | cons entry rest ih =>
    rw [List.foldl_cons, ih, lookup_put, List.reverse_cons, List.lookup_append, Option.or_assoc]

/-- **Of the entries with one key the first one is found.** -/
theorem lookup_foldl_keep (entries table : List (String × α)) (k : String) :
    (entries.foldl keep table).lookup k = (table.lookup k).or (entries.lookup k) := by
  induction entries generalizing table with
  | nil => simp
  | cons entry rest ih =>
    rw [List.foldl_cons, ih, lookup_keep, Option.or_assoc, ← List.lookup_append]
    rfl

/-- Entries made of items are looked up like the items. -/
theorem lookup_map (key : β → String) (f : β → α) (items : List β) (k : String) :
    (items.map fun x => (key x, f x)).lookup k = (items.find? fun x => key x = k).map f := by
  induction items with
  | nil => rfl
  | cons x rest ih =>
    by_cases hk : k = key x
    · simp [hk]
    · simp [List.lookup_cons, beq_false_of_ne hk, Ne.symm hk, ih]

/-- Names with one value in common all have it. -/
theorem lookup_map_const (names : List String) (x : α) (k : String) :
    (names.map fun s => (s, x)).lookup k = if k ∈ names then some x else none := by
  induction names with
  | nil => rfl
  | cons s rest ih =>
    by_cases hk : k = s
    · simp [hk]
    · simp [List.lookup_cons, beq_false_of_ne hk, hk, ih]

/-- **A table of items with different keys is searched like the items.** -/
theorem lookup_foldl_put_map {key : β → String} (f : β → α) {items : List β}
    (h : (items.map key).Nodup) (k : String) :
    (items.foldl (fun table x => put table (key x, f x)) []).lookup k =
      (items.find? fun x => key x = k).map f := by
  have hnodup : ((items.map fun x => (key x, f x)).map (·.1)).Nodup := by rwa [List.map_map]
  have hreverse : ((items.map fun x => (key x, f x)).reverse.map (·.1)).Nodup := by
    rw [List.map_reverse]
    exact List.nodup_reverse.mpr hnodup
  rw [← lookup_map, ← List.foldl_map, lookup_foldl_put, List.lookup_nil, Option.or_none]
  refine Option.ext fun x => ?_
  rw [Names.lookup_eq_some_iff_mem hreverse, Names.lookup_eq_some_iff_mem hnodup, List.mem_reverse]

/-! ### Counting -/

/-- How often each name was met. -/
def count (table : List (String × Nat)) (s : String) : List (String × Nat) :=
  put table (s, (table.lookup s).getD 0 + 1)

theorem getD_lookup_count (table : List (String × Nat)) (s t : String) :
    ((count table s).lookup t).getD 0 = (table.lookup t).getD 0 + [s].count t := by
  rw [count, lookup_put]
  by_cases h : t = s
  · simp [h]
  · simp [List.lookup_cons, beq_false_of_ne h, Ne.symm h]

/-- **The loop counts each name.** -/
theorem getD_lookup_foldl_count (names : List String) (table : List (String × Nat)) (t : String) :
    ((names.foldl count table).lookup t).getD 0 = (table.lookup t).getD 0 + names.count t := by
  induction names generalizing table with
  | nil => simp
  | cons s rest ih =>
    rw [List.foldl_cons, ih, getD_lookup_count, Nat.add_assoc, ← List.count_append]
    rfl

/-- Leaving out a name as well that is left out already. -/
theorem filter_distinct_cons (s : String) (names seen : List String) :
    (Names.distinct (s :: names)).filter (fun t => !seen.contains t) =
      (if s ∈ seen then [] else [s]) ++
        (Names.distinct names).filter fun t => !(seen ++ [s]).contains t := by
  rw [Names.distinct, List.filter_cons, List.filter_filter]
  have htail : ((Names.distinct names).filter fun t => !seen.contains t && decide (t ≠ s)) =
      (Names.distinct names).filter fun t => !(seen ++ [s]).contains t :=
    List.filter_congr fun t _ => by simp
  rw [htail]
  by_cases hs : s ∈ seen <;> simp [hs]

/-- **The loop lists the names with the property**, each once, where it first occurs. -/
theorem foldl_seen (p : String → Bool) (names seen : List String) :
    names.foldl (fun seen s => if p s && !seen.contains s then seen ++ [s] else seen) seen =
      seen ++ (Names.distinct (names.filter p)).filter fun s => !seen.contains s := by
  induction names generalizing seen with
  | nil => simp [Names.distinct]
  | cons s rest ih =>
    rw [List.foldl_cons, ih, List.filter_cons]
    cases hp : p s with
    | false => simp
    | true =>
      simp only [Bool.true_and, if_true, filter_distinct_cons]
      by_cases hs : s ∈ seen
      · -- the name is left out behind those that were met before, as it was already
        have hskip : (fun t => !(seen ++ [s]).contains t) = fun t => !seen.contains t := by
          funext t
          by_cases ht : t = s <;> simp [ht, hs]
        rw [hskip]
        simp [hs]
      · simp [hs]

end Table

/-! ### Groups -/

namespace GroupMap

variable (m : GroupMap)

/-- The groups by their names. -/
def byName : List (String × StateGroup) :=
  m.groups.foldl (fun table g => Table.put table (g.name, g)) []

/-- The positions of the groups by their names. -/
def positions : List (String × Nat) :=
  m.groups.zipIdx.foldl (fun table e => Table.put table (e.1.name, e.2)) []

/-- For each state the first group that declares it. -/
def owners : List (String × String) :=
  m.groups.foldl
    (fun table g => g.states.foldl (fun table s => Table.keep table (s, g.name)) table) []

/-- The states that were counted more than once, in the order in which they are met. -/
def countedTwice : List String :=
  let counts := m.allStates.foldl Table.count []
  m.groups.foldl (fun seen g => g.states.foldl (fun seen s =>
    if 1 < (counts.lookup s).getD 0 && !seen.contains s then seen ++ [s] else seen) seen) []

/-- **The table by names finds the group of a name.** -/
theorem lookup_byName (name : String) : m.byName.lookup name = m.find? name := by
  simpa [byName, find?] using Table.lookup_foldl_put_map id m.distinctNames name

/-- The position of the first item with the property, in a list that is numbered from some number
on. -/
theorem find?_zipIdx {α : Type} (p : α → Bool) (items : List α) (n : Nat) :
    ((items.zipIdx n).find? fun e => p e.1).map (·.2) = (items.findIdx? p).map (· + n) := by
  induction items generalizing n with
  | nil => rfl
  | cons x rest ih =>
    rw [List.zipIdx_cons, List.find?_cons, List.findIdx?_cons]
    cases hx : p x with
    | true => simp
    | false =>
      simp only [ih, Bool.false_eq_true, if_false, Option.map_map]
      congr 1
      funext i
      simp only [Function.comp_apply]
      omega

/-- **The table of positions finds the position of a group.** -/
theorem lookup_positions (name : String) : m.positions.lookup name = m.indexOf? name := by
  have hmap : (m.groups.zipIdx.map fun e => e.1.name) = m.groups.map (·.name) := by
    conv_rhs => rw [← List.zipIdx_map_fst 0 m.groups, List.map_map]
    rfl
  have hnodup : (m.groups.zipIdx.map fun e => e.1.name).Nodup := hmap ▸ m.distinctNames
  have h := find?_zipIdx (fun g : StateGroup => decide (g.name = name)) m.groups 0
  rw [positions, Table.lookup_foldl_put_map (fun e : StateGroup × Nat => e.2) hnodup, h, indexOf?]
  simp

/-- The two loops over groups and states are one loop over the states with their groups. -/
theorem owners_eq_foldl :
    m.owners =
      (m.groups.flatMap fun g => g.states.map fun s => (s, g.name)).foldl Table.keep [] := by
  rw [List.foldl_flatMap]
  simp only [List.foldl_map]
  rfl

/-- **The table of owners finds the first group that declares a state.** -/
theorem lookup_owners (s : String) : m.owners.lookup s = m.groupOf? s := by
  rw [owners_eq_foldl, Table.lookup_foldl_keep, List.lookup_nil, Option.none_or, groupOf?]
  induction m.groups with
  | nil => rfl
  | cons g rest ih =>
    rw [List.flatMap_cons, List.lookup_append, ih, Table.lookup_map_const, List.find?_cons]
    by_cases hs : s ∈ g.states <;> simp [hs]

/-- **Counting first lists the repeated states.** -/
theorem countedTwice_eq : m.countedTwice = m.duplicateStates := by
  have hcount : ∀ s, (((m.allStates.foldl Table.count []).lookup s).getD 0) = m.allStates.count s :=
    fun s => by simp [Table.getD_lookup_foldl_count]
  have hseen := Table.foldl_seen (fun s => decide (1 < m.allStates.count s)) m.allStates []
  rw [allStates, List.foldl_flatMap] at hseen
  simp only [countedTwice, hcount]
  exact (hseen.trans (List.nil_append _)).trans (List.filter_eq_self.mpr fun _ _ => rfl)

end GroupMap

/-! ### Wrappers -/

namespace CompilationUnit

variable (u : CompilationUnit)

/-- The wrappers by the names of their types. -/
def byName : List (String × Wrapper) :=
  u.wrappers.foldl (fun table w => Table.put table (w.typeName, w)) []

/-- **The table by names finds the wrapper of a name.** -/
theorem lookup_byName (typeName : String) : u.byName.lookup typeName = u.find? typeName := by
  simpa [byName, find?] using Table.lookup_foldl_put_map id u.distinctNames typeName

end CompilationUnit

end Typestate
