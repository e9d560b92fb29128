import Typestate.Resolution
import Typestate.Proofs.Outcome
import Typestate.Proofs.Place

/-! # Moving to targets

The resolver sorts targets by group, looks up the position of each group, and replaces the state
there. The look-ups never fail, and the outcome is the permutation with every target at its place:

* `mem_byGroup`: an entry holds the targets of one group, in their order.
* `moveTo_eq`: the replacements, group after group, are `GroupMap.put` for one target after another.
* `moveToTargets_eq_ok_iff`: moving succeeds exactly if every target is declared and no two
  different ones have one place. -/

namespace Typestate

/-- **An entry of a table holds the items of its label.** -/
theorem Names.mem_collect {α : Type} {items : List (String × α)} {e : String × List α} :
    e ∈ collect items ↔ (∃ item ∈ items, item.1 = e.1) ∧
      e.2 = (items.filter fun item => item.1 = e.1).map (·.2) := by
  obtain ⟨label, xs⟩ := e
  simp only [collect, List.mem_map, mem_distinct, Prod.mk.injEq]
  constructor
  · rintro ⟨_, hmem, rfl, rfl⟩
    exact ⟨hmem, rfl⟩
  · rintro ⟨hmem, hxs⟩
    exact ⟨label, hmem, rfl, hxs.symm⟩

namespace Permutation

theorem position?_natCast {n i : Nat} (h : i < n) : position? n i = some i := by
  unfold position?
  rw [if_pos (by omega), if_pos (by omega), Int.toNat_natCast]

/-- The state at a position that is counted from the front. -/
theorem get_natCast_eq_ok_iff {p : Permutation} {i : Nat} {s : String} :
    p.get i = .ok s ↔ p.states[i]? = some s := by
  unfold get
  by_cases h : i < p.size
  · rw [position?_natCast h, Option.bind_some]
    cases p.states[i]? <;> simp
  · have hnone : p.states[i]? = none := List.getElem?_eq_none (Nat.not_lt.mp h)
    have hplace : position? p.size i = none := by
      unfold position?
      rw [if_pos (by omega), if_neg (by omega)]
    rw [hplace, hnone]
    simp

theorem replace_natCast {p : Permutation} {i : Nat} (h : i < p.states.length) (s : String) :
    p.replace i s = .ok ⟨p.states.set i s⟩ := by
  rw [replace, size, position?_natCast h]

end Permutation

namespace Resolver

variable (r : Resolver)

/-! ### Targets by group -/

theorem filter_group (targets : List String) (name : String) :
    ((targets.filterMap fun t => (r.groups.groupOf? t).map (·, t)).filter
      fun item => item.1 = name).map (·.2) =
      targets.filter fun t => r.groups.groupOf? t = some name := by
  induction targets with
  | nil => rfl
  | cons t rest ih =>
    cases h : r.groups.groupOf? t with
    | none => simpa [h] using ih
    | some g =>
      by_cases hg : g = name
      · simpa [h, hg] using ih
      · simpa [h, hg] using ih

theorem mem_byGroup {targets : List String} {e : String × List String} :
    e ∈ r.byGroup targets ↔ (∃ t ∈ targets, r.groups.groupOf? t = some e.1) ∧
      e.2 = targets.filter fun t => r.groups.groupOf? t = some e.1 := by
  rw [byGroup, Names.mem_collect, filter_group]
  refine and_congr_left fun _ => ⟨?_, ?_⟩
  · rintro ⟨item, hitem, he⟩
    obtain ⟨t, ht, h⟩ := List.mem_filterMap.mp hitem
    obtain ⟨g, hg, rfl⟩ := Option.map_eq_some_iff.mp h
    exact ⟨t, ht, by rw [hg]; exact congrArg some he⟩
  · rintro ⟨t, ht, h⟩
    exact ⟨(e.1, t), List.mem_filterMap.mpr ⟨t, ht, by rw [h]; rfl⟩, rfl⟩

theorem entry_mem_byGroup {targets : List String} {t name : String} (ht : t ∈ targets)
    (hname : r.groups.groupOf? t = some name) :
    (name, targets.filter fun t => r.groups.groupOf? t = some name) ∈ r.byGroup targets :=
  (mem_byGroup r).mpr ⟨⟨t, ht, hname⟩, rfl⟩

/-- Sorting by group loses no declared target and adds none. -/
theorem mem_flatMap_byGroup {targets : List String}
    (hd : ∀ t ∈ targets, r.groups.declares t = true) {s : String} :
    s ∈ (r.byGroup targets).flatMap (·.2) ↔ s ∈ targets := by
  rw [List.mem_flatMap]
  constructor
  · rintro ⟨e, he, hs⟩
    rw [((mem_byGroup r).mp he).2] at hs
    exact (List.mem_filter.mp hs).1
  · intro hs
    have h := hd s hs
    rw [← GroupMap.groupOf?_isSome, Option.isSome_iff_exists] at h
    obtain ⟨name, hname⟩ := h
    exact ⟨_, entry_mem_byGroup r hs hname, by simpa using ⟨hs, hname⟩⟩

/-- **No group gets two different targets exactly if the targets agree.** -/
theorem byGroup_length_le_one_iff {targets : List String} (hn : targets.Nodup) :
    (∀ e ∈ r.byGroup targets, e.2.length ≤ 1) ↔ r.groups.Agree targets := by
  constructor
  · intro h s hs t ht i hsi hti
    obtain ⟨hi, -⟩ := GroupMap.mem_of_place? hsi
    have hgs := GroupMap.groupOf?_eq_some_iff.mpr ⟨i, hi, hsi, rfl⟩
    have hgt := GroupMap.groupOf?_eq_some_iff.mpr ⟨i, hi, hti, rfl⟩
    have hle := h _ (entry_mem_byGroup r hs hgs)
    have hs' : s ∈ targets.filter fun u => r.groups.groupOf? u = some r.groups.groups[i].name := by
      simpa using ⟨hs, hgs⟩
    have ht' : t ∈ targets.filter fun u => r.groups.groupOf? u = some r.groups.groups[i].name := by
      simpa using ⟨ht, hgt⟩
    obtain ⟨a, ha⟩ := List.length_eq_one_iff.mp (Nat.le_antisymm hle (List.length_pos_of_mem hs'))
    simp only at ha
    rw [ha, List.mem_singleton] at hs' ht'
    rw [hs', ht']
  · intro h e he
    obtain ⟨-, he⟩ := (mem_byGroup r).mp he
    by_contra hlen
    obtain ⟨a, b, rest, hab⟩ : ∃ a b rest, e.2 = a :: b :: rest := by
      match e.2, hlen with
      | a :: b :: rest, _ => exact ⟨a, b, rest, rfl⟩
      | [], h => simp at h
      | [a], h => simp at h
    have hmem : ∀ t ∈ e.2, t ∈ targets ∧ r.groups.groupOf? t = some e.1 := fun t ht => by
      rw [he] at ht
      simpa using ht
    obtain ⟨ha, hga⟩ := hmem a (by simp [hab])
    obtain ⟨hb, hgb⟩ := hmem b (by simp [hab])
    obtain ⟨i, -, hi, -⟩ := GroupMap.groupOf?_eq_some_iff.mp hga
    have heq := h a ha b hb i hi (GroupMap.place?_eq_of_groupOf?_eq hga hgb ▸ hi)
    have hnodup : (a :: b :: rest).Nodup := by
      rw [← hab, he]
      exact hn.filter _
    exact (List.nodup_cons.mp hnodup).1 (by simp [heq])

/-! ### Replacing states -/

theorem foldlM_replace {p : Permutation} {i : Nat} (hi : i < p.states.length)
    {targets : List String} (ht : ∀ t ∈ targets, r.groups.place? t = some i) :
    targets.foldlM (fun q t => q.replace (i : Int) t) p = .ok (targets.foldl r.groups.put p) := by
  induction targets generalizing p with
  | nil => rfl
  | cons t rest ih =>
    have hput : p.replace i t = .ok (r.groups.put p t) := by
      rw [Permutation.replace_natCast hi, GroupMap.put, ht t (by simp)]
    rw [List.foldlM_cons, hput]
    exact ih (by rwa [GroupMap.size_put]) fun u hu => ht u (List.mem_cons_of_mem t hu)

/-- **Moving group after group puts one target after another.** -/
theorem moveTo_eq {p : Permutation} (hp : p.states.length = r.groups.groups.length)
    {entries : List (String × List String)}
    (he : ∀ e ∈ entries, ∃ i, r.groups.indexOf? e.1 = some i ∧
      ∀ t ∈ e.2, r.groups.place? t = some i) :
    r.moveTo p entries = .ok ((entries.flatMap (·.2)).foldl r.groups.put p) := by
  induction entries generalizing p with
  | nil => rfl
  | cons e rest ih =>
    obtain ⟨i, hi, ht⟩ := he e (by simp)
    have hlt : i < p.states.length := by
      obtain ⟨hlt, -⟩ := List.findIdx?_eq_some_iff_getElem.mp hi
      omega
    have hindex : r.groups.indexOf e.1 = .ok i := by rw [GroupMap.indexOf, hi]
    rw [moveTo, hindex]
    change (e.2.foldlM (fun q t => q.replace (i : Int) t) p >>= fun q => r.moveTo q rest) = _
    rw [foldlM_replace r hlt ht, List.flatMap_cons, List.foldl_append]
    exact ih (by rw [GroupMap.size_foldl_put, hp]) fun e' he' => he e' (List.mem_cons_of_mem e he')

theorem moveTo_byGroup {p : Permutation} (hp : p.states.length = r.groups.groups.length)
    {targets : List String} (hd : ∀ t ∈ targets, r.groups.declares t = true)
    (ha : r.groups.Agree targets) :
    r.moveTo p (r.byGroup targets) = .ok (targets.foldl r.groups.put p) := by
  have hentries : ∀ e ∈ r.byGroup targets, ∃ i, r.groups.indexOf? e.1 = some i ∧
      ∀ t ∈ e.2, r.groups.place? t = some i := by
    intro e he
    obtain ⟨⟨t, ht, hgt⟩, hfilter⟩ := (mem_byGroup r).mp he
    obtain ⟨i, -, hi, -⟩ := GroupMap.groupOf?_eq_some_iff.mp hgt
    refine ⟨i, by rw [GroupMap.indexOf?_of_groupOf? hgt, hi], fun u hu => ?_⟩
    rw [hfilter] at hu
    have hgu : r.groups.groupOf? u = some e.1 := by simpa using (List.mem_filter.mp hu).2
    rw [GroupMap.place?_eq_of_groupOf?_eq hgu hgt, hi]
  rw [moveTo_eq r hp hentries,
    ← GroupMap.foldl_put_congr ha (fun s => (mem_flatMap_byGroup r hd).symm) hp]

/-! ### Checking targets -/

theorem unknown_isEmpty_iff {targets : List String} :
    (targets.filter fun t => !r.groups.declares t).isEmpty = true ↔
      ∀ t ∈ targets, r.groups.declares t = true := by
  simp [List.isEmpty_iff, List.filter_eq_nil_iff]

theorem ambiguous_isEmpty_iff {targets : List String} (hn : targets.Nodup) :
    ((r.byGroup targets).filter fun e => 1 < e.2.length).isEmpty = true ↔
      r.groups.Agree targets := by
  rw [← byGroup_length_le_one_iff r hn]
  simp [List.isEmpty_iff, List.filter_eq_nil_iff]

/-- **Moving succeeds exactly if the targets are declared and agree, and then each target is put at
its place.** -/
theorem moveToTargets_eq_ok_iff {c : Capability} {p q : Permutation} {targets : List String}
    (hp : p.states.length = r.groups.groups.length) (hn : targets.Nodup) :
    r.moveToTargets c p targets = .ok q ↔
      (∀ t ∈ targets, r.groups.declares t = true) ∧ r.groups.Agree targets ∧
        q = targets.foldl r.groups.put p := by
  simp only [moveToTargets]
  by_cases hd : ∀ t ∈ targets, r.groups.declares t = true
  · rw [(unknown_isEmpty_iff r).mpr hd]
    by_cases ha : r.groups.Agree targets
    · rw [(ambiguous_isEmpty_iff r hn).mpr ha]
      simp only [Bool.not_true, Bool.false_eq_true, if_false]
      rw [moveTo_byGroup r hp hd ha, Except.ok.injEq]
      exact ⟨fun h => ⟨hd, ha, h.symm⟩, fun h => h.2.2.symm⟩
    · have hne := mt (ambiguous_isEmpty_iff r hn).mp ha
      simp only [Bool.not_eq_true] at hne
      simp [hne, ha]
  · have hne := mt (unknown_isEmpty_iff r).mp hd
    simp only [Bool.not_eq_true] at hne
    simp only [hne, Bool.not_false, if_true, reduceCtorEq, false_iff]
    exact fun h => hd h.1

/-- **Moving fails only about targets**: no look-up fails once they are checked. -/
theorem moveToTargets_eq_error {c : Capability} {p : Permutation} {targets : List String}
    (hp : p.states.length = r.groups.groups.length) (hn : targets.Nodup) {e : Failure}
    (h : r.moveToTargets c p targets = .error e) :
    (∃ states, e = r.unknownTargets c p states) ∨
      ∃ entries, e = r.ambiguousTargets c p entries := by
  simp only [moveToTargets] at h
  split at h
  · cases h
    exact .inl ⟨_, rfl⟩
  · next hunknown =>
    split at h
    · cases h
      exact .inr ⟨_, rfl⟩
    · next hambiguous =>
      have hd := (unknown_isEmpty_iff r).mp (by simpa using hunknown)
      have ha := (ambiguous_isEmpty_iff r hn).mp (by simpa using hambiguous)
      rw [moveTo_byGroup r hp hd ha] at h
      cases h

end Resolver
end Typestate
