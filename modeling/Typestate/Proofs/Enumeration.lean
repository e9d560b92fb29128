import Typestate.Proofs.Place

/-! # The enumeration of permutations

The permutations that are enumerated are exactly those that have one state of each group
(`mem_enumerate`), and each of them occurs once if no group repeats a state (`nodup_enumerate`). -/

namespace Typestate

namespace Permutation

/-- **Choices from lists without repetition are all different.** -/
theorem nodup_choices {α : Type} {ls : List (List α)} (h : ∀ l ∈ ls, l.Nodup) :
    (choices ls).Nodup := by
  induction ls with
  | nil => simp [choices]
  | cons l rest ih =>
    have hrest := ih fun l' hl' => h l' (List.mem_cons_of_mem l hl')
    rw [choices, List.nodup_flatMap]
    refine ⟨fun a _ => hrest.map fun x y hxy => (List.cons.inj hxy).2, ?_⟩
    refine (h l (by simp)).imp fun {a b} hab => ?_
    -- choices that begin with different items have no member in common
    intro xs ha hb
    obtain ⟨x, -, rfl⟩ := List.mem_map.mp ha
    obtain ⟨y, -, hy⟩ := List.mem_map.mp hb
    exact hab (List.cons.inj hy).1.symm

theorem nodup_enumerate {ls : List (List String)} (h : ∀ l ∈ ls, l.Nodup) :
    (enumerate ls).Nodup := by
  unfold enumerate
  split
  · exact List.nodup_nil
  · exact (nodup_choices h).map fun x y hxy => by cases hxy; rfl

end Permutation

namespace GroupMap

variable {m : GroupMap}

/-- **Exactly the permutations with one state of each group are enumerated**, if there is a
group. -/
theorem mem_enumerate {p : Permutation} :
    p ∈ Permutation.enumerate m.stateLists ↔ m.groups ≠ [] ∧ m.Fits p := by
  by_cases hm : m.groups = []
  · simp [Permutation.enumerate, stateLists, hm]
  · have hne : m.stateLists.isEmpty = false := by simpa [stateLists] using hm
    obtain ⟨states⟩ := p
    simp only [Permutation.enumerate, hne, Bool.false_eq_true, if_false, List.mem_map,
      Permutation.mk.injEq, exists_eq_right, Permutation.mem_choices, ne_eq, hm, not_false_eq_true,
      true_and]
    constructor
    · rintro ⟨hlen, hmem⟩
      refine ⟨by simpa [stateLists] using hlen, fun i s hs => ?_⟩
      obtain ⟨hi, rfl⟩ := List.getElem?_eq_some_iff.mp hs
      have hi' : i < m.stateLists.length := by simp only at hi; omega
      refine ⟨by simpa [stateLists] using hi', ?_⟩
      simpa [stateLists] using hmem i hi hi'
    · intro h
      refine ⟨by simpa [stateLists] using h.size, fun i hi hi' => ?_⟩
      obtain ⟨_, hs⟩ := h.mem i states[i] (List.getElem?_eq_getElem hi)
      simpa [stateLists] using hs

/-- **With unique state names no permutation is enumerated twice.** -/
theorem nodup_permutations (hu : m.allStates.Nodup) :
    (Permutation.enumerate m.stateLists).Nodup := by
  refine Permutation.nodup_enumerate fun l hl => ?_
  obtain ⟨g, hg, rfl⟩ := List.mem_map.mp hl
  exact (List.nodup_flatMap.mp hu).1 g hg

end GroupMap
end Typestate
