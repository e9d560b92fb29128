import Typestate.Proofs.Enumeration
import Mathlib.Algebra.BigOperators.Group.List.Lemmas
import Mathlib.Algebra.Order.Group.Nat

/-! # Permutations by number

The enumeration is a number system of mixed base: the digits of a number say which state is taken of
each group, the first group has the highest digit, and the base of a digit is the size of its group.

* `getElem?_choices`: the choice with a number is the one that its digits name;
  `getElem?_choiceAt?`: its digits, by division.
* `nth?_eq_getElem?`, `slice_eq`: a permutation by number and a segment of the enumeration are found
  without the ones before them.
* `countP_choices_cons`: choices are counted position by position; `countP_getElem?_choices`: how
  many have a given item at a position; `countP_mem_choices`: how many are choices from other lists
  as well.
* `enumeration_numbered`: how many permutations there are, and which one has a given number. -/

namespace Typestate

namespace Permutation

variable {α : Type}

/-! ### Digits -/

theorem countChoices_eq_prod (ls : List (List α)) :
    countChoices ls = (ls.map List.length).prod := by
  induction ls with
  | nil => rfl
  | cons l rest ih => rw [countChoices, ih, List.map_cons, List.prod_cons]

/-- A list made of blocks of one length: the quotient of a position says which block, the remainder
where in it. -/
theorem getElem?_flatMap_blocks {β : Type} {f : α → List β} {n : Nat} (hf : ∀ a, (f a).length = n)
    (l : List α) (k : Nat) : (l.flatMap f)[k]? = l[k / n]?.bind fun a => (f a)[k % n]? := by
  induction l generalizing k with
  | nil => rfl
  | cons a rest ih =>
    rw [List.flatMap_cons, List.getElem?_append, hf]
    by_cases hk : k < n
    · rw [if_pos hk, Nat.div_eq_of_lt hk, Nat.mod_eq_of_lt hk]
      rfl
    · rw [if_neg hk, ih]
      rcases Nat.eq_zero_or_pos n with rfl | hn
      · have hnil : ∀ b, f b = [] := fun b => List.length_eq_zero_iff.mp (hf b)
        simp [hnil]
      · obtain ⟨j, rfl⟩ : ∃ j, k = j + n := ⟨k - n, by omega⟩
        rw [Nat.add_sub_cancel, Nat.add_div_right _ hn, Nat.add_mod_right, List.getElem?_cons_succ]

/-- **The choice with a number** is the one that is found by its digits. -/
theorem getElem?_choices {ls : List (List α)} {k : Nat} (hk : k < countChoices ls) :
    (choices ls)[k]? = choiceAt? ls k := by
  induction ls generalizing k with
  | nil =>
    obtain rfl : k = 0 := by simpa [countChoices] using hk
    rfl
  | cons l rest ih =>
    have hn : 0 < countChoices rest := Nat.pos_of_ne_zero fun h => by simp [countChoices, h] at hk
    have hblocks : ∀ a : α, ((choices rest).map (a :: ·)).length = countChoices rest := fun a => by
      rw [List.length_map, length_choices]
    rw [choices, getElem?_flatMap_blocks hblocks, choiceAt?]
    refine congrArg _ (funext fun a => ?_)
    rw [List.getElem?_map, ih (Nat.mod_lt k hn), Option.map_eq_bind]
    rfl

/-- The digits of a number are those of its remainder, as long as their place is lower. -/
theorem digit_mod {k n place base : Nat} (h : place * base ∣ n) :
    k % n / place % base = k / place % base := by
  obtain ⟨c, rfl⟩ := h
  rw [Nat.mul_assoc, Nat.mod_mul_right_div_self, Nat.mod_mod_of_dvd _ (Nat.dvd_mul_right base c)]

/-- The places of two neighbouring digits. -/
theorem countChoices_drop {ls : List (List α)} {i : Nat} (hi : i < ls.length) :
    countChoices (ls.drop i) = ls[i].length * countChoices (ls.drop (i + 1)) := by
  rw [List.drop_eq_getElem_cons hi, countChoices]

theorem countChoices_drop_dvd (ls : List (List α)) (i : Nat) :
    countChoices (ls.drop i) ∣ countChoices ls := by
  rw [countChoices_eq_prod, countChoices_eq_prod]
  exact ((List.drop_sublist i ls).map _).prod_dvd_prod

/-- **The item at a position is the one that the digit names**: the number divided by the count of
the choices behind the position, up to the size of the list there. -/
theorem getElem?_choiceAt? {ls : List (List α)} {k : Nat} {xs : List α}
    (h : choiceAt? ls k = some xs) :
    xs.length = ls.length ∧ ∀ i (hi : i < ls.length),
      xs[i]? = ls[i][k / countChoices (ls.drop (i + 1)) % ls[i].length]? := by
  induction ls generalizing k xs with
  | nil =>
    cases h
    exact ⟨rfl, fun i hi => absurd hi (Nat.not_lt_zero i)⟩
  | cons l rest ih =>
    obtain ⟨a, ha, h⟩ := Option.bind_eq_some_iff.mp h
    obtain ⟨others, hothers, h⟩ := Option.bind_eq_some_iff.mp h
    cases h
    obtain ⟨hlength, hdigits⟩ := ih hothers
    refine ⟨congrArg (· + 1) hlength, fun i hi => ?_⟩
    cases i with
    | zero =>
      obtain ⟨hlt, -⟩ := List.getElem?_eq_some_iff.mp ha
      simpa [Nat.mod_eq_of_lt hlt] using ha.symm
    | succ i =>
      have hi' : i < rest.length := by simpa using hi
      have hdvd : countChoices (rest.drop (i + 1)) * rest[i].length ∣ countChoices rest := by
        rw [Nat.mul_comm, ← countChoices_drop hi']
        exact countChoices_drop_dvd rest i
      simpa [digit_mod hdvd] using hdigits i hi'

/-! ### Permutations by number -/

theorem count_eq_prod (ls : List (List String)) :
    count ls = if ls = [] then 0 else (ls.map List.length).prod := by
  rw [count, countChoices_eq_prod]
  simp only [List.isEmpty_iff]

/-- **A permutation is found by its number.** -/
theorem nth?_eq_getElem? (ls : List (List String)) (k : Nat) : nth? ls k = (enumerate ls)[k]? := by
  unfold nth?
  split
  · next hk =>
    unfold count at hk
    unfold enumerate
    split at hk
    · exact absurd hk (Nat.not_lt_zero k)
    · next hne => rw [if_neg hne, List.getElem?_map, getElem?_choices hk]
  · next hk => rw [List.getElem?_eq_none (by rw [length_enumerate]; omega)]

/-- The items at consecutive positions, as far as there are any. -/
theorem filterMap_range'_getElem? (xs : List α) (skip take : Nat) :
    (List.range' skip (min take (xs.length - skip))).filterMap (xs[·]?) =
      (xs.drop skip).take take := by
  induction take generalizing skip with
  | zero => simp
  | succ take ih =>
    by_cases h : skip < xs.length
    · have hmin :
          min (take + 1) (xs.length - skip) = min take (xs.length - (skip + 1)) + 1 := by omega
      rw [hmin, List.range'_succ, List.filterMap_cons, List.getElem?_eq_getElem h,
        List.drop_eq_getElem_cons h, List.take_succ_cons]
      exact congrArg _ (ih (skip + 1))
    · have hmin : min (take + 1) (xs.length - skip) = 0 := by omega
      rw [hmin, List.drop_of_length_le (Nat.not_lt.mp h)]
      rfl

/-- **A segment of the enumeration.** -/
theorem slice_eq (ls : List (List String)) (skip take : Nat) :
    slice ls skip take = ((enumerate ls).drop skip).take take := by
  rw [← filterMap_range'_getElem?, length_enumerate, slice]
  exact List.filterMap_congr fun k _ => nth?_eq_getElem? ls k

/-! ### Counting by positions -/

/-- **Choices are counted position by position**, if what is counted is a matter of the first item
and of the others. -/
theorem countP_choices_cons {l : List α} {rest : List (List α)} {P Q : List α → Bool} {q : α → Bool}
    (h : ∀ a xs, P (a :: xs) = (q a && Q xs)) :
    (choices (l :: rest)).countP P = l.countP q * (choices rest).countP Q := by
  rw [choices]
  induction l with
  | nil => simp
  | cons a l ih =>
    rw [List.flatMap_cons, List.countP_append, ih, List.countP_map, List.countP_cons, Nat.add_mul,
      Nat.add_comm]
    refine congrArg _ ?_
    have hfirst : (P ∘ (a :: ·)) = fun xs => q a && Q xs := funext (h a)
    rw [hfirst]
    cases q a with
    | false => simp
    | true => simp

/-- **How many choices have an item at a position**: as many as there are choices from the other
lists, for each time that the list at the position has the item. -/
theorem countP_getElem?_choices [DecidableEq α] {ls : List (List α)} {i : Nat} (hi : i < ls.length)
    (a : α) :
    (choices ls).countP (fun xs => xs[i]? = some a) =
      ls[i].count a * ((ls.eraseIdx i).map List.length).prod := by
  induction ls generalizing i with
  | nil => exact absurd hi (Nat.not_lt_zero i)
  | cons l rest ih =>
    cases i with
    | zero =>
      rw [countP_choices_cons (q := fun b => b == a) (Q := fun _ => true) fun b xs => by
        simp [beq_eq_decide]]
      rw [List.countP_true, length_choices, countChoices_eq_prod]
      rfl
    | succ i =>
      have hi' : i < rest.length := by simpa using hi
      rw [countP_choices_cons (q := fun _ => true) (Q := fun xs => xs[i]? = some a) fun b xs => by
        simp, ih hi', List.countP_true]
      simp only [List.getElem_cons_succ, List.eraseIdx_cons_succ, List.map_cons, List.prod_cons]
      exact Nat.mul_left_comm ..

theorem cons_mem_choices {a : α} {xs l : List α} {rest : List (List α)} :
    a :: xs ∈ choices (l :: rest) ↔ a ∈ l ∧ xs ∈ choices rest := by
  simp [choices]

/-- **How many choices are choices from other lists as well**: at each position, as many items as
are in both lists. -/
theorem countP_mem_choices [DecidableEq α] {ι : Type} (lists others : ι → List α) (is : List ι) :
    (choices (is.map lists)).countP (· ∈ choices (is.map others)) =
      (is.map fun i => (lists i).countP (· ∈ others i)).prod := by
  induction is with
  | nil => rfl
  | cons i rest ih =>
    simp only [List.map_cons, List.prod_cons]
    rw [countP_choices_cons (q := (· ∈ others i)) (Q := (· ∈ choices (rest.map others)))
      fun a xs => by
      simp only [cons_mem_choices, Bool.decide_and], ih]

end Permutation

/-- The total that a map of groups states is the number of its permutations. -/
theorem GroupMap.total_eq_count (m : GroupMap) : m.total = Permutation.count m.stateLists := by
  have hprod : (m.groups.map StateGroup.size).foldr (· * ·) 1 =
      (m.stateLists.map List.length).prod := by
    rw [List.prod_eq_foldr, stateLists, List.map_map]
    rfl
  rw [Permutation.count_eq_prod, total, hprod]
  simp only [List.isEmpty_iff, stateLists, List.map_eq_nil_iff]

/-! ### The enumeration -/

namespace Permutation

variable {ls : List (List String)}

theorem enumerate_of_ne_nil (h : ls ≠ []) : enumerate ls = (choices ls).map .mk := by
  rw [enumerate, if_neg (by simpa using h)]

/-- **The digits of a number name the states of its permutation.** -/
theorem digits_of_getElem? {k : Nat} {p : Permutation} (h : (enumerate ls)[k]? = some p) :
    p.states.length = ls.length ∧ ∀ i (hi : i < ls.length),
      p.states[i]? = ls[i][k / ((ls.drop (i + 1)).map List.length).prod % ls[i].length]? := by
  rw [← nth?_eq_getElem?, nth?] at h
  split at h
  · obtain ⟨xs, hxs, rfl⟩ := Option.map_eq_some_iff.mp h
    simp only [← countChoices_eq_prod]
    exact getElem?_choiceAt? hxs
  · cases h

/-- **How many permutations have a state at a position.** -/
theorem countP_enumerate (h : ∀ l ∈ ls, l.Nodup) {i : Nat} (hi : i < ls.length) {s : String}
    (hs : s ∈ ls[i]) :
    (enumerate ls).countP (fun p => p.states[i]? = some s) =
      ((ls.eraseIdx i).map List.length).prod := by
  have hne : ls ≠ [] := List.ne_nil_of_length_pos (by omega)
  rw [enumerate_of_ne_nil hne, List.countP_map]
  change (choices ls).countP (fun xs => xs[i]? = some s) = _
  rw [countP_getElem?_choices hi,
    List.count_eq_one_of_mem (h _ (List.getElem_mem hi)) hs, Nat.one_mul]

end Permutation

/-- **The enumeration of permutations.** There are as many as the product of the sizes of the groups
says, none if there is no group, and this is the total of a map of the groups. The digits of a
number name the states of its permutation, the first group having the highest digit; segments are
segments of this list. Every way to take one state of each group occurs. If no group repeats a
state, then none occurs twice, and each state occurs at the position of its group as often as the
product of the other sizes says. -/
theorem enumeration_numbered (ls : List (List String)) :
    (Permutation.enumerate ls).length = (if ls = [] then 0 else (ls.map List.length).prod) ∧
    (∀ m : GroupMap, m.stateLists = ls → m.total = (Permutation.enumerate ls).length) ∧
    (∀ k, k < (Permutation.enumerate ls).length → ∃ p, (Permutation.enumerate ls)[k]? = some p ∧
      p.states.length = ls.length ∧ ∀ i (hi : i < ls.length),
        p.states[i]? = ls[i][k / ((ls.drop (i + 1)).map List.length).prod % ls[i].length]?) ∧
    (∀ skip take, Permutation.slice ls skip take =
      ((Permutation.enumerate ls).drop skip).take take) ∧
    (ls ≠ [] → ∀ states, List.Forall₂ (· ∈ ·) states ls → ⟨states⟩ ∈ Permutation.enumerate ls) ∧
    ((∀ l ∈ ls, l.Nodup) → (Permutation.enumerate ls).Nodup ∧
      ∀ i (hi : i < ls.length), ∀ s ∈ ls[i],
        (Permutation.enumerate ls).countP (fun p => p.states[i]? = some s) =
          ((ls.eraseIdx i).map List.length).prod) := by
  refine ⟨?_, fun m hm => ?_, fun k hk => ?_, Permutation.slice_eq ls, fun hne states h => ?_,
    fun h => ⟨Permutation.nodup_enumerate h, fun i hi s hs => Permutation.countP_enumerate h hi hs⟩⟩
  · rw [Permutation.length_enumerate, Permutation.count_eq_prod]
  · rw [Permutation.length_enumerate, m.total_eq_count, hm]
  · obtain ⟨p, hp⟩ : ∃ p, (Permutation.enumerate ls)[k]? = some p :=
      ⟨_, List.getElem?_eq_getElem hk⟩
    exact ⟨p, hp, Permutation.digits_of_getElem? hp⟩
  · rw [Permutation.enumerate_of_ne_nil hne]
    refine List.mem_map_of_mem (Permutation.mem_choices.mpr ⟨h.length_eq, fun i hi hi' => ?_⟩)
    exact List.forall₂_iff_get.mp h |>.2 i hi hi'

/-- The groups of a lamp with three levels and two modes. -/
def dimmer : GroupMap :=
  ⟨[⟨"Power", ["Off", "On"]⟩, ⟨"Level", ["Low", "Mid", "High"]⟩, ⟨"Mode", ["Day", "Night"]⟩],
    by decide⟩

/-- The lamp has twelve permutations. Number 7 is the second one that is on and low, and each level
comes with four of them; segments begin where they are asked to. -/
theorem enumeration_numbered_dimmer :
    dimmer.total = 12 ∧
      (∃ p, (Permutation.enumerate dimmer.stateLists)[7]? = some p ∧ p.states[0]? = some "On" ∧
        p.states[1]? = some "Low" ∧ p.states[2]? = some "Night") ∧
      (Permutation.slice dimmer.stateLists 7 1).length = 1 ∧
      ⟨["Off", "High", "Night"]⟩ ∈ Permutation.enumerate dimmer.stateLists ∧
      (Permutation.enumerate dimmer.stateLists).Nodup ∧
      (Permutation.enumerate dimmer.stateLists).countP (fun p => p.states[1]? = some "Mid") =
        4 := by
  obtain ⟨hlength, htotal, hdigits, hslice, hmem, hnodup⟩ := enumeration_numbered dimmer.stateLists
  have hlength' : (Permutation.enumerate dimmer.stateLists).length = 12 := hlength.trans (by decide)
  obtain ⟨p, hp, -, hstates⟩ := hdigits 7 (by omega)
  obtain ⟨hone, hcount⟩ := hnodup (by decide)
  refine ⟨(htotal dimmer rfl).trans hlength', ⟨p, hp, ?_, ?_, ?_⟩, ?_, hmem (by decide) _ ?_,
    hone, ?_⟩
  · exact (hstates 0 (by decide)).trans (by decide)
  · exact (hstates 1 (by decide)).trans (by decide)
  · exact (hstates 2 (by decide)).trans (by decide)
  · rw [hslice, List.length_take, List.length_drop, hlength']
    decide
  · exact .cons (by decide) (.cons (by decide) (.cons (by decide) .nil))
  · exact (hcount 1 (by decide) "Mid" (by decide)).trans (by decide)

end Typestate
