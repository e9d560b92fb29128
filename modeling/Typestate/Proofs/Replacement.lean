import Typestate.Proofs.Move

/-! # Replacing states

A position of a permutation has two indices: one counts from the front and one, which is negative,
from the end. A run of replacements may use both, and some of its steps may fail.

* `Permutation.IsIndexOf`: the two indices of a position; `position?_eq_some_iff` says that every
  index in range is one of them, and of one position only.
* `Permutation.tried`, `Permutation.after`: a replacement that changes nothing if it fails, and a
  run of them.
* `Permutation.LastPut`: the state that the steps of a run say for a position.
* `last_replacement_counts`: this is the state at the position behind the run. -/

namespace Typestate

namespace Permutation

/-- The index names the position: it counts from the front, or from the end. -/
def IsIndexOf (n k : Nat) (i : Int) : Prop := i = k ∨ i = (k : Int) - n

/-- The index names some position of `n`. -/
def InRange (n : Nat) (i : Int) : Prop := -(n : Int) ≤ i ∧ i < n

instance (n k : Nat) (i : Int) : Decidable (IsIndexOf n k i) :=
  inferInstanceAs (Decidable (i = k ∨ i = (k : Int) - n))

instance (n : Nat) (i : Int) : Decidable (InRange n i) :=
  inferInstanceAs (Decidable (-(n : Int) ≤ i ∧ i < n))

/-- The two indices name one position. -/
def SamePosition (n : Nat) (i j : Int) : Prop := ∃ k < n, IsIndexOf n k i ∧ IsIndexOf n k j

/-- The permutation with another state at an index, or as it is if there is no such index. -/
def tried (p : Permutation) (step : Int × String) : Permutation :=
  match p.replace step.1 step.2 with
  | .ok q => q
  | .error _ => p

/-- The permutation behind a run of replacements, some of which may fail. -/
def after (p : Permutation) (steps : List (Int × String)) : Permutation := steps.foldl tried p

/-- The last step that names the position puts the state there. -/
def LastPut (n k : Nat) (state : String) (steps : List (Int × String)) : Prop :=
  ∃ earlier step later, steps = earlier ++ step :: later ∧ (IsIndexOf n k step.1 ∧ step.2 = state) ∧
    ∀ x ∈ later, ¬ IsIndexOf n k x.1

/-! ### Indices -/

section Indices

variable {n k l : Nat} {i : Int}

theorem position?_eq_some_iff : position? n i = some k ↔ k < n ∧ IsIndexOf n k i := by
  unfold position? IsIndexOf
  split
  · next hi =>
    split
    · rw [Option.some.injEq]
      omega
    · simp only [reduceCtorEq, false_iff]
      omega
  · next hi =>
    split
    · rw [Option.some.injEq]
      omega
    · simp only [reduceCtorEq, false_iff]
      omega

theorem inRange_iff : InRange n i ↔ ∃ k < n, IsIndexOf n k i := by
  unfold InRange IsIndexOf
  constructor
  · rintro ⟨hlow, hhigh⟩
    by_cases hi : 0 ≤ i
    · exact ⟨i.toNat, by omega, by omega⟩
    · exact ⟨(i + n).toNat, by omega, by omega⟩
  · rintro ⟨k, hk, hi⟩
    omega

/-- **An index names one position only.** -/
theorem IsIndexOf.unique (hk : k < n) (hl : l < n) (h : IsIndexOf n k i) (h' : IsIndexOf n l i) :
    k = l := by
  unfold IsIndexOf at h h'
  omega

theorem position?_eq_none_iff : position? n i = none ↔ ¬ InRange n i := by
  rw [inRange_iff, Option.eq_none_iff_forall_ne_some]
  simp only [ne_eq, position?_eq_some_iff, not_exists]

end Indices

/-! ### One step -/

variable {p q : Permutation} {k : Nat} {i : Int} {s t : String}

theorem replace_eq_ok_iff :
    p.replace i s = .ok q ↔ ∃ k < p.size, IsIndexOf p.size k i ∧ q = ⟨p.states.set k s⟩ := by
  have hplace : p.replace i s = .ok q ↔
      ∃ k, position? p.size i = some k ∧ q = ⟨p.states.set k s⟩ := by
    unfold replace
    cases position? p.size i <;> simp [eq_comm]
  simp only [hplace, position?_eq_some_iff, and_assoc]

/-- **A replacement fails exactly if its index names no position.** -/
theorem replace_eq_error_iff {e : Failure} :
    p.replace i s = .error e ↔ ¬ InRange p.size i ∧ e = noPlace .replacing i := by
  rw [← position?_eq_none_iff, replace]
  cases position? p.size i <;> simp [eq_comm]

theorem get_eq_ok_iff :
    p.get i = .ok s ↔ ∃ k < p.size, IsIndexOf p.size k i ∧ p.states[k]? = some s := by
  have hplace : p.get i = .ok s ↔ ((position? p.size i).bind fun k => p.states[k]?) = some s := by
    unfold get
    cases (position? p.size i).bind fun k => p.states[k]? <;> simp
  simp only [hplace, Option.bind_eq_some_iff, position?_eq_some_iff, and_assoc]

/-- Both indices of a position replace the same state. -/
theorem replace_of_isIndexOf (hk : k < p.size) (hi : IsIndexOf p.size k i) (s : String) :
    p.replace i s = .ok ⟨p.states.set k s⟩ := replace_eq_ok_iff.mpr ⟨k, hk, hi, rfl⟩

theorem tried_of_isIndexOf (hk : k < p.size) (hi : IsIndexOf p.size k i) (s : String) :
    p.tried (i, s) = ⟨p.states.set k s⟩ := by
  rw [tried, replace_of_isIndexOf hk hi]

/-- **A replacement that fails changes nothing.** -/
theorem tried_of_not_inRange (hi : ¬ InRange p.size i) (s : String) : p.tried (i, s) = p := by
  rw [tried, replace_eq_error_iff.mpr ⟨hi, rfl⟩]

theorem size_tried (p : Permutation) (step : Int × String) : (p.tried step).size = p.size := by
  obtain ⟨i, s⟩ := step
  by_cases hi : InRange p.size i
  · obtain ⟨k, hk, hi⟩ := inRange_iff.mp hi
    rw [tried_of_isIndexOf hk hi, size, List.length_set, size]
  · rw [tried_of_not_inRange hi]

/-- **One step**: the state at a position is the new one if the index names the position, and else
the one from before. -/
theorem getElem?_tried_eq_some_iff {step : Int × String} (hk : k < p.size) :
    (p.tried step).states[k]? = some s ↔
      IsIndexOf p.size k step.1 ∧ step.2 = s ∨
        ¬ IsIndexOf p.size k step.1 ∧ p.states[k]? = some s := by
  obtain ⟨i, t⟩ := step
  by_cases hi : IsIndexOf p.size k i
  · have hlt : k < p.states.length := hk
    simp [tried_of_isIndexOf hk hi, hlt, hi]
  · by_cases hr : InRange p.size i
    · obtain ⟨l, hl, hil⟩ := inRange_iff.mp hr
      have hne : l ≠ k := fun h => hi (h ▸ hil)
      simp [tried_of_isIndexOf hl hil, hne, hi]
    · simp [tried_of_not_inRange hr, hi]

/-! ### Runs -/

theorem size_after (p : Permutation) (steps : List (Int × String)) :
    (p.after steps).size = p.size := by
  induction steps generalizing p with
  | nil => rfl
  | cons step rest ih => exact (ih (p.tried step)).trans (size_tried p step)

theorem after_concat (p : Permutation) (steps : List (Int × String)) (step : Int × String) :
    p.after (steps ++ [step]) = (p.after steps).tried step := List.foldl_concat ..

theorem lastPut_nil (n : Nat) : ¬ LastPut n k s [] := by
  rintro ⟨earlier, step, later, h, -⟩
  simp at h

theorem lastPut_cons {n : Nat} {step : Int × String} {rest : List (Int × String)} :
    LastPut n k s (step :: rest) ↔ LastPut n k s rest ∨
      (IsIndexOf n k step.1 ∧ step.2 = s) ∧ ∀ x ∈ rest, ¬ IsIndexOf n k x.1 :=
  Outcome.exists_last_cons

/-- **A run of steps**: the state at a position is the one that was put there last, or the one from
before. -/
theorem getElem?_after_eq_some_iff {steps : List (Int × String)} (hk : k < p.size) :
    (p.after steps).states[k]? = some s ↔
      LastPut p.size k s steps ∨
        (∀ step ∈ steps, ¬ IsIndexOf p.size k step.1) ∧ p.states[k]? = some s := by
  induction steps generalizing p with
  | nil => simp [after, lastPut_nil]
  | cons step rest ih =>
    have hafter : p.after (step :: rest) = (p.tried step).after rest := rfl
    rw [hafter, ih (by rwa [size_tried]), size_tried, getElem?_tried_eq_some_iff hk, lastPut_cons,
      List.forall_mem_cons]
    tauto

/-! ### Reading back -/

/-- **Behind a replacement** the position has the new state by both of its indices, and all other
indices give what they gave before, or fail as before. -/
theorem get_of_replace_eq_ok (h : p.replace i s = .ok q) (j : Int) :
    (SamePosition p.size i j → q.get j = .ok s) ∧
      (¬ SamePosition p.size i j → q.get j = p.get j) := by
  obtain ⟨k, hk, hi, rfl⟩ := replace_eq_ok_iff.mp h
  have hsize : size ⟨p.states.set k s⟩ = p.size := List.length_set
  have hlt : k < p.states.length := hk
  constructor
  · rintro ⟨l, hl, hil, hj⟩
    obtain rfl := hil.unique hl hk hi
    rw [get_eq_ok_iff, hsize]
    exact ⟨l, hl, hj, by simp [hlt]⟩
  · intro hne
    unfold get
    rw [hsize]
    cases hj : position? p.size j with
    | none => rfl
    | some l =>
      obtain ⟨hl, hj⟩ := position?_eq_some_iff.mp hj
      have hkl : k ≠ l := fun h => hne ⟨k, hk, hi, h ▸ hj⟩
      simp only [Option.bind_some, List.getElem?_set_ne hkl]

/-- **Replacements at different positions commute.** -/
theorem replace_comm {j : Int} (hi : InRange p.size i) (hj : InRange p.size j)
    (hne : ¬ SamePosition p.size i j) (s t : String) :
    ∃ q, (p.replace i s >>= fun x => x.replace j t) = .ok q ∧
      (p.replace j t >>= fun x => x.replace i s) = .ok q := by
  obtain ⟨k, hk, hi⟩ := inRange_iff.mp hi
  obtain ⟨l, hl, hj⟩ := inRange_iff.mp hj
  have hkl : k ≠ l := fun h => hne ⟨k, hk, hi, h ▸ hj⟩
  have hsize : ∀ m x, size ⟨p.states.set m x⟩ = p.size := fun m x => List.length_set
  rw [replace_of_isIndexOf hk hi, replace_of_isIndexOf hl hj]
  refine ⟨⟨(p.states.set k s).set l t⟩, replace_of_isIndexOf ?_ ?_ t, ?_⟩
  · rwa [hsize]
  · rwa [hsize]
  · rw [List.set_comm s t hkl]
    exact replace_of_isIndexOf (by rwa [hsize]) (by rwa [hsize]) s

end Permutation

open Permutation

/-- **A permutation under a run of replacements.** A step of the run fails exactly if its index
names no position, and changes nothing then. The size stays. Behind the run a position has the state
of the last step that names it by one of its two indices (such a step does not fail), or the first
state if none does. A state that was put at an index is read there and at the other index of the
position, and nowhere else does the reading change; so replacements at different positions
commute. -/
theorem last_replacement_counts (p : Permutation) :
    (∀ earlier i s,
      (∀ e, (p.after earlier).replace i s = .error e ↔
        ¬ InRange p.size i ∧ e = noPlace .replacing i) ∧
      (¬ InRange p.size i → p.after (earlier ++ [(i, s)]) = p.after earlier)) ∧
    (∀ steps, (p.after steps).size = p.size) ∧
    (∀ steps, ∀ k < p.size, ∀ s, (p.after steps).states[k]? = some s ↔
      LastPut p.size k s steps ∨
        (∀ step ∈ steps, ¬ IsIndexOf p.size k step.1) ∧ p.states[k]? = some s) ∧
    (∀ i s, InRange p.size i → ∃ q, p.replace i s = .ok q ∧
      ∀ j, (SamePosition p.size i j → q.get j = .ok s) ∧
        (¬ SamePosition p.size i j → q.get j = p.get j)) ∧
    ∀ i j s t, InRange p.size i → InRange p.size j → ¬ SamePosition p.size i j →
      ∃ q, (p.replace i s >>= fun x => x.replace j t) = .ok q ∧
        (p.replace j t >>= fun x => x.replace i s) = .ok q := by
  refine ⟨fun earlier i s => ⟨fun e => ?_, fun hi => ?_⟩, size_after p,
    fun steps k hk s => getElem?_after_eq_some_iff hk, fun i s hi => ?_,
    fun i j s t hi hj hne => replace_comm hi hj hne s t⟩
  · rw [replace_eq_error_iff, size_after]
  · rw [after_concat, tried_of_not_inRange (by rwa [size_after])]
  · obtain ⟨k, hk, hi⟩ := inRange_iff.mp hi
    have hreplace := replace_of_isIndexOf hk hi s
    exact ⟨_, hreplace, get_of_replace_eq_ok hreplace⟩

/-- A run over three states, two of whose steps are out of range. -/
def mixedRun : List (Int × String) :=
  [(-3, "On"), (3, "Night"), (1, "High"), (-2, "Mid"), (-4, "Night")]

/-- The middle state is the one that was put there from the end, after one from the front; the last
state was never replaced, since the steps that say `Night` are out of range. -/
theorem last_replacement_counts_mixedRun :
    LastPut 3 1 "Mid" mixedRun ∧ (∀ step ∈ mixedRun, ¬ IsIndexOf 3 2 step.1) ∧
      ((⟨["Off", "Low", "Day"]⟩ : Permutation).after mixedRun).states[1]? = some "Mid" ∧
      ((⟨["Off", "Low", "Day"]⟩ : Permutation).after mixedRun).states[2]? = some "Day" := by
  have hlast : LastPut 3 1 "Mid" mixedRun :=
    ⟨[(-3, "On"), (3, "Night"), (1, "High")], (-2, "Mid"), [(-4, "Night")],
      rfl, by decide, by decide⟩
  have hnone : ∀ step ∈ mixedRun, ¬ IsIndexOf 3 2 step.1 := by decide
  have hrun := (last_replacement_counts ⟨["Off", "Low", "Day"]⟩).2.2.1 mixedRun
  exact ⟨hlast, hnone, (hrun 1 (by decide) "Mid").mpr (.inl hlast),
    (hrun 2 (by decide) "Day").mpr (.inr ⟨hnone, rfl⟩)⟩

end Typestate
