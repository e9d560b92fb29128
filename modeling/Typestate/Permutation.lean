import Typestate.Failure

/-! # Permutations

A permutation holds one state for each group, in declaration order: one concrete state of an
instance.

* `position?`: positions are counted from the front, or, if negative, from the end.
* `get`, `replace`: the state at a position, and the permutation with another state there.
* `typeName`: the states one after another, and a suffix; the name of the wrapper.
* `enumerate`: all permutations over some groups, the last group varying fastest. `nth?` finds one
  by its number, through the digits of the number in the mixed base of the group sizes, and
  `slice` a segment without computing the others. -/

namespace Typestate

/-- One state for each group. -/
structure Permutation where
  states : List String
deriving DecidableEq

namespace Permutation

/-- The place that an index names in a list of `n` items. -/
def position? (n : Nat) (i : Int) : Option Nat :=
  if 0 ≤ i then (if i < n then some i.toNat else none)
  else if 0 ≤ i + n then some (i + n).toNat else none

/-- The index is a number of 64 bits. -/
def isIndex (i : Int) : Bool := -9223372036854775808 ≤ i && i < 9223372036854775808

/-- The failure to use the place that an index does not name. -/
def noPlace (a : Access) (i : Int) : Failure := .noPosition (if isIndex i then a else .huge)

/-- The number of states. -/
def size (p : Permutation) : Nat := p.states.length

/-- The state at an index. -/
def get (p : Permutation) (i : Int) : Except Failure String :=
  match (position? p.size i).bind fun k => p.states[k]? with
  | some s => .ok s
  | none => .error (noPlace .reading i)

/-- The permutation with another state at an index. -/
def replace (p : Permutation) (i : Int) (state : String) : Except Failure Permutation :=
  match position? p.size i with
  | some k => .ok ⟨p.states.set k state⟩
  | none => .error (noPlace .replacing i)

/-- The texts one after another. -/
def concat : List String → String
  | [] => ""
  | s :: rest => s ++ concat rest

/-- The name of the wrapper of a permutation. -/
def typeName (p : Permutation) (suffix : String) : String := concat p.states ++ suffix

/-- The permutation as it is shown in messages. -/
def display (p : Permutation) : String := "Permutation([" ++ Text.commaList p.states ++ "])"

/-! ### Enumeration -/

/-- All ways to take one item of each list; the last list varies fastest. -/
def choices {α : Type} : List (List α) → List (List α)
  | [] => [[]]
  | l :: rest => l.flatMap fun a => (choices rest).map (a :: ·)

/-- The number of ways to take one item of each list. -/
def countChoices {α : Type} : List (List α) → Nat
  | [] => 1
  | l :: rest => l.length * countChoices rest

/-- The choice with a given number. -/
def choiceAt? {α : Type} : List (List α) → Nat → Option (List α)
  | [], _ => some []
  | l :: rest, k => do
    let a ← l[k / countChoices rest]?
    let others ← choiceAt? rest (k % countChoices rest)
    some (a :: others)

/-- All permutations over groups with the given states; none if there is no group. -/
def enumerate (stateLists : List (List String)) : List Permutation :=
  if stateLists.isEmpty then [] else (choices stateLists).map .mk

/-- The number of permutations over groups with the given states. -/
def count (stateLists : List (List String)) : Nat :=
  if stateLists.isEmpty then 0 else countChoices stateLists

/-- The permutation with a given number. -/
def nth? (stateLists : List (List String)) (k : Nat) : Option Permutation :=
  if k < count stateLists then (choiceAt? stateLists k).map .mk else none

/-- The permutations number `skip` to `skip + take`, the last one left out. -/
def slice (stateLists : List (List String)) (skip take : Nat) : List Permutation :=
  (List.range' skip (min take (count stateLists - skip))).filterMap (nth? stateLists)

theorem length_choices {α : Type} (ls : List (List α)) : (choices ls).length = countChoices ls := by
  induction ls with
  | nil => rfl
  | cons l rest ih =>
    simp only [choices, countChoices, List.length_flatMap, List.length_map, ih]
    induction l with
    | nil => simp
    | cons a l ihl =>
      rw [List.map_cons, List.sum_cons, ihl, List.length_cons, Nat.succ_mul, Nat.add_comm]

/-- **There are as many permutations as the count says.** -/
theorem length_enumerate (ls : List (List String)) : (enumerate ls).length = count ls := by
  unfold enumerate count
  split <;> simp [length_choices]

/-- **A choice takes one item of each list.** -/
theorem mem_choices {α : Type} {ls : List (List α)} {xs : List α} :
    xs ∈ choices ls ↔ xs.length = ls.length ∧ ∀ i (h : i < xs.length) (h' : i < ls.length),
      xs[i] ∈ ls[i] := by
  induction ls generalizing xs with
  | nil => cases xs <;> simp [choices]
  | cons l rest ih =>
    cases xs with
    | nil => simp [choices]
    | cons a xs =>
      simp only [choices, List.mem_flatMap, List.mem_map, List.cons.injEq, List.length_cons]
      constructor
      · rintro ⟨b, hb, ys, hys, rfl, rfl⟩
        obtain ⟨hl, hi⟩ := ih.1 hys
        refine ⟨by omega, fun i h h' => ?_⟩
        cases i with
        | zero => simpa using hb
        | succ i => simpa using hi i (by omega) (by omega)
      · rintro ⟨hl, hi⟩
        refine ⟨a, by simpa using hi 0 (by omega) (by omega), xs,
          ih.2 ⟨by omega, fun i h h' => ?_⟩, rfl, rfl⟩
        exact hi (i + 1) (by simpa using h) (by simpa using h')

end Permutation
end Typestate
