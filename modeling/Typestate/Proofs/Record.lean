import Typestate.Proofs.Acceptance
import Typestate.Proofs.References

/-! # Records

A record is a mapping with known keys. For each of them something is asked of its value, which may
be missing; other keys must not be there. The order of the keys is of no account.

* `Data.IsRecord`: a mapping that has what is asked of it.
* `Present`, `IfPresent`, `LeftOutOr`: a key that has to be there, one that may be missing, and one
  that may be missing under a condition.
* `Data.isRecord_ofPairs`: a record written down key by key.
* `accepts_required`, `accepts_optional`, `accepts_listOf`: what the checks of entries and lists ask
  for; `eitherKey_eq`: which of two keys is read. -/

namespace Typestate

namespace Data

/-- A mapping with the given keys and no others; of the value of each key, if there is one,
something is asked. -/
def IsRecord (fields : List (String × (Option Data → Prop))) (d : Data) : Prop :=
  ∃ entries, d = .map entries ∧ (∀ e ∈ entries, ∃ f ∈ fields, e.1 = .text f.1) ∧
    ∀ f ∈ fields, f.2 (find? f.1 entries)

/-- The key is there, and its value is as asked. -/
def Present (P : Data → Prop) (value : Option Data) : Prop := ∃ d, value = some d ∧ P d

/-- If the key is there, then its value is as asked. -/
def IfPresent (P : Data → Prop) (value : Option Data) : Prop := ∀ d, value = some d → P d

/-- The key may be left out under a condition; otherwise its value is as asked. -/
def LeftOutOr (condition : Prop) (P : Data → Prop) (value : Option Data) : Prop :=
  (value = none ∧ condition) ∨ Present P value

/-- The items of a list are as asked. -/
def IsListOf (P : Data → Prop) (d : Data) : Prop :=
  ∃ items, d.items? = some items ∧ ∀ x ∈ items, P x

theorem leftOutOr_some {condition : Prop} {P : Data → Prop} {d : Data} (h : P d) :
    LeftOutOr condition P (some d) := .inr ⟨d, rfl, h⟩

theorem find?_ofPairs (name : String) (pairs : List (String × Data)) :
    find? name (pairs.map fun p => (.text p.1, p.2)) = pairs.lookup name :=
  valueAt?_ofPairs name pairs

/-- **A record may be written down key by key.** -/
theorem isRecord_ofPairs {fields : List (String × (Option Data → Prop))}
    {pairs : List (String × Data)} (hkeys : ∀ p ∈ pairs, p.1 ∈ fields.map (·.1))
    (h : fields.Forall fun f => f.2 (pairs.lookup f.1)) : (ofPairs pairs).IsRecord fields := by
  refine ⟨_, rfl, fun e he => ?_, fun f hf => ?_⟩
  · obtain ⟨p, hp, rfl⟩ := List.mem_map.mp he
    obtain ⟨f, hf, hname⟩ := List.mem_map.mp (hkeys p hp)
    exact ⟨f, hf, by rw [hname]⟩
  · rw [find?_ofPairs]
    exact List.forall_iff_forall_mem.mp h f hf

/-- A key that is not among those of a record is not there. -/
theorem find?_eq_none {known : List String} {name : String} {entries : List (Data × Data)}
    (hkeys : ∀ e ∈ entries, ∃ s ∈ known, e.1 = .text s) (hname : name ∉ known) :
    find? name entries = none := by
  induction entries with
  | nil => rfl
  | cons e rest ih =>
    obtain ⟨k, v⟩ := e
    obtain ⟨⟨s, hs, rfl⟩, hrest⟩ := List.forall_mem_cons.mp hkeys
    have hne : s ≠ name := fun h => hname (h ▸ hs)
    rw [find?, sameKey_text, beq_false_of_ne hne]
    exact ih hrest

end Data

namespace Schema

open Checked Data

variable {α : Type}

/-! ### What checks accept -/

/-- The check finds a value in the data. -/
def Accepts (check : Data → Checked α) (d : Data) : Prop := ∃ a, check d = .valid a

/-- A check that reports a fault accepts nothing. -/
theorem not_accepts_fault {reason : Reason} : ¬ ∃ a : α, fault reason = .valid a := by
  rintro ⟨_, h⟩
  exact fault_ne_valid h

/-- **A record is a mapping without unknown keys that has what is asked of each known one.** -/
theorem isRecord_iff {fields : List (String × (Option Data → Prop))} {d : Data} :
    d.IsRecord fields ↔ ∃ entries, d = .map entries ∧
      onlyKeys (fields.map (·.1)) entries = .valid () ∧
      fields.Forall fun f => f.2 (find? f.1 entries) := by
  unfold IsRecord
  refine exists_congr fun entries => and_congr_right fun _ => ?_
  rw [onlyKeys_eq_valid_iff, List.forall_iff_forall_mem]
  refine and_congr_left' (forall₂_congr fun e _ => ?_)
  simp

variable {name : String} {check : Data → Checked α} {P : Data → Prop} {entries : List (Data × Data)}

theorem accepts_required (h : ∀ d, Accepts check d ↔ P d) :
    (∃ a, required name check entries = .valid a) ↔ Present P (find? name entries) := by
  simp only [required_eq_valid_iff]
  refine exists_comm.trans (exists_congr fun d => exists_and_left.trans ?_)
  exact and_congr_right fun _ => h d

theorem accepts_optional (default : α) (h : ∀ d, Accepts check d ↔ P d) :
    (∃ a, optional name default check entries = .valid a) ↔ IfPresent P (find? name entries) := by
  simp only [optional_eq_valid_iff]
  constructor
  · rintro ⟨a, ⟨hnone, -⟩ | ⟨d, hd, ha⟩⟩ d' hd'
    · cases hnone.symm.trans hd'
    · cases hd.symm.trans hd'
      exact (h d).mp ⟨a, ha⟩
  · intro hpresent
    cases hfind : find? name entries with
    | none => exact ⟨default, .inl ⟨rfl, rfl⟩⟩
    | some d =>
      obtain ⟨a, ha⟩ := (h d).mpr (hpresent d hfind)
      exact ⟨a, .inr ⟨d, rfl, ha⟩⟩

theorem eitherKey_mem (first second : String) :
    eitherKey first second entries ∈ [first, second] := by
  unfold eitherKey
  split <;> simp

/-- **Of two keys the one that is there is read**, if the first one is not allowed beside the
second. -/
theorem eitherKey_eq {first second key : String} {known : List String}
    (hkey : key ∈ [first, second])
    (hknown : first ∈ known → key = first) (hkeys : onlyKeys known entries = .valid ())
    (h : Present P (find? key entries)) : eitherKey first second entries = key := by
  by_cases hfirst : first ∈ known
  · obtain rfl := hknown hfirst
    obtain ⟨d, hd, -⟩ := h
    rw [eitherKey, hd]
    rfl
  · have hnone : find? first entries = none := find?_eq_none (onlyKeys_eq_valid_iff.mp hkeys) hfirst
    have hsecond : key = second := by
      rcases List.mem_pair.mp hkey with rfl | rfl
      · obtain ⟨d, hd, -⟩ := h
        cases hnone.symm.trans hd
      · rfl
    rw [eitherKey, hnone, hsecond]
    rfl

/-- A list can be read item by item exactly if each item can be read. -/
theorem exists_forall₂_iff {β : Type} {R : β → α → Prop} {xs : List β} :
    (∃ ys, List.Forall₂ R xs ys) ↔ ∀ x ∈ xs, ∃ y, R x y := by
  induction xs with
  | nil => simp
  | cons x rest ih =>
    rw [List.forall_mem_cons, ← ih]
    constructor
    · rintro ⟨_, hxy⟩
      obtain ⟨y, others, hy, hothers, rfl⟩ := List.forall₂_cons_left_iff.mp hxy
      exact ⟨⟨y, hy⟩, others, hothers⟩
    · rintro ⟨⟨y, hy⟩, others, hothers⟩
      exact ⟨y :: others, .cons hy hothers⟩

theorem accepts_listOf (h : ∀ d, Accepts check d ↔ P d) (d : Data) :
    Accepts (listOf check) d ↔ d.IsListOf P := by
  simp only [Accepts, listOf_eq_valid_iff, IsListOf]
  refine exists_comm.trans (exists_congr fun items => exists_and_left.trans ?_)
  refine and_congr_right fun _ => exists_forall₂_iff.trans ?_
  exact forall₂_congr fun x _ => h x

end Schema
end Typestate
