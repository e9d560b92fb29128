import Typestate.Text.LetterCase

/-! # Lower case is final

A text in lower case is left alone by a second conversion, wherever its characters stand: no image
of a letter has a lower case of its own, and no capital sigma, which is the only letter whose lower
case depends on its neighbours, is left.

* `CaseRun.IsClearOf`: no image of a run is in a table; it is decided by looking at the ends of the
  runs, and `lowerRuns_clear` says that it holds throughout the table of lower case.
* `IsSettled`: a character that is its own lower case wherever it stands. Every character of a text
  in lower case is (`isSettled_of_mem_lowerFrom`).
* `lower_lower`: conversion to lower case is idempotent. -/

namespace Typestate.Text

/-! ### Runs -/

namespace CaseRun

/-- The distance from the first character of the run to the last one. -/
def reach (r : CaseRun) : Nat := r.last - r.first

/-- Every second character belongs to `q`, and the images of `r` are among the others. -/
def interleaves (r q : CaseRun) : Bool :=
  Nat.beq q.step 2 && (Nat.beq r.step 2 || Nat.beq r.reach 0) && Nat.beq ((r.image + q.first) % 2) 1

/-- No image of the run is looked up in the table, as far as the ends of the runs tell: the images
are below a run, where a look-up ends, or above it, or stand between its characters. -/
def misses (r : CaseRun) : List CaseRun → Bool
  | [] => true
  | q :: rest =>
    Nat.blt (r.image + r.reach) q.first ||
      (Nat.blt q.last r.image || r.interleaves q) && r.misses rest

/-- The images of the run are characters, none of which is in the table or is the capital `İ`. -/
structure IsClearOf (r : CaseRun) (table : List CaseRun) : Prop where
  misses : r.misses table = true
  undotted : r.image + r.reach < 'İ'.toNat ∨ 'İ'.toNat < r.image
  valid : r.image + r.reach < 0xd800 ∨ 0xdfff < r.image ∧ r.image + r.reach < 0x110000

instance (r : CaseRun) (table : List CaseRun) : Decidable (r.IsClearOf table) :=
  decidable_of_iff (r.misses table = true ∧
      (r.image + r.reach < 'İ'.toNat ∨ 'İ'.toNat < r.image) ∧
      (r.image + r.reach < 0xd800 ∨ 0xdfff < r.image ∧ r.image + r.reach < 0x110000))
    ⟨fun ⟨h₁, h₂, h₃⟩ => ⟨h₁, h₂, h₃⟩, fun ⟨h₁, h₂, h₃⟩ => ⟨h₁, h₂, h₃⟩⟩

end CaseRun

/-- **The images of lower case have no lower case of their own.** -/
theorem lowerRuns_clear : ∀ r ∈ lowerRuns, r.IsClearOf lowerRuns := by
  decide +kernel

/-- An image belongs to a run, and lies in it as far as its character. -/
theorem exists_run_of_runImage? {table : List CaseRun} {n m : Nat}
    (h : runImage? table n = some m) :
    ∃ r ∈ table, ∃ d ≤ r.reach, d % r.step = 0 ∧ m = r.image + d := by
  induction table with
  | nil => cases h
  | cons r rest ih =>
    rw [runImage?] at h
    split at h
    · cases h
    split at h
    · split at h
      · next hd =>
        cases h
        exact ⟨r, by simp, n - r.first, by unfold CaseRun.reach; omega, hd, rfl⟩
      · cases h
    · obtain ⟨r', hr', hd⟩ := ih h
      exact ⟨r', List.mem_cons_of_mem r hr', hd⟩

/-- **A table that a run misses holds no image of it.** -/
theorem runImage?_eq_none {r : CaseRun} {table : List CaseRun} (h : r.misses table = true) {d : Nat}
    (hd : d ≤ r.reach) (hstep : d % r.step = 0) : runImage? table (r.image + d) = none := by
  induction table with
  | nil => rfl
  | cons q rest ih =>
    rw [CaseRun.misses] at h
    simp only [Bool.or_eq_true, Bool.and_eq_true, Nat.blt_eq] at h
    rw [runImage?]
    rcases h with hbelow | ⟨habove | hbetween, hrest⟩
    · rw [if_pos (by omega)]
    · rw [ih hrest, if_neg (show ¬ r.image + d ≤ q.last by omega), ite_self]
    · -- the run takes every second character, and the image is not one of them
      simp only [CaseRun.interleaves, Bool.and_eq_true, Bool.or_eq_true, Nat.beq_eq] at hbetween
      obtain ⟨⟨hqstep, hrstep⟩, hparity⟩ := hbetween
      have heven : d % 2 = 0 := by
        rcases hrstep with hrstep | hreach
        · rwa [hrstep] at hstep
        · omega
      by_cases hlow : r.image + d < q.first
      · rw [if_pos hlow]
      · have hodd : (r.image + d - q.first) % q.step ≠ 0 := by
          rw [hqstep]
          omega
        rw [if_neg hlow, if_neg hodd, ih hrest, ite_self]

/-! ### Characters -/

/-- The character is its own lower case, wherever it stands. -/
structure IsSettled (c : Char) : Prop where
  not_sigma : c ≠ 'Σ'
  fixed : lowerChar c = [c]

theorem isSettled_of_runImage? {n m : Nat} (h : runImage? lowerRuns n = some m) :
    IsSettled (Char.ofNat m) := by
  obtain ⟨r, hr, d, hd, hstep, rfl⟩ := exists_run_of_runImage? h
  obtain ⟨hmisses, hundotted, hvalid⟩ := lowerRuns_clear r hr
  have hvalid' : (r.image + d).isValidChar := by
    unfold Nat.isValidChar
    omega
  have hnat : (Char.ofNat (r.image + d)).toNat = r.image + d := by
    rw [Char.ofNat, dif_pos hvalid']
    rfl
  have hnone := runImage?_eq_none hmisses hd hstep
  constructor
  · intro hsigma
    rw [← hnat, hsigma] at hnone
    revert hnone
    decide +kernel
  · have hne : Char.ofNat (r.image + d) ≠ 'İ' := fun hdot => by
      rw [hdot] at hnat
      omega
    rw [lowerChar, if_neg hne, hnat, hnone]

/-- **What a character is turned into stays.** -/
theorem isSettled_of_mem_lowerChar {c d : Char} (hc : c ≠ 'Σ') (h : d ∈ lowerChar c) :
    IsSettled d := by
  have hdotted : ∀ d ∈ ['i', '\u0307'], IsSettled d := by
    simp only [List.forall_mem_cons]
    exact ⟨⟨by decide, by decide +kernel⟩, ⟨by decide, by decide +kernel⟩, by simp⟩
  unfold lowerChar at h
  split at h
  · exact hdotted d h
  next hdot =>
  split at h
  · next n hn =>
    obtain rfl := List.mem_singleton.mp h
    exact isSettled_of_runImage? hn
  · next hn =>
    obtain rfl := List.mem_singleton.mp h
    exact ⟨hc, by rw [lowerChar, if_neg hdot, hn]⟩

/-! ### Texts -/

/-- **A text in lower case consists of settled characters.** -/
theorem isSettled_of_mem_lowerFrom {afterCased : Bool} {cs : List Char} {d : Char}
    (h : d ∈ lowerFrom afterCased cs) : IsSettled d := by
  induction cs generalizing afterCased with
  | nil => cases h
  | cons c rest ih =>
    rw [lowerFrom] at h
    rcases List.mem_append.mp h with h | h
    · split at h
      · -- both forms of the small sigma stay
        have hsmall : ∀ d ∈ ['ς', 'σ'], IsSettled d := by
          simp only [List.forall_mem_cons]
          exact ⟨⟨by decide, by decide +kernel⟩, ⟨by decide, by decide +kernel⟩, by simp⟩
        refine hsmall d ?_
        split at h <;> simp_all
      · next hc => exact isSettled_of_mem_lowerChar hc h
    · exact ih h

theorem lowerFrom_of_isSettled {afterCased : Bool} {cs : List Char} (h : ∀ c ∈ cs, IsSettled c) :
    lowerFrom afterCased cs = cs := by
  induction cs generalizing afterCased with
  | nil => rfl
  | cons c rest ih =>
    obtain ⟨hc, hrest⟩ := List.forall_mem_cons.mp h
    rw [lowerFrom, if_neg hc.not_sigma, hc.fixed, ih hrest]
    rfl

/-- **Lower case is left alone by a second conversion.** -/
theorem lower_lower (s : String) : lower (lower s) = lower s := by
  rw [← String.toList_inj, toList_lower, toList_lower]
  exact lowerFrom_of_isSettled fun c hc => isSettled_of_mem_lowerFrom hc

/-- **No text vanishes.** -/
theorem lower_eq_empty_iff {s : String} : lower s = "" ↔ s = "" := by
  have hchar : ∀ c, lowerChar c ≠ [] := fun c => by
    unfold lowerChar
    split
    · simp
    · split <;> simp
  rw [← String.toList_inj, toList_lower, ← String.toList_inj]
  cases s.toList with
  | nil => simp [lowerFrom]
  | cons c rest =>
    rw [lowerFrom]
    split <;> simp [hchar]

end Typestate.Text
