import Mathlib.Data.List.Basic

/-! # Outcomes of sequences

A computation that can fail ends at its first failure. The lemmas say what is known of the parts of
a computation from the outcome of the whole.

* `bind_eq_ok`, `bind_eq_error`: two computations one after the other.
* `exists_mapM_ok_iff`: a computation on every item of a list succeeds if each of them does.
* `exists_mapM_error_iff`: it fails if one of them does.
* `mapM_eq_ok_map`: its result, where the results of the items are given by a function;
  `mapM_eq_ok_self`: where the items are only checked.
* `mapM_eq_error`: it fails with the failure of the first item that fails.
* `exists_last_cons`: where the last item of a kind is.
* `Meets`: what is true of a computation, whether it succeeds or fails.
* `Corresponds`: two computations that succeed together or fail together. -/

namespace Typestate.Outcome

variable {α β ε ε' : Type}

theorem bind_eq_ok {x : Except ε α} {f : α → Except ε β} {b : β} :
    (x >>= f) = .ok b ↔ ∃ a, x = .ok a ∧ f a = .ok b := by
  cases x <;> simp [Bind.bind, Except.bind]

theorem bind_eq_error {x : Except ε α} {f : α → Except ε β} {e : ε} :
    (x >>= f) = .error e ↔ x = .error e ∨ ∃ a, x = .ok a ∧ f a = .error e := by
  cases x <;> simp [Bind.bind, Except.bind]

theorem mapError_eq_ok {x : Except ε α} {f : ε → ε'} {a : α} :
    x.mapError f = .ok a ↔ x = .ok a := by
  cases x <;> simp [Except.mapError]

theorem mapError_eq_error {x : Except ε α} {f : ε → ε'} {e : ε'} :
    x.mapError f = .error e ↔ ∃ d, x = .error d ∧ f d = e := by
  cases x <;> simp [Except.mapError]

/-- A computation fails exactly if it does not succeed. -/
theorem exists_error_iff {x : Except ε α} : (∃ e, x = .error e) ↔ ¬ ∃ a, x = .ok a := by
  cases x <;> simp

/-! ### Every item of a list -/

/-- **A sequence succeeds exactly if each of its items does.** -/
theorem exists_mapM_ok_iff {f : α → Except ε β} {xs : List α} :
    (∃ ys, xs.mapM f = .ok ys) ↔ ∀ x ∈ xs, ∃ y, f x = .ok y := by
  induction xs with
  | nil => simp [pure, Except.pure]
  | cons x rest ih =>
    simp only [List.mapM_cons, bind_eq_ok, List.forall_mem_cons, ← ih]
    constructor
    · rintro ⟨_, y, hy, others, hothers, -⟩
      exact ⟨⟨y, hy⟩, others, hothers⟩
    · rintro ⟨⟨y, hy⟩, others, hothers⟩
      exact ⟨_, y, hy, others, hothers, rfl⟩

/-- **A sequence fails exactly if one of its items does.** -/
theorem exists_mapM_error_iff {f : α → Except ε β} {xs : List α} :
    (∃ e, xs.mapM f = .error e) ↔ ∃ x ∈ xs, ∃ e, f x = .error e := by
  simp only [exists_error_iff, exists_mapM_ok_iff]
  push Not
  rfl

/-- **Items that succeed under a condition, with a known result**: so does the sequence, if the
condition holds for all of them. -/
theorem mapM_eq_ok_map {f : α → Except ε β} {g : α → β} {Q : α → Prop} {xs : List α} {ys : List β}
    (h : ∀ x ∈ xs, ∀ y, f x = .ok y ↔ Q x ∧ y = g x) :
    xs.mapM f = .ok ys ↔ (∀ x ∈ xs, Q x) ∧ ys = xs.map g := by
  induction xs generalizing ys with
  | nil => simp [pure, Except.pure, eq_comm]
  | cons x rest ih =>
    have ih' : ∀ others, rest.mapM f = .ok others ↔ (∀ x ∈ rest, Q x) ∧ others = rest.map g :=
      fun _ => ih fun y hy => h y (List.mem_cons_of_mem x hy)
    rw [List.mapM_cons, bind_eq_ok, List.forall_mem_cons, List.map_cons]
    constructor
    · rintro ⟨b, hb, hrest⟩
      obtain ⟨others, hothers, hys⟩ := bind_eq_ok.mp hrest
      obtain ⟨hx, rfl⟩ := (h x (by simp) b).mp hb
      obtain ⟨hq, rfl⟩ := (ih' others).mp hothers
      cases hys
      exact ⟨⟨hx, hq⟩, rfl⟩
    · rintro ⟨⟨hx, hq⟩, rfl⟩
      exact ⟨g x, (h x (by simp) _).mpr ⟨hx, rfl⟩,
        bind_eq_ok.mpr ⟨rest.map g, (ih' _).mpr ⟨hq, rfl⟩, rfl⟩⟩

/-- A check that lets every item of a list pass lets the list pass. -/
theorem mapM_eq_ok_self {f : α → Except ε α} {xs : List α} (h : ∀ x ∈ xs, f x = .ok x) :
    xs.mapM f = .ok xs := by
  refine (mapM_eq_ok_map (g := id) (Q := fun _ => True) fun x hx y => ?_).mpr
    ⟨fun _ _ => trivial, (List.map_id xs).symm⟩
  rw [h x hx, Except.ok.injEq, true_and, eq_comm]
  rfl

/-- What comes of a list whose items all give something comes of one of its items. -/
theorem exists_of_mem_mapM {f : α → Option β} {xs : List α} {ys : List β}
    (h : xs.mapM f = some ys) {y : β} (hy : y ∈ ys) : ∃ x ∈ xs, f x = some y := by
  induction xs generalizing ys with
  | nil =>
    cases h
    cases hy
  | cons x rest ih =>
    rw [List.mapM_cons] at h
    obtain ⟨z, hz, h⟩ := Option.bind_eq_some_iff.mp h
    obtain ⟨others, hothers, h⟩ := Option.bind_eq_some_iff.mp h
    cases h
    rcases List.mem_cons.mp hy with rfl | hy
    · exact ⟨x, by simp, hz⟩
    · obtain ⟨x', hx', hf⟩ := ih hothers hy
      exact ⟨x', List.mem_cons_of_mem x hx', hf⟩

/-- **The first failure ends the sequence**; the items behind it do not matter. -/
theorem mapM_eq_error {f : α → Except ε β} {xs : List α} {e : ε} :
    xs.mapM f = .error e ↔ ∃ before x after, xs = before ++ x :: after ∧
      (∀ b ∈ before, ∃ y, f b = .ok y) ∧ f x = .error e := by
  induction xs with
  | nil =>
    constructor
    · intro h
      cases h
    · rintro ⟨before, x, after, h, -, -⟩
      simp at h
  | cons x rest ih =>
    rw [List.mapM_cons, bind_eq_error]
    constructor
    · rintro (hx | ⟨y, hy, h⟩)
      · exact ⟨[], x, rest, rfl, by simp, hx⟩
      · rcases bind_eq_error.mp h with h | ⟨others, -, h⟩
        · obtain ⟨before, z, after, rfl, hbefore, hz⟩ := ih.mp h
          refine ⟨x :: before, z, after, rfl, fun b hb => ?_, hz⟩
          rcases List.mem_cons.mp hb with rfl | hb
          · exact ⟨y, hy⟩
          · exact hbefore b hb
        · cases h
    · rintro ⟨before, z, after, h, hbefore, hz⟩
      cases before with
      | nil =>
        obtain ⟨rfl, rfl⟩ := List.cons.inj h
        exact .inl hz
      | cons b before =>
        obtain ⟨rfl, rfl⟩ := List.cons.inj h
        obtain ⟨y, hy⟩ := hbefore x (by simp)
        refine .inr ⟨y, hy, bind_eq_error.mpr (.inl (ih.mpr ?_))⟩
        exact ⟨before, z, after, rfl, fun b hb => hbefore b (by simp [hb]), hz⟩

/-! ### The last item -/

/-- **The last item of a kind**, with items behind it that leave it the last one: it is in the rest
of the list, or it is the first item. -/
theorem exists_last_cons {P R : α → Prop} {x : α} {rest : List α} :
    (∃ earlier y later, x :: rest = earlier ++ y :: later ∧ P y ∧ ∀ z ∈ later, R z) ↔
      (∃ earlier y later, rest = earlier ++ y :: later ∧ P y ∧ ∀ z ∈ later, R z) ∨
        P x ∧ ∀ z ∈ rest, R z := by
  constructor
  · rintro ⟨earlier, y, later, h, hy, hlater⟩
    cases earlier with
    | nil =>
      obtain ⟨rfl, rfl⟩ := List.cons.inj h
      exact .inr ⟨hy, hlater⟩
    | cons first earlier =>
      obtain ⟨rfl, rfl⟩ := List.cons.inj h
      exact .inl ⟨earlier, y, later, rfl, hy, hlater⟩
  · rintro (⟨earlier, y, later, rfl, hy, hlater⟩ | ⟨hx, hrest⟩)
    · exact ⟨x :: earlier, y, later, rfl, hy, hlater⟩
    · exact ⟨[], x, rest, rfl, hx, hrest⟩

/-! ### Both ways to end -/

/-- What is true of a computation, however it ends: `P` of its result, or `F` of its failure. -/
def Meets (P : α → Prop) (F : ε → Prop) : Except ε α → Prop
  | .ok a => P a
  | .error e => F e

namespace Meets

variable {P P' : α → Prop} {Q : β → Prop} {F F' : ε → Prop} {x : Except ε α}

theorem mono (h : Meets P F x) (hP : ∀ a, P a → P' a) (hF : ∀ e, F e → F' e) : Meets P' F' x := by
  cases x with
  | ok a => exact hP a h
  | error e => exact hF e h

/-- **One computation after another.** -/
theorem bind {f : α → Except ε β} (h : Meets P F x) (hf : ∀ a, P a → Meets Q F (f a)) :
    Meets Q F (x >>= f) := by
  cases x with
  | ok a => exact hf a h
  | error e => exact h

theorem fmap {f : α → β} (h : Meets P F x) (hf : ∀ a, P a → Q (f a)) : Meets Q F (f <$> x) := by
  cases x with
  | ok a => exact hf a h
  | error e => exact h

theorem error {e : ε} (h : Meets P F x) (he : x = .error e) : F e := by
  subst he
  exact h

end Meets

/-! ### Two computations -/

/-- Two computations succeed with results that are related by `P`, or fail with failures that are
related by `F`. -/
inductive Corresponds (P : α → β → Prop) (F : ε → ε' → Prop) : Except ε α → Except ε' β → Prop where
  | ok {a : α} {b : β} : P a b → Corresponds P F (.ok a) (.ok b)
  | error {e : ε} {e' : ε'} : F e e' → Corresponds P F (.error e) (.error e')

namespace Corresponds

variable {α' β' ε₁ ε₁' : Type} {P : α → β → Prop} {Q : α' → β' → Prop} {F : ε → ε' → Prop}
  {x : Except ε α} {y : Except ε' β}

theorem refl (x : Except ε α) : Corresponds Eq Eq x x := by
  cases x with
  | ok a => exact .ok rfl
  | error e => exact .error rfl

theorem mono {P' : α → β → Prop} (h : Corresponds P F x y) (hP : ∀ a b, P a b → P' a b) :
    Corresponds P' F x y := by
  cases h with
  | ok hab => exact .ok (hP _ _ hab)
  | error he => exact .error he

/-- **One computation after another, on both sides.** -/
theorem bind {f : α → Except ε α'} {g : β → Except ε' β'} (h : Corresponds P F x y)
    (hfg : ∀ a b, P a b → Corresponds Q F (f a) (g b)) : Corresponds Q F (x >>= f) (y >>= g) := by
  cases h with
  | ok hab => exact hfg _ _ hab
  | error he => exact .error he

theorem mapError {f : ε → ε₁} {g : ε' → ε₁'} {F' : ε₁ → ε₁' → Prop} (h : Corresponds P F x y)
    (hF : ∀ e e', F e e' → F' (f e) (g e')) : Corresponds P F' (x.mapError f) (y.mapError g) := by
  cases h with
  | ok hab => exact .ok hab
  | error he => exact .error (hF _ _ he)

/-- **A computation on every item of a list, on both sides.** -/
theorem mapM {f : α → Except ε α'} {g : β → Except ε' β'} {xs : List α} {ys : List β}
    (h : List.Forall₂ (fun a b => Corresponds Q F (f a) (g b)) xs ys) :
    Corresponds (List.Forall₂ Q) F (xs.mapM f) (ys.mapM g) := by
  induction h with
  | nil => exact .ok .nil
  | cons hhead _ ih =>
    rw [List.mapM_cons, List.mapM_cons]
    exact hhead.bind fun a b hab => ih.bind fun others others' hothers => .ok (.cons hab hothers)

theorem of_ok {a : α} (h : Corresponds P F x y) (hx : x = .ok a) : ∃ b, y = .ok b ∧ P a b := by
  subst hx
  cases h with
  | ok hab => exact ⟨_, rfl, hab⟩

theorem of_error {e : ε} (h : Corresponds P F x y) (hx : x = .error e) :
    ∃ e', y = .error e' ∧ F e e' := by
  subst hx
  cases h with
  | error he => exact ⟨_, rfl, he⟩

/-- What is read off the results is the same. -/
theorem map_eq {γ : Type} {y : Except ε β} {f : α → γ} {g : β → γ}
    (h : Corresponds (fun a b => g b = f a) Eq x y) : y.map g = x.map f := by
  cases h with
  | ok hab => exact congrArg Except.ok hab
  | error he => exact congrArg Except.error he.symm

/-- The one succeeds exactly if the other does. -/
theorem exists_ok_iff (h : Corresponds P F x y) : (∃ a, x = .ok a) ↔ ∃ b, y = .ok b := by
  cases h <;> simp

end Corresponds
end Typestate.Outcome
