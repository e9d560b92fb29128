import Typestate.Proofs.NameTable

/-! # State names that can be told apart

The name of a wrapper is the states of its permutation one after another, and it is not written
where one ends. It can be read back from the left if in every group but the last no state is the
beginning of another one, and from the right if in every group but the first none is the end of
another one; what states of different groups have in common does not matter.

* `Words.IsPrefixFree`, `Words.IsSuffixFree`: words none of which begins, or ends, another one.
* `Words.eq_of_flatten_eq`: one word of each code can be read back from the left; from the right
  (`Words.eq_of_flatten_eq_right`) by reading everything in reverse.
* `GroupMap.Decodable`: the groups name their states in one of these ways.
* `decodable_names_differ`: then no two permutations share a name. -/

namespace Typestate

/-! ### Words -/

namespace Words

variable {α : Type} {codes : List (List (List α))} {xs ys : List (List α)}

/-- No word is the beginning of another one. -/
def IsPrefixFree (code : List (List α)) : Prop := ∀ x ∈ code, ∀ y ∈ code, x <+: y → x = y

/-- No word is the end of another one. -/
def IsSuffixFree (code : List (List α)) : Prop := ∀ x ∈ code, ∀ y ∈ code, x <:+ y → x = y

/-- Words of a prefix-free code with the same text behind them are equal. -/
theorem IsPrefixFree.eq_of_append_eq {code : List (List α)} (h : IsPrefixFree code)
    {x y u v : List α} (hx : x ∈ code) (hy : y ∈ code) (he : x ++ u = y ++ v) : x = y := by
  have hxv : x <+: y ++ v := he ▸ List.prefix_append x u
  rcases List.prefix_or_prefix_of_prefix hxv (List.prefix_append y v) with hxy | hyx
  · exact h x hx y hy hxy
  · exact (h y hy x hx hyx).symm

/-- **A text of one word of each code can be read from the left**, if all codes but the last are
prefix-free. -/
theorem eq_of_flatten_eq (h : ∀ code ∈ codes.dropLast, IsPrefixFree code)
    (hx : List.Forall₂ (· ∈ ·) xs codes) (hy : List.Forall₂ (· ∈ ·) ys codes)
    (he : xs.flatten = ys.flatten) : xs = ys := by
  induction hx generalizing ys with
  | nil => exact (List.forall₂_nil_right_iff.mp hy).symm
  | @cons x code xs codes hx hxs ih =>
    obtain ⟨y, ys, hyc, hys, rfl⟩ := List.forall₂_cons_right_iff.mp hy
    cases codes with
    | nil =>
      -- the last word is all of the text that is left
      rw [List.forall₂_nil_right_iff.mp hxs, List.forall₂_nil_right_iff.mp hys] at he ⊢
      simpa using he
    | cons next rest =>
      rw [List.dropLast_cons_cons, List.forall_mem_cons] at h
      rw [List.flatten_cons, List.flatten_cons] at he
      obtain rfl := h.1.eq_of_append_eq hx hyc he
      rw [ih h.2 hys (List.append_cancel_left he)]

theorem IsSuffixFree.reverse {code : List (List α)} (h : IsSuffixFree code) :
    IsPrefixFree (code.map List.reverse) := by
  intro x hx y hy hxy
  obtain ⟨u, hu, rfl⟩ := List.mem_map.mp hx
  obtain ⟨v, hv, rfl⟩ := List.mem_map.mp hy
  rw [h u hu v hv (List.reverse_prefix.mp hxy)]

/-- **A text of one word of each code can be read from the right**, if all codes but the first are
suffix-free. -/
theorem eq_of_flatten_eq_right (h : ∀ code ∈ codes.tail, IsSuffixFree code)
    (hx : List.Forall₂ (· ∈ ·) xs codes) (hy : List.Forall₂ (· ∈ ·) ys codes)
    (he : xs.flatten = ys.flatten) : xs = ys := by
  -- in reverse, the words of the last code come first
  have hreversed : ∀ {zs : List (List α)}, List.Forall₂ (· ∈ ·) zs codes →
      List.Forall₂ (· ∈ ·) (zs.map List.reverse).reverse
        (codes.map (List.map List.reverse)).reverse := fun hz => by
    rw [List.forall₂_reverse_iff, List.forall₂_map_left_iff, List.forall₂_map_right_iff]
    exact hz.imp fun x code hx => List.mem_map_of_mem hx
  have hfree : ∀ code ∈ ((codes.map (List.map List.reverse)).reverse).dropLast,
      IsPrefixFree code := by
    rw [List.dropLast_reverse, ← List.map_tail]
    intro code hcode
    obtain ⟨code, hmem, rfl⟩ := List.mem_map.mp (List.mem_reverse.mp hcode)
    exact (h code hmem).reverse
  have heq := eq_of_flatten_eq hfree (hreversed hx) (hreversed hy) (by
    rw [← List.reverse_flatten, ← List.reverse_flatten, he])
  exact List.map_injective_iff.mpr List.reverse_injective (List.reverse_injective heq)

end Words

/-! ### Names of states -/

namespace StateGroup

/-- No state is the beginning of another one. -/
def PrefixFree (g : StateGroup) : Prop :=
  ∀ s ∈ g.states, ∀ t ∈ g.states, s.toList <+: t.toList → s = t

/-- No state is the end of another one. -/
def SuffixFree (g : StateGroup) : Prop :=
  ∀ s ∈ g.states, ∀ t ∈ g.states, s.toList <:+ t.toList → s = t

instance (g : StateGroup) : Decidable g.PrefixFree :=
  inferInstanceAs (Decidable (∀ s ∈ g.states, ∀ t ∈ g.states, s.toList <+: t.toList → s = t))

instance (g : StateGroup) : Decidable g.SuffixFree :=
  inferInstanceAs (Decidable (∀ s ∈ g.states, ∀ t ∈ g.states, s.toList <:+ t.toList → s = t))

/-- The states as words. -/
def words (g : StateGroup) : List (List Char) := g.states.map String.toList

theorem PrefixFree.words {g : StateGroup} (h : g.PrefixFree) : Words.IsPrefixFree g.words := by
  intro x hx y hy hxy
  obtain ⟨s, hs, rfl⟩ := List.mem_map.mp hx
  obtain ⟨t, ht, rfl⟩ := List.mem_map.mp hy
  rw [h s hs t ht hxy]

theorem SuffixFree.words {g : StateGroup} (h : g.SuffixFree) : Words.IsSuffixFree g.words := by
  intro x hx y hy hxy
  obtain ⟨s, hs, rfl⟩ := List.mem_map.mp hx
  obtain ⟨t, ht, rfl⟩ := List.mem_map.mp hy
  rw [h s hs t ht hxy]

end StateGroup

namespace Permutation

theorem toList_concat (states : List String) :
    (concat states).toList = (states.map String.toList).flatten := by
  induction states with
  | nil => rfl
  | cons s rest ih => rw [concat, String.toList_append, ih, List.map_cons, List.flatten_cons]

/-- A choice has one item of each list. -/
theorem forall₂_of_mem_choices {α : Type} {ls : List (List α)} {xs : List α} (h : xs ∈ choices ls) :
    List.Forall₂ (· ∈ ·) xs ls := by
  induction ls generalizing xs with
  | nil =>
    obtain rfl := List.mem_singleton.mp h
    exact .nil
  | cons l rest ih =>
    obtain ⟨a, ha, hxs⟩ := List.mem_flatMap.mp h
    obtain ⟨others, hothers, rfl⟩ := List.mem_map.mp hxs
    exact .cons ha (ih hothers)

end Permutation

namespace GroupMap

variable {m : GroupMap}

/-- The groups name their states so that a name can be read from the left or from the right. -/
def Decodable (m : GroupMap) : Prop :=
  (∀ g ∈ m.groups.dropLast, g.PrefixFree) ∨ ∀ g ∈ m.groups.tail, g.SuffixFree

/-- A permutation has one word of each group. -/
theorem forall₂_words {p : Permutation} (hp : p ∈ Permutation.enumerate m.stateLists) :
    List.Forall₂ (· ∈ ·) (p.states.map String.toList) (m.groups.map StateGroup.words) := by
  have hne : m.stateLists ≠ [] := by
    simpa [stateLists] using (mem_enumerate.mp hp).1
  rw [Permutation.enumerate_of_ne_nil hne] at hp
  obtain ⟨states, hstates, rfl⟩ := List.mem_map.mp hp
  have hmem := Permutation.forall₂_of_mem_choices hstates
  rw [stateLists, List.forall₂_map_right_iff] at hmem
  rw [List.forall₂_map_left_iff, List.forall₂_map_right_iff]
  exact hmem.imp fun s g hs => List.mem_map_of_mem hs

/-- **The groups confuse no permutations if they can be decoded.** -/
theorem Decodable.not_confuses (h : m.Decodable) : ¬ m.Confuses := by
  rw [not_confuses_iff]
  intro p hp q hq htext
  have hwords : (p.states.map String.toList).flatten = (q.states.map String.toList).flatten := by
    rw [← Permutation.toList_concat, ← Permutation.toList_concat, htext]
  have heq : p.states.map String.toList = q.states.map String.toList := by
    rcases h with hleft | hright
    · refine Words.eq_of_flatten_eq (fun code hcode => ?_) (forall₂_words hp)
        (forall₂_words hq) hwords
      rw [← List.map_dropLast] at hcode
      obtain ⟨g, hg, rfl⟩ := List.mem_map.mp hcode
      exact (hleft g hg).words
    · refine Words.eq_of_flatten_eq_right (fun code hcode => ?_) (forall₂_words hp)
        (forall₂_words hq) hwords
      rw [← List.map_tail] at hcode
      obtain ⟨g, hg, rfl⟩ := List.mem_map.mp hcode
      exact (hright g hg).words
  have hstates : p.states = q.states :=
    List.map_injective_iff.mpr (fun _ _ => String.toList_injective) heq
  cases p
  cases q
  exact congrArg Permutation.mk hstates

end GroupMap

/-! ### Generation -/

/-- **Names that can be decoded are not shared.** If the states of a checked entity are named so
that no state begins another one of its group, except in the last group, or so that none ends
another one, except in the first, then with every suffix the name of a wrapper determines its
permutation. Whatever the capabilities, the relations, the settings and the schedule, the wrappers
that are assembled make a unit. So generation ends with the code for shared names exactly if it
comes to a condition whose relation fails with that code, and then it is a relation of the registry
that does. -/
theorem decodable_names_differ {entity : Entity} {m : GroupMap} (hm : m.groups = entity.groups)
    (hvalid : m.validate (some entity.name) = .ok ()) (h : m.Decodable) :
    (∀ suffix, ∀ p ∈ Permutation.enumerate m.stateLists, ∀ q ∈ Permutation.enumerate m.stateLists,
      p.typeName suffix = q.typeName suffix → p = q) ∧
    ∀ (schedule : Schedule) (settings : Settings) (registry : Registry),
      (∀ wrappers, assembleAll schedule settings.maxWorkers
          (Assembler.ofEntity settings registry entity m) (Permutation.enumerate m.stateLists) =
            .ok wrappers →
        ∃ u, CompilationUnit.make entity wrappers settings.nameSuffix = .ok u) ∧
      (∀ e, generateBy schedule settings registry entity = .error e →
        e.code? = some .nameCollision → registry.Raises .nameCollision) ∧
      ((∃ e, generateBy schedule settings registry entity = .error e ∧
          e.code? = some .nameCollision) ↔
        (Assembler.ofEntity settings registry entity m).PassesOn .nameCollision) := by
  have hu : m.allStates.Nodup := GroupMap.validate_eq_ok_iff.mp hvalid
  have hdiffer := GroupMap.not_confuses_iff.mp h.not_confuses
  have hpasses : ∀ (schedule : Schedule) (settings : Settings) (registry : Registry) (e : Failure),
      generateBy schedule settings registry entity = .error e → e.code? = some .nameCollision →
      (Assembler.ofEntity settings registry entity m).PassesOn .nameCollision := by
    intro schedule settings registry e he hcode
    have hends : Ends settings registry entity m (.error e) :=
      he ▸ ends_generateBy schedule settings registry hm
    refine (hends.passesOn hcode (by decide)).resolve_right ?_
    rintro ⟨-, p, hp, q, hq, hne, hname⟩
    exact hne (hdiffer p hp q hq ((String.append_left_inj settings.nameSuffix).mp hname))
  refine ⟨fun suffix p hp q hq hname => ?_,
    fun schedule settings registry => ⟨fun wrappers hws => ?_, fun e he hcode => ?_,
      fun ⟨e, he, hcode⟩ => hpasses schedule settings registry e he hcode,
      generateBy_of_passesOn hm schedule⟩⟩
  · exact hdiffer p hp q hq ((String.append_left_inj suffix).mp hname)
  · rw [assembleAll_eq_mapM] at hws
    obtain ⟨-, rfl⟩ := (Assembler.mapM_assemble_eq_ok_iff
      (Assembler.ofEntity settings registry entity m)).mp hws
    exact ⟨_, CompilationUnit.make_eq_ok
      ((nodup_typeNames_iff settings registry entity hu).mpr hdiffer)⟩
  · exact (hpasses schedule settings registry e he hcode).raises (by decide)

/-- A hinge: its first group can be read from the left, and the second one begins like the first. -/
def hinge : Entity :=
  { joint with name := "Hinge", groups := [⟨"Left", ["A", "BA"]⟩, ⟨"Right", ["", "AB", "B"]⟩] }

/-- The groups of the hinge. -/
def hingeGroups : GroupMap := ⟨hinge.groups, by decide⟩

/-- The names of the hinge can be read, although states of its groups overlap, and the code for
shared names does not come out of its generation under the built-in relations. -/
theorem decodable_names_differ_hinge :
    hingeGroups.validate (some "Hinge") = .ok () ∧ hingeGroups.Decodable ∧
      (∀ p ∈ Permutation.enumerate hingeGroups.stateLists, p.typeName "State" = "BABState" →
        p = ⟨["BA", "B"]⟩) ∧
      ∀ settings e, generate settings Registry.builtin hinge = .error e →
        e.code? ≠ some .nameCollision := by
  have hvalid : hingeGroups.validate (some "Hinge") = .ok () := rfl
  have hdecodable : hingeGroups.Decodable := .inl (by decide)
  obtain ⟨hname, hgenerate⟩ := @decodable_names_differ hinge _ rfl hvalid hdecodable
  refine ⟨hvalid, hdecodable, fun p hp h => ?_, fun settings e he hcode => ?_⟩
  · exact hname "State" p hp ⟨["BA", "B"]⟩ (by decide) h
  · cases Registry.code_of_raises_builtin
      ((hgenerate Schedule.inOrder settings Registry.builtin).2.1 e he hcode)

/-- The names of a lamp with one group can be read, and yet generation passes on the code for shared
names if a relation fails with it. -/
theorem name_collision_passed_on :
    (⟨stubborn.groups, by decide⟩ : GroupMap).validate (some stubborn.name) = .ok () ∧
      (⟨stubborn.groups, by decide⟩ : GroupMap).Decodable ∧
      ∃ e, generate {} (refusingRegistry .nameCollision) stubborn = .error e ∧
        e.code? = some .nameCollision :=
  ⟨rfl, .inl (by decide), (generate_stubborn _).2⟩

end Typestate
