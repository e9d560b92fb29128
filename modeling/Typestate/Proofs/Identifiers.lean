import Typestate.Proofs.Bindings
import Typestate.Proofs.LowerCase

/-! # Listed identifiers

The identifiers that a registry lists, as in the report about an unknown relation, can be used as
they stand. This is an invariant of its entries: whatever is asked of the registry, they are in
lower case, and lower case is left alone by the conversion that every request begins with.

* `Registry.WellKeyed`: the identifiers are in lower case, none is empty and none is bound twice.
* `WellKeyed.next`, `wellKeyed_after_start`: every step keeps it, and so does a run of steps.
* `listed_identifiers_resolve`: what is listed is contained, found, and not bound again. -/

namespace Typestate.Registry

/-! ### The invariant -/

/-- The registry binds texts in lower case, and each of them once. -/
structure WellKeyed (r : Registry) : Prop where
  lower : ∀ key ∈ r.entries.map (·.1), Text.lower key = key
  ne_empty : ∀ key ∈ r.entries.map (·.1), key ≠ ""
  nodup : (r.entries.map (·.1)).Nodup

/-- **A bound key keeps its place, a new one comes last.** -/
theorem map_fst_bind (key : String) (relation : Relation) (entries : List (String × Relation)) :
    (bind key relation entries).map (·.1) =
      if key ∈ entries.map (·.1) then entries.map (·.1) else entries.map (·.1) ++ [key] := by
  induction entries with
  | nil => simp [bind]
  | cons e rest ih =>
    obtain ⟨k, v⟩ := e
    rw [bind]
    by_cases hk : k = key
    · simp [hk]
    · rw [if_neg hk, List.map_cons, ih]
      by_cases hrest : key ∈ rest.map (·.1)
      · simp [hrest]
      · simp [hrest, Ne.symm hk]

namespace WellKeyed

variable {r : Registry}

/-- A new binding under a text in lower case. -/
theorem bind (h : r.WellKeyed) {key : String} (hlower : Text.lower key = key) (hne : key ≠ "")
    (relation : Relation) : WellKeyed ⟨bind key relation r.entries⟩ := by
  by_cases hkey : key ∈ r.entries.map (·.1)
  · constructor <;> rw [map_fst_bind, if_pos hkey]
    exacts [h.lower, h.ne_empty, h.nodup]
  · constructor <;> rw [map_fst_bind, if_neg hkey]
    · exact List.forall_mem_append.mpr ⟨h.lower, by simpa using hlower⟩
    · exact List.forall_mem_append.mpr ⟨h.ne_empty, by simpa using hne⟩
    · exact List.nodup_append.mpr ⟨h.nodup, List.nodup_singleton key, fun a ha b hb => by
        rw [List.mem_singleton.mp hb]
        exact fun hab => hkey (hab ▸ ha)⟩

/-- **One step.** A registration binds the lower case of its identifier, which is in lower case, and
no other step binds anything. -/
theorem next (h : r.WellKeyed) (step : Step) : (r.next step).2.WellKeyed := by
  by_cases hstep : ∃ identifier candidate replace, step = .register identifier candidate replace
  · obtain ⟨identifier, candidate, replace, rfl⟩ := hstep
    rw [next_register]
    split
    · next r' relation hregister =>
      obtain ⟨hname, -, -, rfl⟩ := register_eq_ok_iff.mp hregister
      have hne : identifier ≠ "" := by simpa using hname
      exact h.bind (Text.lower_lower identifier) (mt Text.lower_eq_empty_iff.mp hne) relation
    · exact h
  · push Not at hstep
    rwa [next_snd_of_ne hstep]

/-- **A run of steps.** -/
theorem after (h : r.WellKeyed) (steps : List Step) : (r.after steps).WellKeyed := by
  induction steps generalizing r with
  | nil => exact h
  | cons step rest ih => exact ih (h.next step)

/-- What is bound is what stands in the entries. -/
theorem find?_eq_some_iff (h : r.WellKeyed) {key : String} {relation : Relation} :
    r.find? key = some relation ↔ (key, relation) ∈ r.entries := by
  rw [find?, List.lookup_eq_some_iff]
  constructor
  · rintro ⟨earlier, later, hentries, -⟩
    simp [hentries]
  · intro hmem
    obtain ⟨earlier, later, hentries⟩ := List.append_of_mem hmem
    refine ⟨earlier, later, hentries, fun e he => ?_⟩
    have hnodup := h.nodup
    rw [hentries, List.map_append, List.nodup_append] at hnodup
    simpa using (hnodup.2.2 e.1 (List.mem_map_of_mem he) key (by simp)).symm

/-- A text in lower case is found if it is listed. -/
theorem find?_lower (h : r.WellKeyed) {key : String} (hkey : key ∈ r.identifiers) :
    Text.lower key = key ∧ ∃ relation, r.find? (Text.lower key) = some relation := by
  have hlower : Text.lower key = key :=
    h.lower key (Names.mem_sorted.mp hkey)
  exact ⟨hlower, hlower.symm ▸ mem_identifiers_iff.mp hkey⟩

end WellKeyed

/-- The built-in identifiers are in lower case. -/
theorem wellKeyed_start (builtins : Bool) : (start builtins).WellKeyed := by
  cases builtins with
  | false => exact ⟨by simp [start, empty], by simp [start, empty], by simp [start, empty]⟩
  | true =>
    have hkeys : (start true).entries.map (·.1) = ["and", "or", "xor"] := rfl
    constructor <;> rw [hkeys] <;> decide +kernel

theorem wellKeyed_after_start (builtins : Bool) (steps : List Step) :
    ((start builtins).after steps).WellKeyed :=
  (wellKeyed_start builtins).after steps

end Typestate.Registry

namespace Typestate

open Registry

/-- **What a registry lists can be used as it is listed.** Behind any run of steps, a listed text is
its own lower case and is contained; a look-up under it returns the one relation that stands under
it in the entries, which is the relation it has by the history; and a registration, whatever it
offers, under an identifier in any letter case of it is refused unless it replaces, and changes
nothing. -/
theorem listed_identifiers_resolve (builtins : Bool) (steps : List Step) :
    ∀ key ∈ ((start builtins).after steps).identifiers,
      Text.lower key = key ∧
      ((start builtins).after steps).contains key = true ∧
      (∃ relation, ((start builtins).after steps).get key = .ok relation ∧
        Holds builtins ((start builtins).history steps) key relation ∧
        ∀ other, (key, other) ∈ ((start builtins).after steps).entries ↔ other = relation) ∧
      ∀ identifier candidate, Text.lower identifier = key →
        ((start builtins).after steps).next (.register identifier candidate false) =
          (.error (.refused (.identifierTaken key)), (start builtins).after steps) := by
  intro key hkey
  have hkeyed := wellKeyed_after_start builtins steps
  obtain ⟨hlower, relation, hfind⟩ := hkeyed.find?_lower hkey
  refine ⟨hlower, ?_, ⟨relation, Registry.get_eq_ok_iff.mpr hfind, ?_, fun other => ?_⟩, ?_⟩
  · rw [Registry.contains, hfind]
    rfl
  · rw [← find?_after_start, ← hfind, hlower]
  · rw [← hkeyed.find?_eq_some_iff, ← hlower, hfind, Option.some.injEq, eq_comm]
  · intro identifier candidate hidentifier
    have hne : identifier ≠ "" := fun hempty => by
      refine hkeyed.ne_empty key (Names.mem_sorted.mp hkey) ?_
      rw [← hidentifier, hempty, Text.lower_eq_empty_iff]
    have herror : (((start builtins).after steps).next (.register identifier candidate false)).1 =
        .error (.refused (.identifierTaken key)) := by
      rw [next_register_eq_error_iff, hidentifier, ← hlower, hfind]
      exact .inr ⟨by simpa using hne, .inl ⟨⟨relation, rfl⟩, rfl, by rw [hlower]⟩⟩
    exact Prod.ext herror (next_snd_of_error herror)

/-- The capital sigma at the end of a word and the dotted capital `İ` are listed in lower case, and
what is listed is found, in this letter case and in the other one. -/
theorem listed_identifiers_resolve_path :
    Text.lower "ΟΔΟΣ İ" = "οδος i\u0307" ∧
      ((start true).after [.register "ΟΔΟΣ İ" (.relation noneOf) false]).identifiers =
        ["and", "or", "xor", "οδος i\u0307"] ∧
      ((start true).after [.register "ΟΔΟΣ İ" (.relation noneOf) false]).get "οδος i\u0307" =
        .ok noneOf ∧
      ((start true).after [.register "ΟΔΟΣ İ" (.relation noneOf) false]).next
          (.register "ΟΔΟΣ İ" (.unfit "int") false) =
        (.error (.refused (.identifierTaken "οδος i\u0307")),
          (start true).after [.register "ΟΔΟΣ İ" (.relation noneOf) false]) := by
  have hlower : Text.lower "ΟΔΟΣ İ" = "οδος i\u0307" := by decide +kernel
  have hlisted : ((start true).after [.register "ΟΔΟΣ İ" (.relation noneOf) false]).identifiers =
      ["and", "or", "xor", "οδος i\u0307"] := by decide +kernel
  obtain ⟨-, -, ⟨relation, hget, hholds, hentries⟩, hrefused⟩ := listed_identifiers_resolve true
    [.register "ΟΔΟΣ İ" (.relation noneOf) false] "οδος i\u0307" (by rw [hlisted]; simp)
  refine ⟨hlower, hlisted, ?_, hrefused _ _ hlower⟩
  rw [hget, ← (hentries noneOf).mp ?_]
  rw [← (wellKeyed_after_start _ _).find?_eq_some_iff, ← hlower]
  rfl

end Typestate
