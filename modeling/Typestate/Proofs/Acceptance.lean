import Mathlib.Data.List.Forall2
import Typestate.Description

/-! # What the schema accepts

A check that accepts has found everything it looked for. The lemmas open the checks from outside to
inside: joined checks, single values, the entries of a record, and the records of a description.

* `Checked.seq_eq_valid_iff` and its like: a joined check accepts exactly if its parts do.
* `nonEmptyText_eq_valid_iff`, `listOf_eq_valid_iff`, `required_eq_valid_iff`,
  `optional_eq_valid_iff`: values and entries.
* `group_eq_valid_iff`, `parameter_eq_valid_iff`, `conditionRecord_eq_valid_iff`,
  `transition_eq_valid_iff`, `capability_eq_valid_iff`, `entity_eq_valid_iff`: records.
* `WellNamed`: names are there and tell groups and capabilities apart, as in every entity
  that is accepted (`wellNamed_of_entity`). -/

namespace Typestate.Schema

namespace Checked

variable {α β γ : Type}

theorem map_eq_valid_iff {f : α → β} {x : Checked α} {b : β} :
    x.map f = .valid b ↔ ∃ a, x = .valid a ∧ f a = b := by
  cases x <;> simp [map]

theorem both_eq_valid_iff {x : Checked α} {y : Checked β} {p : α × β} :
    x.both y = .valid p ↔ x = .valid p.1 ∧ y = .valid p.2 := by
  cases x <;> cases y <;> simp [both, Prod.ext_iff]

theorem fmap_eq_valid_iff {f : α → β} {x : Checked α} {b : β} :
    f <$> x = .valid b ↔ ∃ a, x = .valid a ∧ f a = b := map_eq_valid_iff

/-- **Joined checks accept exactly if both do.** -/
theorem seq_eq_valid_iff {f : Checked (α → β)} {x : Checked α} {b : β} :
    f <*> x = .valid b ↔ ∃ g a, f = .valid g ∧ x = .valid a ∧ g a = b := by
  change (f.both x).map _ = _ ↔ _
  simp [map_eq_valid_iff, both_eq_valid_iff, and_assoc]

theorem seqLeft_eq_valid_iff {x : Checked α} {y : Checked β} {a : α} :
    x <* y = .valid a ↔ x = .valid a ∧ ∃ b, y = .valid b := by
  change (Function.const β <$> x) <*> y = _ ↔ _
  simp only [seq_eq_valid_iff, fmap_eq_valid_iff]
  constructor
  · rintro ⟨_, b, ⟨a, hx, rfl⟩, hy, rfl⟩
    exact ⟨hx, b, hy⟩
  · rintro ⟨hx, b, hy⟩
    exact ⟨_, b, ⟨a, hx, rfl⟩, hy, rfl⟩

theorem andThen_eq_valid_iff {x : Checked α} {f : α → Checked β} {b : β} :
    x.andThen f = .valid b ↔ ∃ a, x = .valid a ∧ f a = .valid b := by
  cases x <;> simp [andThen]

/-- A value that is looked at once more. -/
theorem andThen_ite_eq_valid_iff {x : Checked α} {P : α → Prop} [DecidablePred P]
    {reason : α → Reason} {a : α} :
    (x.andThen fun b => if P b then .valid b else fault (reason b)) = .valid a ↔
      x = .valid a ∧ P a := by
  rw [andThen_eq_valid_iff]
  constructor
  · rintro ⟨b, hb, h⟩
    split at h
    · next hP =>
      cases h
      exact ⟨hb, hP⟩
    · cases h
  · rintro ⟨ha, hP⟩
    exact ⟨a, ha, if_pos hP⟩

theorem under_eq_valid_iff {step : Step} {x : Checked α} {a : α} :
    x.under step = .valid a ↔ x = .valid a := by
  cases x <;> simp [under]

theorem fault_ne_valid {reason : Reason} {a : α} : (fault reason : Checked α) ≠ .valid a :=
  fun h => by cases h

end Checked

open Checked

variable {α : Type}

/-! ### Values -/

/-- **A text of at least one character.** -/
theorem nonEmptyText_eq_valid_iff {d : Data} {s : String} :
    nonEmptyText d = .valid s ↔ text d = .valid s ∧ s ≠ "" ∧ ∀ halves, d ≠ .halved halves := by
  unfold nonEmptyText
  split
  · simp [fault_ne_valid]
  · next hd =>
    rw [andThen_eq_valid_iff]
    constructor
    · rintro ⟨t, ht, h⟩
      split at h
      · cases h
      · next hne =>
        cases h
        exact ⟨ht, fun hs => hne (by simp [hs]), hd⟩
    · rintro ⟨ht, hs, -⟩
      exact ⟨s, ht, if_neg (by simpa using hs)⟩

theorem wholeFrom_eq_valid_iff {least i : Int} {d : Data} :
    wholeFrom least d = .valid i ↔ whole d = .valid i ∧ least ≤ i := andThen_ite_eq_valid_iff

theorem itemsFrom_eq_valid_iff {check : Data → Checked α} {items : List Data} {values : List α}
    (i : Nat) :
    itemsFrom check i items = .valid values ↔
      List.Forall₂ (fun d a => check d = .valid a) items values := by
  induction items generalizing i values with
  | nil => simp [itemsFrom, List.forall₂_nil_left_iff, eq_comm]
  | cons d rest ih =>
    simp only [itemsFrom, map_eq_valid_iff, both_eq_valid_iff, under_eq_valid_iff, ih,
      List.forall₂_cons_left_iff, Prod.exists]
    constructor
    · rintro ⟨a, others, ⟨hd, hrest⟩, rfl⟩
      exact ⟨a, others, hd, hrest, rfl⟩
    · rintro ⟨a, others, hd, hrest, rfl⟩
      exact ⟨a, others, ⟨hd, hrest⟩, rfl⟩

/-- **A list is accepted item by item.** -/
theorem listOf_eq_valid_iff {check : Data → Checked α} {d : Data} {values : List α} :
    listOf check d = .valid values ↔ ∃ items, d.items? = some items ∧
      List.Forall₂ (fun d a => check d = .valid a) items values := by
  unfold listOf
  split
  · next items h => simp [itemsFrom_eq_valid_iff, h]
  · next h => simp [fault_ne_valid, h]

/-- What is true of every item that is accepted. -/
theorem forall_of_listOf {check : Data → Checked α} {d : Data} {values : List α} {P : α → Prop}
    (h : listOf check d = .valid values) (hP : ∀ d a, check d = .valid a → P a) :
    ∀ a ∈ values, P a := by
  obtain ⟨items, -, hitems⟩ := listOf_eq_valid_iff.mp h
  clear h
  induction hitems with
  | nil => simp
  | cons hd _ ih => exact List.forall_mem_cons.mpr ⟨hP _ _ hd, ih⟩

/-! ### Entries -/

variable {name : String} {check : Data → Checked α} {entries : List (Data × Data)} {a : α}

theorem entriesOf_eq_valid_iff {record : String} {d : Data} :
    entriesOf record d = .valid entries ↔ d = .map entries ∧ hasHalvedKey entries = false := by
  cases d with
  | map found =>
    rw [entriesOf]
    split
    · next h =>
      refine iff_of_false fault_ne_valid ?_
      rintro ⟨⟨⟩, hnone⟩
      cases h.symm.trans hnone
    · next h =>
      constructor
      · rintro ⟨⟩
        exact ⟨rfl, eq_false_of_ne_true h⟩
      · rintro ⟨⟨⟩, -⟩
        rfl
  | _ => simp [entriesOf, fault_ne_valid]

/-- A known key is a text. -/
theorem keyIssue?_eq_none_iff {known : List String} {key : Data} :
    keyIssue? known key = none ↔ ∃ s ∈ known, key = .text s := by
  cases key <;> simp [keyIssue?]

/-- **There are no unknown keys.** -/
theorem onlyKeys_eq_valid_iff {known : List String} {x : Unit} :
    onlyKeys known entries = .valid x ↔ ∀ e ∈ entries, ∃ s ∈ known, e.1 = .text s := by
  have hnil : (entries.filterMap fun e => keyIssue? known e.1) = [] ↔
      ∀ e ∈ entries, ∃ s ∈ known, e.1 = .text s := by
    rw [List.filterMap_eq_nil_iff]
    exact forall₂_congr fun e _ => keyIssue?_eq_none_iff
  rw [← hnil]
  unfold onlyKeys
  split
  · next h => simp [h]
  · next h =>
    simp only [reduceCtorEq, false_iff]
    exact h

/-- Known keys do not have halves of surrogate pairs. -/
theorem hasHalvedKey_of_onlyKeys {known : List String} {x : Unit}
    (h : onlyKeys known entries = .valid x) : hasHalvedKey entries = false := by
  rw [hasHalvedKey, List.any_eq_false]
  intro e he
  obtain ⟨s, -, hs⟩ := onlyKeys_eq_valid_iff.mp h e he
  simp [hs, Data.isHalved]

/-- **A record is accepted if it is a mapping without unknown keys**, and what is asked of the
values of its keys is found. -/
theorem record_eq_valid_iff {record : String} {f : List (Data × Data) → Checked α}
    {known : List (Data × Data) → List String} {d : Data} :
    ((entriesOf record d).andThen fun entries => f entries <* onlyKeys (known entries) entries) =
        .valid a ↔
      ∃ entries, d = .map entries ∧ f entries = .valid a ∧
        onlyKeys (known entries) entries = .valid () := by
  rw [andThen_eq_valid_iff]
  refine exists_congr fun entries => ?_
  rw [entriesOf_eq_valid_iff, seqLeft_eq_valid_iff]
  constructor
  · rintro ⟨⟨hd, -⟩, ha, x, hkeys⟩
    exact ⟨hd, ha, hkeys⟩
  · rintro ⟨hd, ha, hkeys⟩
    exact ⟨⟨hd, hasHalvedKey_of_onlyKeys hkeys⟩, ha, (), hkeys⟩

/-- **A key that has to be there.** -/
theorem required_eq_valid_iff :
    required name check entries = .valid a ↔
      ∃ d, Data.find? name entries = some d ∧ check d = .valid a := by
  unfold required
  split
  · next h => simp [under_eq_valid_iff, h]
  · next h => simp [under_eq_valid_iff, fault_ne_valid, h]

/-- **One of two keys has to be there.** -/
theorem requiredEither_eq_valid_iff {other : String} :
    requiredEither name other check entries = .valid a ↔
      required (eitherKey name other entries) check entries = .valid a := by
  rw [required_eq_valid_iff]
  unfold requiredEither
  split
  · next h => simp [under_eq_valid_iff, h]
  · next h => simp [under_eq_valid_iff, fault_ne_valid, h]

/-- **A key that may be left out.** -/
theorem optional_eq_valid_iff {default : α} :
    optional name default check entries = .valid a ↔
      (Data.find? name entries = none ∧ a = default) ∨
        ∃ d, Data.find? name entries = some d ∧ check d = .valid a := by
  unfold optional
  split
  · next h => simp [under_eq_valid_iff, h]
  · next h => simp [h, eq_comm]

end Typestate.Schema

namespace Typestate.Description

open Schema Schema.Checked

/-! ### Records -/

theorem group_eq_valid_iff {d : Data} {g : StateGroup} :
    group d = .valid g ↔ ∃ entries, d = .map entries ∧
      required "name" nonEmptyText entries = .valid g.name ∧
      textList "states" entries = .valid g.states ∧
      onlyKeys ["name", "states"] entries = .valid () := by
  simp only [group, record_eq_valid_iff, seq_eq_valid_iff, fmap_eq_valid_iff]
  constructor
  · rintro ⟨entries, rfl, ⟨_, states, ⟨name, hname, rfl⟩, hstates, rfl⟩, hkeys⟩
    exact ⟨entries, rfl, hname, hstates, hkeys⟩
  · rintro ⟨entries, rfl, hname, hstates, hkeys⟩
    exact ⟨entries, rfl, ⟨_, g.states, ⟨g.name, hname, rfl⟩, hstates, rfl⟩, hkeys⟩

theorem parameter_eq_valid_iff {d : Data} {p : Parameter} :
    parameter d = .valid p ↔ ∃ entries, d = .map entries ∧
      required "name" nonEmptyText entries = .valid p.name ∧
      required (eitherKey "type" "type_name" entries) nonEmptyText entries = .valid p.type ∧
      onlyKeys ["name", eitherKey "type" "type_name" entries] entries = .valid () := by
  simp only [parameter, record_eq_valid_iff, seq_eq_valid_iff, fmap_eq_valid_iff,
    requiredEither_eq_valid_iff]
  constructor
  · rintro ⟨entries, rfl, ⟨_, type, ⟨name, hname, rfl⟩, htype, rfl⟩, hkeys⟩
    exact ⟨entries, rfl, hname, htype, hkeys⟩
  · rintro ⟨entries, rfl, hname, htype, hkeys⟩
    exact ⟨entries, rfl, ⟨_, p.type, ⟨p.name, hname, rfl⟩, htype, rfl⟩, hkeys⟩

theorem conditionRecord_eq_valid_iff {d : Data} {c : Condition} :
    conditionRecord d = .valid c ↔ ∃ entries, d = .map entries ∧
      (∃ names, textList "states" entries = .valid names ∧ NameSet.ofList names = c.states) ∧
      relation .or entries = .valid c.relation ∧
      onlyKeys ["states", "relation"] entries = .valid () := by
  simp only [conditionRecord, record_eq_valid_iff, seq_eq_valid_iff, fmap_eq_valid_iff]
  constructor
  · rintro ⟨entries, rfl, ⟨_, r, ⟨names, hnames, rfl⟩, hr, rfl⟩, hkeys⟩
    exact ⟨entries, rfl, ⟨names, hnames, rfl⟩, hr, hkeys⟩
  · rintro ⟨entries, rfl, ⟨names, hnames, hstates⟩, hr, hkeys⟩
    refine ⟨entries, rfl, ⟨_, c.relation, ⟨names, hnames, rfl⟩, hr, ?_⟩, hkeys⟩
    rw [Condition.of, hstates]

theorem transition_eq_valid_iff {d : Data} {t : TransitionRule} :
    transition d = .valid t ↔ ∃ entries, d = .map entries ∧
      required "target" nonEmptyText entries = .valid t.target ∧
      (∃ names, textList "when" entries = .valid names ∧
        NameSet.ofList names = t.condition.states) ∧
      relation .and entries = .valid t.condition.relation ∧
      onlyKeys ["target", "when", "relation"] entries = .valid () := by
  simp only [transition, record_eq_valid_iff, seq_eq_valid_iff, fmap_eq_valid_iff]
  constructor
  · rintro ⟨entries, rfl, ⟨_, r, ⟨_, names, ⟨target, htarget, rfl⟩, hnames, rfl⟩, hr, rfl⟩, hkeys⟩
    exact ⟨entries, rfl, htarget, ⟨names, hnames, rfl⟩, hr, hkeys⟩
  · rintro ⟨entries, rfl, htarget, ⟨names, hnames, hstates⟩, hr, hkeys⟩
    refine ⟨entries, rfl, ⟨_, t.condition.relation,
      ⟨_, names, ⟨t.target, htarget, rfl⟩, hnames, rfl⟩, hr, ?_⟩, hkeys⟩
    rw [Condition.of, hstates]

theorem capability_eq_valid_iff {d : Data} {c : Capability} :
    capability d = .valid c ↔ ∃ entries, d = .map entries ∧
      required "name" nonEmptyText entries = .valid c.name ∧
      optional "returns" none returnType entries = .valid c.returns ∧
      optional "parameters" [] (listOf parameter) entries = .valid c.parameters ∧
      textList "type_parameters" entries = .valid c.typeParameters ∧
      optional "available_for_all" false truth entries = .valid c.availableForAll ∧
      optional "available_for" [] (listOf condition) entries = .valid c.availability ∧
      optional "transitions" [] (listOf transition) entries = .valid c.transitions ∧
      onlyKeys ["name", "returns", "parameters", "type_parameters", "available_for_all",
        "available_for", "transitions"] entries = .valid () := by
  simp only [capability, record_eq_valid_iff, seq_eq_valid_iff, fmap_eq_valid_iff]
  constructor
  · rintro ⟨entries, rfl,
      ⟨_, _, ⟨_, _, ⟨_, _, ⟨_, _, ⟨_, _, ⟨_, _, ⟨_, h₁, rfl⟩, h₂, rfl⟩, h₃, rfl⟩, h₄, rfl⟩,
        h₅, rfl⟩, h₆, rfl⟩, h₇, rfl⟩, hkeys⟩
    exact ⟨entries, rfl, h₁, h₂, h₃, h₄, h₅, h₆, h₇, hkeys⟩
  · rintro ⟨entries, rfl, h₁, h₂, h₃, h₄, h₅, h₆, h₇, hkeys⟩
    exact ⟨entries, rfl, ⟨_, _, ⟨_, _, ⟨_, _, ⟨_, _, ⟨_, _, ⟨_, _, ⟨_, h₁, rfl⟩, h₂, rfl⟩, h₃, rfl⟩,
      h₄, rfl⟩, h₅, rfl⟩, h₆, rfl⟩, h₇, rfl⟩, hkeys⟩

/-- **A list without repeated names.** -/
theorem uniquelyNamed_eq_valid_iff {α : Type} {what : String} {name : α → String}
    {check : Data → Checked α} {d : Data} {items : List α} :
    uniquelyNamed what name check d = .valid items ↔
      listOf check d = .valid items ∧ (items.map name).Nodup := by
  rw [uniquelyNamed, andThen_eq_valid_iff]
  constructor
  · rintro ⟨found, hfound, h⟩
    unfold distinctNames at h
    split at h
    · next hnodup =>
      cases h
      exact ⟨hfound, hnodup⟩
    · exact absurd h fault_ne_valid
  · rintro ⟨hitems, hnodup⟩
    exact ⟨items, hitems, if_pos hnodup⟩

/-- **What an accepted description of an entity consists of.** -/
theorem entity_eq_valid_iff {d : Data} {e : Entity} :
    entity d = .valid e ↔ ∃ entries, d = .map entries ∧
      required "name" nonEmptyText entries = .valid e.name ∧
      optional "module" none optionalText entries = .valid e.module ∧
      textList "type_parameters" entries = .valid e.typeParameters ∧
      optional "groups" [] (uniquelyNamed "state group" StateGroup.name group) entries =
        .valid e.groups ∧
      optional "capabilities" [] (uniquelyNamed "capability" Capability.name capability) entries =
        .valid e.capabilities ∧
      onlyKeys ["name", "module", "type_parameters", "groups", "capabilities"] entries =
        .valid () := by
  simp only [entity, record_eq_valid_iff, seq_eq_valid_iff, fmap_eq_valid_iff]
  constructor
  · rintro ⟨entries, rfl, ⟨_, _, ⟨_, _, ⟨_, _, ⟨_, _, ⟨_, h₁, rfl⟩, h₂, rfl⟩, h₃, rfl⟩, h₄, rfl⟩,
      h₅, rfl⟩, hkeys⟩
    exact ⟨entries, rfl, h₁, h₂, h₃, h₄, h₅, hkeys⟩
  · rintro ⟨entries, rfl, h₁, h₂, h₃, h₄, h₅, hkeys⟩
    exact ⟨entries, rfl, ⟨_, _, ⟨_, _, ⟨_, _, ⟨_, _, ⟨_, h₁, rfl⟩, h₂, rfl⟩, h₃, rfl⟩, h₄, rfl⟩,
      h₅, rfl⟩, hkeys⟩

/-! ### Names -/

/-- Every item has a name, and no two have the same. -/
def Named {α : Type} (name : α → String) (items : List α) : Prop :=
  (∀ x ∈ items, name x ≠ "") ∧ (items.map name).Nodup

/-- A list of named records is accepted only with names that are there and differ. -/
theorem named_of_uniquelyNamed {α : Type} {key what : String} {name : α → String}
    {check : Data → Checked α} {entries : List (Data × Data)} {items : List α}
    (hcheck : ∀ d x, check d = .valid x → name x ≠ "")
    (h : optional key [] (uniquelyNamed what name check) entries = .valid items) :
    Named name items := by
  rcases optional_eq_valid_iff.mp h with ⟨-, rfl⟩ | ⟨d, -, hd⟩
  · exact ⟨by simp, by simp⟩
  · obtain ⟨hitems, hnodup⟩ := uniquelyNamed_eq_valid_iff.mp hd
    exact ⟨forall_of_listOf hitems hcheck, hnodup⟩

theorem ne_empty_of_required {name : String} {entries : List (Data × Data)} {s : String}
    (h : required name nonEmptyText entries = .valid s) : s ≠ "" := by
  obtain ⟨d, -, hd⟩ := required_eq_valid_iff.mp h
  exact (nonEmptyText_eq_valid_iff.mp hd).2.1

/-- The names in an entity are there, and they tell its groups and its capabilities apart. -/
structure WellNamed (e : Entity) : Prop where
  name : e.name ≠ ""
  groups : Named StateGroup.name e.groups
  capabilities : Named Capability.name e.capabilities

/-- **Every accepted entity is well named.** -/
theorem wellNamed_of_entity {d : Data} {e : Entity} (h : entity d = .valid e) : WellNamed e := by
  obtain ⟨entries, -, hname, -, -, hgroups, hcapabilities, -⟩ := entity_eq_valid_iff.mp h
  refine ⟨ne_empty_of_required hname, named_of_uniquelyNamed (fun d g hg => ?_) hgroups,
    named_of_uniquelyNamed (fun d c hc => ?_) hcapabilities⟩
  · obtain ⟨_, -, hname, -⟩ := group_eq_valid_iff.mp hg
    exact ne_empty_of_required hname
  · obtain ⟨_, -, hname, -⟩ := capability_eq_valid_iff.mp hc
    exact ne_empty_of_required hname

/-- **Data that is loaded fits the schema.** -/
theorem ofData_eq_ok_iff {origin : Option String} {d : Data} {e : Entity} :
    ofData origin d = .ok e ↔ entity d = .valid e := by
  unfold ofData
  split
  · next entries =>
    cases h : entity (.map entries) with
    | valid e' => simp
    | invalid issues => simp
  · next hd =>
    refine iff_of_false (by simp) fun h => ?_
    obtain ⟨entries, rfl, -⟩ := entity_eq_valid_iff.mp h
    exact hd entries rfl

end Typestate.Description
