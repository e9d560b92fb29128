import Mathlib.Data.List.Sort
import Mathlib.Data.String.Basic
import Typestate.Proofs.Loaded
import Typestate.Proofs.Record

/-! # How entities are spelled

A description can be written down in many ways that mean one entity: keys come in any order, a
default may be left out, a condition "or" may be a bare list, the states of a condition have no
order, the built-in relations have no letter case, and a missing result has several words.

* `StateGroup.SpelledBy`, `Condition.SpelledBy`, `TransitionRule.SpelledBy`, `Parameter.SpelledBy`,
  `Capability.SpelledBy`, `Entity.SpelledBy`: what data spells what.
* `Capability.Sound`: what the schema asks of the names and types in a capability.
* `Description.entity_of_spelledBy`: the schema reads each record as what it spells.
* `Entity.toData`: one way to spell an entity (`Entity.spelledBy_toData`).
* `loads_spelled`: from every spelling the entity itself is loaded. -/

namespace Typestate

open Data Schema Description

/-! ### Spellings -/

/-- The items of a list spell the things, in their order. -/
def Data.Spells {α : Type} (S : α → Data → Prop) (xs : List α) (d : Data) : Prop :=
  ∃ items, d = .list items ∧ List.Forall₂ S xs items

/-- The text under a key is given; where there is none, the key may be left out, or it has a value
that stands for nothing. -/
def Data.SpellsOptional (nothing : Data → Prop) : Option String → Option Data → Prop
  | some s => Present (· = .text s)
  | none => LeftOutOr True nothing

/-- A set is spelled by its members in any order, with or without repetition. -/
def NameSet.SpelledBy (names : NameSet) (d : Data) : Prop :=
  ∃ listed, d = texts listed ∧ ∀ s, s ∈ listed ↔ s ∈ names.toList

/-- A built-in relation is spelled by its key in any letter case, another one by its own text. -/
def RelationRef.SpelledBy (r : RelationRef) (d : Data) : Prop :=
  ∃ text, d = .text text ∧ match r with
    | .builtin kind => Text.lower text = kind.key
    | .named own _ => text = own

/-- The states of a condition under a key. -/
def Condition.SpellsStates (c : Condition) : Option Data → Prop :=
  LeftOutOr (c.states.toList = []) c.states.SpelledBy

/-- The relation of a condition under a key. -/
def Condition.SpellsRelation (default : RelationKind) (c : Condition) : Option Data → Prop :=
  LeftOutOr (c.relation = .builtin default) c.relation.SpelledBy

/-- A condition is spelled by a record, one that needs some of its states also by these alone. -/
def Condition.SpelledBy (c : Condition) (d : Data) : Prop :=
  (c.relation = .builtin .or ∧ c.states.SpelledBy d) ∨
    d.IsRecord [("states", c.SpellsStates), ("relation", c.SpellsRelation .or)]

/-- A transition rule is spelled by its target and its condition. -/
def TransitionRule.SpelledBy (t : TransitionRule) : Data → Prop :=
  IsRecord [("target", Present (· = .text t.target)), ("when", t.condition.SpellsStates),
    ("relation", t.condition.SpellsRelation .and)]

/-- A parameter is spelled by its name and its type, which stands under one of two keys. -/
def Parameter.SpelledBy (p : Parameter) (d : Data) : Prop :=
  ∃ key ∈ ["type", "type_name"],
    d.IsRecord [("name", Present (· = .text p.name)), (key, Present (· = .text p.type))]

/-- The data stands for a missing result. -/
def IsVoid (d : Data) : Prop := d = .null ∨ ∃ s, d = .text s ∧ isVoidWord s = true

/-- A capability is spelled by its name and whatever of it is no default. -/
def Capability.SpelledBy (c : Capability) : Data → Prop :=
  IsRecord [("name", Present (· = .text c.name)), ("returns", SpellsOptional IsVoid c.returns),
    ("parameters", LeftOutOr (c.parameters = []) (Spells Parameter.SpelledBy c.parameters)),
    ("type_parameters", LeftOutOr (c.typeParameters = []) (· = texts c.typeParameters)),
    ("available_for_all", LeftOutOr (c.availableForAll = false) (· = .bool c.availableForAll)),
    ("available_for", LeftOutOr (c.availability = []) (Spells Condition.SpelledBy c.availability)),
    ("transitions", LeftOutOr (c.transitions = []) (Spells TransitionRule.SpelledBy c.transitions))]

/-- A group is spelled by its name and its states. -/
def StateGroup.SpelledBy (g : StateGroup) : Data → Prop :=
  IsRecord [("name", Present (· = .text g.name)),
    ("states", LeftOutOr (g.states = []) (· = texts g.states))]

/-- **An entity is spelled by its name and whatever of it is no default.** -/
def Entity.SpelledBy (e : Entity) : Data → Prop :=
  IsRecord [("name", Present (· = .text e.name)), ("module", SpellsOptional (· = .null) e.module),
    ("type_parameters", LeftOutOr (e.typeParameters = []) (· = texts e.typeParameters)),
    ("groups", LeftOutOr (e.groups = []) (Spells StateGroup.SpelledBy e.groups)),
    ("capabilities", LeftOutOr (e.capabilities = []) (Spells Capability.SpelledBy e.capabilities))]

/-- The names in a capability, apart from its own, are there, and the type of its result is no word
for a missing one. -/
structure Capability.Sound (c : Capability) : Prop where
  returns : ∀ type, c.returns = some type → isVoidWord type = false
  parameters : ∀ p ∈ c.parameters, p.name ≠ "" ∧ p.type ≠ ""
  availability : ∀ condition ∈ c.availability, condition.relation.identifier ≠ ""
  transitions : ∀ t ∈ c.transitions, t.target ≠ "" ∧ t.condition.relation.identifier ≠ ""

/-! ### Values are read as they are spelled -/

/-- **Sets with the same members are equal.** -/
theorem NameSet.ofList_eq {names : NameSet} {listed : List String}
    (h : ∀ s, s ∈ listed ↔ s ∈ names.toList) : NameSet.ofList listed = names := by
  have hmem : ∀ s, s ∈ (NameSet.ofList listed).toList ↔ s ∈ names.toList := fun s =>
    NameSet.mem_ofList.trans (h s)
  have heq := (NameSet.ofList listed).increasing.eq_of_mem_iff names.increasing hmem
  cases names
  simpa [NameSet.ofList] using heq

/-- The set of the members of a list is spelled by the list. -/
theorem NameSet.spelledBy_texts (listed : List String) : (ofList listed).SpelledBy (texts listed) :=
  ⟨_, rfl, fun _ => mem_ofList.symm⟩

theorem RelationRef.ofText_of_lower {text : String} {kind : RelationKind}
    (h : Text.lower text = kind.key) : ofText text = .builtin kind := by
  unfold ofText
  split
  · next k hk =>
    rw [h, RelationKind.ofKey?_key] at hk
    rw [Option.some.inj hk]
  · next hnone =>
    rw [h, RelationKind.ofKey?_key] at hnone
    cases hnone

theorem RelationRef.ofText_of_other {text : String}
    (h : RelationKind.ofKey? (Text.lower text) = none) :
    ofText text = .named text h := by
  unfold ofText
  split
  · next k hk =>
    rw [h] at hk
    cases hk
  · rfl

section Checks

variable {α : Type} {check : Data → Checked α} {P : Data → Prop} {name : String}
  {entries : List (Data × Data)} {a : α}

theorem required_of_present (h : Present P (find? name entries))
    (hP : ∀ d, P d → check d = .valid a) :
    required name check entries = .valid a := by
  obtain ⟨d, hd, hPd⟩ := h
  exact required_eq_valid_iff.mpr ⟨d, hd, hP d hPd⟩

theorem optional_of_leftOutOr {default : α} {condition : Prop}
    (h : LeftOutOr condition P (find? name entries)) (hdefault : condition → a = default)
    (hP : ∀ d, P d → check d = .valid a) : optional name default check entries = .valid a := by
  rcases h with ⟨hnone, hcondition⟩ | ⟨d, hd, hPd⟩
  · exact optional_eq_valid_iff.mpr (.inl ⟨hnone, hdefault hcondition⟩)
  · exact optional_eq_valid_iff.mpr (.inr ⟨d, hd, hP d hPd⟩)

theorem nonEmptyText_text {s : String} (hs : s ≠ "") : nonEmptyText (.text s) = .valid s :=
  nonEmptyText_eq_valid_iff.mpr ⟨rfl, hs, fun _ h => by cases h⟩

theorem required_name {s : String} (h : Present (· = .text s) (find? name entries)) (hs : s ≠ "") :
    required name nonEmptyText entries = .valid s :=
  required_of_present h fun _ hd => hd ▸ nonEmptyText_text hs

/-- **A list is read as what its items spell.** -/
theorem listOf_of_spells {S : α → Data → Prop} {xs : List α} {d : Data} (h : Spells S xs d)
    (hS : ∀ x ∈ xs, ∀ d, S x d → check d = .valid x) : listOf check d = .valid xs := by
  obtain ⟨items, rfl, hitems⟩ := h
  refine listOf_eq_valid_iff.mpr ⟨items, rfl, ?_⟩
  induction hitems with
  | nil => exact .nil
  | cons hx _ ih =>
    obtain ⟨hhead, hrest⟩ := List.forall_mem_cons.mp hS
    exact .cons (hhead _ hx) (ih hrest)

theorem optional_of_spells {S : α → Data → Prop} {xs : List α}
    (h : LeftOutOr (xs = []) (Spells S xs) (find? name entries))
    (hS : ∀ x ∈ xs, ∀ d, S x d → check d = .valid x) :
    optional name [] (listOf check) entries = .valid xs :=
  optional_of_leftOutOr h id fun _ hd => listOf_of_spells hd hS

theorem listOf_texts (xs : List String) : listOf Schema.text (texts xs) = .valid xs := by
  refine listOf_of_spells (S := fun s d => d = .text s) ⟨_, rfl, ?_⟩ fun x _ d hd => hd ▸ rfl
  exact List.forall₂_map_right_iff.mpr (List.forall₂_same.mpr fun _ _ => rfl)

theorem textList_of_leftOutOr {xs : List String}
    (h : LeftOutOr (xs = []) (· = texts xs) (find? name entries)) :
    textList name entries = .valid xs :=
  optional_of_leftOutOr h id fun _ hd => hd ▸ listOf_texts xs

end Checks

/-- What spells a relation is a text, and it is the text of that relation. -/
theorem RelationRef.exists_of_spelledBy {r : RelationRef} {d : Data} (h : r.SpelledBy d)
    (hr : r.identifier ≠ "") : ∃ text, d = .text text ∧ text ≠ "" ∧ ofText text = r := by
  obtain ⟨text, rfl, htext⟩ := h
  refine ⟨text, rfl, ?_⟩
  cases r with
  | builtin kind =>
    refine ⟨?_, ofText_of_lower htext⟩
    rintro rfl
    cases kind <;> exact absurd htext (by decide)
  | named own other =>
    cases htext
    exact ⟨hr, ofText_of_other other⟩

namespace Description

variable {entries : List (Data × Data)} {d : Data}

/-! ### Records are read as they are spelled -/

section Conditions

variable {c : Condition}

theorem relation_of_spells {default : RelationKind} (hr : c.relation.identifier ≠ "")
    (h : c.SpellsRelation default (find? "relation" entries)) :
    relation default entries = .valid c.relation := by
  refine optional_of_leftOutOr h id fun d hd => ?_
  obtain ⟨text, rfl, hne, htext⟩ := RelationRef.exists_of_spelledBy hd hr
  exact Checked.fmap_eq_valid_iff.mpr ⟨text, nonEmptyText_text hne, htext⟩

theorem states_of_spells {key : String} (h : c.SpellsStates (find? key entries)) :
    ∃ names, textList key entries = .valid names ∧ NameSet.ofList names = c.states := by
  rcases h with ⟨hnone, hempty⟩ | ⟨_, hd, listed, rfl, hlisted⟩
  · exact ⟨[], textList_of_leftOutOr (.inl ⟨hnone, rfl⟩), NameSet.ofList_eq (by simp [hempty])⟩
  · exact ⟨listed, textList_of_leftOutOr (.inr ⟨_, hd, rfl⟩), NameSet.ofList_eq hlisted⟩

theorem conditionRecord_of_isRecord (hr : c.relation.identifier ≠ "")
    (h : d.IsRecord [("states", c.SpellsStates), ("relation", c.SpellsRelation .or)]) :
    conditionRecord d = .valid c := by
  obtain ⟨entries, rfl, hkeys, hstates, hrelation⟩ := isRecord_iff.mp h
  exact conditionRecord_eq_valid_iff.mpr
    ⟨entries, rfl, states_of_spells hstates, relation_of_spells hr hrelation, hkeys⟩

/-- **A bare list of states means that one of them is needed.** -/
theorem condition_of_spelledBy (hr : c.relation.identifier ≠ "") (h : c.SpelledBy d) :
    condition d = .valid c := by
  rcases h with ⟨hor, hstates⟩ | hrecord
  · obtain ⟨listed, rfl, hlisted⟩ := hstates
    exact conditionRecord_of_isRecord hr
      (isRecord_ofPairs (by simp) ⟨.inr ⟨_, rfl, listed, rfl, hlisted⟩, .inl ⟨rfl, hor⟩⟩)
  · have hmap := conditionRecord_of_isRecord hr hrecord
    obtain ⟨entries, rfl, -⟩ := hrecord
    exact hmap

end Conditions

theorem transition_of_spelledBy {t : TransitionRule} (htarget : t.target ≠ "")
    (hr : t.condition.relation.identifier ≠ "") (h : t.SpelledBy d) : transition d = .valid t := by
  obtain ⟨entries, rfl, hkeys, hname, hstates, hrelation⟩ := isRecord_iff.mp h
  exact transition_eq_valid_iff.mpr ⟨entries, rfl, required_name hname htarget,
    states_of_spells hstates, relation_of_spells hr hrelation, hkeys⟩

/-- **The type of a parameter is read from the key under which it stands.** -/
theorem parameter_of_spelledBy {p : Parameter} (hp : p.name ≠ "" ∧ p.type ≠ "")
    (h : p.SpelledBy d) : parameter d = .valid p := by
  obtain ⟨key, hkey, hrecord⟩ := h
  obtain ⟨entries, rfl, hkeys, hname, htype⟩ := isRecord_iff.mp hrecord
  have heither : eitherKey "type" "type_name" entries = key :=
    eitherKey_eq hkey (by simp [eq_comm]) hkeys htype
  refine parameter_eq_valid_iff.mpr ⟨entries, rfl, required_name hname hp.1, ?_⟩
  rw [heither]
  exact ⟨required_name htype hp.2, hkeys⟩

theorem group_of_spelledBy {g : StateGroup} (hg : g.name ≠ "") (h : g.SpelledBy d) :
    group d = .valid g := by
  obtain ⟨entries, rfl, hkeys, hname, hstates⟩ := isRecord_iff.mp h
  exact group_eq_valid_iff.mpr
    ⟨entries, rfl, required_name hname hg, textList_of_leftOutOr hstates, hkeys⟩

/-- An optional text, if what stands for nothing and the text are read as such. -/
theorem optional_of_spellsOptional {name : String} {check : Data → Checked (Option String)}
    {nothing : Data → Prop} {value : Option String}
    (h : SpellsOptional nothing value (find? name entries))
    (hnothing : ∀ d, nothing d → check d = .valid none)
    (htext : ∀ s, value = some s → check (.text s) = .valid (some s)) :
    optional name none check entries = .valid value := by
  cases value with
  | none => exact optional_of_leftOutOr h (fun _ => rfl) hnothing
  | some s =>
    obtain ⟨_, hd, rfl⟩ := h
    exact optional_eq_valid_iff.mpr (.inr ⟨_, hd, htext s rfl⟩)

theorem returnType_of_isVoid (h : IsVoid d) : returnType d = .valid none := by
  rcases h with rfl | ⟨s, rfl, hs⟩
  · rfl
  · simp only [returnType, hs, ↓reduceIte]

theorem returnType_text {type : String} (h : isVoidWord type = false) :
    returnType (.text type) = .valid (some type) := by
  simp only [returnType, h, Bool.false_eq_true, ↓reduceIte]

theorem capability_of_spelledBy {c : Capability} (hname : c.name ≠ "") (hc : c.Sound)
    (h : c.SpelledBy d) : capability d = .valid c := by
  obtain ⟨entries, rfl, hkeys, hn, hreturns, hparameters, htypes, hall, hfor, htransitions⟩ :=
    isRecord_iff.mp h
  refine capability_eq_valid_iff.mpr ⟨entries, rfl, required_name hn hname, ?_, ?_,
    textList_of_leftOutOr htypes, ?_, ?_, ?_, hkeys⟩
  · exact optional_of_spellsOptional hreturns (fun _ => returnType_of_isVoid) fun type htype =>
      returnType_text (hc.returns type htype)
  · exact optional_of_spells hparameters fun p hp _ => parameter_of_spelledBy (hc.parameters p hp)
  · exact optional_of_leftOutOr hall id fun _ hd => hd ▸ rfl
  · exact optional_of_spells hfor fun condition hcondition _ =>
      condition_of_spelledBy (hc.availability condition hcondition)
  · exact optional_of_spells htransitions fun t ht _ =>
      transition_of_spelledBy (hc.transitions t ht).1 (hc.transitions t ht).2

theorem uniquelyNamed_of_spells {α : Type} {key what : String} {name : α → String}
    {check : Data → Checked α} {S : α → Data → Prop} {xs : List α} (hxs : Named name xs)
    (h : LeftOutOr (xs = []) (Spells S xs) (find? key entries))
    (hS : ∀ x ∈ xs, ∀ d, S x d → check d = .valid x) :
    optional key [] (uniquelyNamed what name check) entries = .valid xs :=
  optional_of_leftOutOr h id fun _ hd =>
    uniquelyNamed_eq_valid_iff.mpr ⟨listOf_of_spells hd hS, hxs.2⟩

theorem entity_of_spelledBy {e : Entity} (he : WellNamed e) (hc : ∀ c ∈ e.capabilities, c.Sound)
    (h : e.SpelledBy d) : entity d = .valid e := by
  obtain ⟨entries, rfl, hkeys, hname, hmodule, htypes, hgroups, hcapabilities⟩ := isRecord_iff.mp h
  refine entity_eq_valid_iff.mpr ⟨entries, rfl, required_name hname he.name, ?_,
    textList_of_leftOutOr htypes, ?_, ?_, hkeys⟩
  · exact optional_of_spellsOptional hmodule (fun _ hd => hd ▸ rfl) fun _ _ => rfl
  · exact uniquelyNamed_of_spells he.groups hgroups fun g hg _ =>
      group_of_spelledBy (he.groups.1 g hg)
  · exact uniquelyNamed_of_spells he.capabilities hcapabilities fun c hmem _ =>
      capability_of_spelledBy (he.capabilities.1 c hmem) (hc c hmem)

end Description

/-! ### One spelling -/

/-- A text, or nothing. -/
def Data.ofOption : Option String → Data
  | some s => .text s
  | none => .null

/-- The states of a condition in their order, and its relation. -/
def Condition.toData (c : Condition) : Data :=
  ofPairs [("states", texts c.states.toList), ("relation", .text c.relation.identifier)]

/-- A transition rule with its condition. -/
def TransitionRule.toData (t : TransitionRule) : Data :=
  ofPairs [("target", .text t.target), ("when", texts t.condition.states.toList),
    ("relation", .text t.condition.relation.identifier)]

/-- A parameter with its type. -/
def Parameter.toData (p : Parameter) : Data :=
  ofPairs [("name", .text p.name), ("type", .text p.type)]

/-- A capability with everything that it has. -/
def Capability.toData (c : Capability) : Data :=
  ofPairs [("name", .text c.name), ("returns", .ofOption c.returns),
    ("parameters", .list (c.parameters.map Parameter.toData)),
    ("type_parameters", texts c.typeParameters), ("available_for_all", .bool c.availableForAll),
    ("available_for", .list (c.availability.map Condition.toData)),
    ("transitions", .list (c.transitions.map TransitionRule.toData))]

/-- A group with its states. -/
def StateGroup.toData (g : StateGroup) : Data :=
  ofPairs [("name", .text g.name), ("states", texts g.states)]

/-- **An entity with everything that it has.** -/
def Entity.toData (e : Entity) : Data :=
  ofPairs [("name", .text e.name), ("module", .ofOption e.module),
    ("type_parameters", texts e.typeParameters),
    ("groups", .list (e.groups.map StateGroup.toData)),
    ("capabilities", .list (e.capabilities.map Capability.toData))]

theorem Data.spells_map {α : Type} {S : α → Data → Prop} {write : α → Data} (xs : List α)
    (h : ∀ x, S x (write x)) : Spells S xs (.list (xs.map write)) :=
  ⟨_, rfl, List.forall₂_map_right_iff.mpr (List.forall₂_same.mpr fun x _ => h x)⟩

theorem Data.spellsOptional_ofOption {nothing : Data → Prop} (value : Option String)
    (h : nothing .null) : SpellsOptional nothing value (some (.ofOption value)) := by
  cases value with
  | none => exact leftOutOr_some h
  | some s => exact ⟨_, rfl, rfl⟩

theorem Condition.spellsStates_toList (c : Condition) :
    c.SpellsStates (some (texts c.states.toList)) :=
  leftOutOr_some ⟨_, rfl, fun _ => Iff.rfl⟩

theorem Condition.spellsRelation_identifier (default : RelationKind) (c : Condition) :
    c.SpellsRelation default (some (.text c.relation.identifier)) := by
  refine leftOutOr_some ⟨_, rfl, ?_⟩
  cases c.relation with
  | builtin kind => cases kind <;> decide
  | named => rfl

theorem Condition.spelledBy_toData (c : Condition) : c.SpelledBy c.toData :=
  .inr (isRecord_ofPairs (by simp) ⟨c.spellsStates_toList, c.spellsRelation_identifier .or⟩)

theorem TransitionRule.spelledBy_toData (t : TransitionRule) : t.SpelledBy t.toData :=
  isRecord_ofPairs (by simp)
    ⟨⟨_, rfl, rfl⟩, t.condition.spellsStates_toList, t.condition.spellsRelation_identifier .and⟩

theorem Parameter.spelledBy_toData (p : Parameter) : p.SpelledBy p.toData :=
  ⟨"type", by simp, isRecord_ofPairs (by simp) ⟨⟨_, rfl, rfl⟩, _, rfl, rfl⟩⟩

theorem Capability.spelledBy_toData (c : Capability) : c.SpelledBy c.toData :=
  isRecord_ofPairs (by simp)
    ⟨⟨_, rfl, rfl⟩, spellsOptional_ofOption c.returns (.inl rfl),
      leftOutOr_some (spells_map _ Parameter.spelledBy_toData), leftOutOr_some rfl,
      leftOutOr_some rfl, leftOutOr_some (spells_map _ Condition.spelledBy_toData),
      leftOutOr_some (spells_map _ TransitionRule.spelledBy_toData)⟩

theorem StateGroup.spelledBy_toData (g : StateGroup) : g.SpelledBy g.toData :=
  isRecord_ofPairs (by simp) ⟨⟨_, rfl, rfl⟩, leftOutOr_some rfl⟩

/-- **Every entity is spelled by the data with everything that it has.** -/
theorem Entity.spelledBy_toData (e : Entity) : e.SpelledBy e.toData :=
  isRecord_ofPairs (by simp)
    ⟨⟨_, rfl, rfl⟩, spellsOptional_ofOption e.module rfl, leftOutOr_some rfl,
      leftOutOr_some (spells_map _ StateGroup.spelledBy_toData),
      leftOutOr_some (spells_map _ Capability.spelledBy_toData)⟩

/-! ### Loading is faithful -/

/-- **From everything that spells an entity, that entity is loaded**, and there is something that
spells it. -/
theorem loads_spelled {e : Entity} (he : Description.WellNamed e)
    (hc : ∀ c ∈ e.capabilities, c.Sound) :
    e.SpelledBy e.toData ∧
      ∀ origin d, e.SpelledBy d → Description.ofData origin d = .ok e :=
  ⟨e.spelledBy_toData, fun _ _ h =>
    Description.ofData_eq_ok_iff.mpr (Description.entity_of_spelledBy he hc h)⟩

/-- The lamp as data leaves out most defaults, and has states in another order, a relation in
capitals and a bare list. -/
theorem lamp_spelledBy : lamp.SpelledBy (lampData ["Off", "On"]) := by
  have hgroup : ∀ name states, (StateGroup.mk name states).SpelledBy
      (ofPairs [("name", .text name), ("states", texts states)]) := fun name states =>
    isRecord_ofPairs (by simp) ⟨⟨_, rfl, rfl⟩, leftOutOr_some rfl⟩
  have hswitch : ∀ target state,
      (TransitionRule.mk target (Condition.of [state] (.builtin .and))).SpelledBy
        (ofPairs [("target", .text target), ("when", texts [state])]) := fun target state =>
    isRecord_ofPairs (by simp)
      ⟨⟨_, rfl, rfl⟩, leftOutOr_some (NameSet.spelledBy_texts [state]), .inl ⟨rfl, rfl⟩⟩
  have hcase : Text.lower "AND" = RelationKind.and.key := by decide
  have hraised : (Condition.of ["Low", "On"] (.builtin .and)).SpelledBy
      (ofPairs [("states", texts ["On", "Low"]), ("relation", .text "AND")]) :=
    .inr (isRecord_ofPairs (by simp)
      ⟨leftOutOr_some ⟨_, rfl, fun s => by simp [Condition.of, NameSet.mem_ofList, or_comm]⟩,
        leftOutOr_some ⟨_, rfl, hcase⟩⟩)
  refine isRecord_ofPairs (by simp) ⟨⟨_, rfl, rfl⟩, .inl ⟨rfl, trivial⟩, leftOutOr_some rfl,
    leftOutOr_some ⟨_, rfl, .cons (hgroup _ _) (.cons (hgroup _ _) .nil)⟩,
    leftOutOr_some ⟨_, rfl, .cons ?press (.cons ?raise (.cons ?level .nil))⟩⟩
  case press =>
    exact isRecord_ofPairs (by simp) ⟨⟨_, rfl, rfl⟩, .inl ⟨rfl, trivial⟩, .inl ⟨rfl, rfl⟩,
      .inl ⟨rfl, rfl⟩, leftOutOr_some rfl, .inl ⟨rfl, rfl⟩,
      leftOutOr_some ⟨_, rfl, .cons (hswitch _ _) (.cons (hswitch _ _) .nil)⟩⟩
  case raise =>
    exact isRecord_ofPairs (by simp) ⟨⟨_, rfl, rfl⟩, .inl ⟨rfl, trivial⟩,
      leftOutOr_some ⟨_, rfl, .cons (Parameter.spelledBy_toData ⟨"by", "T"⟩) .nil⟩, .inl ⟨rfl, rfl⟩,
      .inl ⟨rfl, rfl⟩, leftOutOr_some ⟨_, rfl, .cons hraised .nil⟩,
      leftOutOr_some ⟨_, rfl, .cons
        (isRecord_ofPairs (by simp) ⟨⟨_, rfl, rfl⟩, .inl ⟨rfl, rfl⟩, .inl ⟨rfl, rfl⟩⟩) .nil⟩⟩
  case level =>
    exact isRecord_ofPairs (by simp) ⟨⟨_, rfl, rfl⟩, ⟨_, rfl, rfl⟩, .inl ⟨rfl, rfl⟩,
      .inl ⟨rfl, rfl⟩, .inl ⟨rfl, rfl⟩, leftOutOr_some ⟨_, rfl, .cons
        (.inl ⟨rfl, NameSet.spelledBy_texts ["On"]⟩) .nil⟩, .inl ⟨rfl, rfl⟩⟩

/-- The lamp is loaded from its data in either spelling. -/
theorem loads_spelled_lamp :
    Description.ofData none (lampData ["Off", "On"]) = .ok lamp ∧
      Description.ofData none lamp.toData = .ok lamp := by
  have hnamed : Description.WellNamed lamp :=
    ⟨by decide, ⟨by decide, by decide⟩, ⟨by decide, by decide⟩⟩
  have hsound : ∀ c ∈ lamp.capabilities, c.Sound := List.forall_iff_forall_mem.mp
    ⟨⟨by simp, by decide, by decide, by decide⟩, ⟨by simp, by decide, by decide, by decide⟩,
      ⟨by rintro _ ⟨⟩; decide, by decide, by decide, by decide⟩⟩
  obtain ⟨hlamp, hload⟩ := loads_spelled hnamed hsound
  exact ⟨hload none _ lamp_spelledBy, hload none _ hlamp⟩

end Typestate
