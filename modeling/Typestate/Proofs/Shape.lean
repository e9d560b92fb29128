import Typestate.Proofs.Loaded
import Typestate.Proofs.Record

/-! # The shape of descriptions

What data has to look like to be loaded, without what is found in it. Only the shape counts: that
the states, the relations and the targets that are named exist anywhere is not asked for.

* `Data.text?`, `Data.IsName`, `Data.IsTruth`, `Data.bare?`: texts, names, truth values and bare
  lists. In plain data only texts are texts, and only lists are lists (`Data.isPlain`); bytes that
  encode a text, sets and pairs are read as if they were.
* `IsGroup`, `IsParameter`, `IsCondition`, `IsTransition`, `IsCapability`, `IsEntity`: the records.
* `loads_iff_isEntity`: exactly the data of this shape is loaded. -/

namespace Typestate

open Schema

/-! ### Values -/

namespace Data

/-- The text that data is read as: a text, or one that bytes encode. -/
def text? : Data → Option String
  | .text s => some s
  | .halved s => some s
  | .bytes content => decoded? content
  | _ => none

/-- The data is read as a text. -/
def IsText (d : Data) : Prop := ∃ s, d.text? = some s

/-- The data is read as a text that is not empty and has no halves of surrogate pairs. -/
def IsName (d : Data) : Prop := (∃ s, d.text? = some s ∧ s ≠ "") ∧ ∀ halves, d ≠ .halved halves

/-- A text, or nothing. -/
def IsOptionalText (d : Data) : Prop := d = .null ∨ d.IsText

/-- The text is a word for a truth value, with or without capitals. -/
def IsTruthWord (s : String) : Prop :=
  String.ofList (s.toList.map smallLetter) ∈
    ["1", "on", "t", "true", "y", "yes"] ++ ["0", "off", "f", "false", "n", "no"]

/-- A truth value, zero or one, or a word that means a truth value. -/
def IsTruth : Data → Prop
  | .bool _ => True
  | .int i => i = 0 ∨ i = 1
  | .float x => x.toInt? = some 0 ∨ x.toInt? = some 1
  | .halved _ => False
  | d => ∃ s, d.text? = some s ∧ IsTruthWord s

/-- The items of a list or pair. -/
def bare? : Data → Option (List Data)
  | .list items => some items
  | .pair first second => some [first, second]
  | _ => none

/-- The name in a record. -/
def name? (d : Data) : Option String := (d.valueAt? "name").bind text?

/-- A list of records that are as asked, no two of which have the same name. -/
def IsUniquelyNamed (P : Data → Prop) (d : Data) : Prop :=
  ∃ items, d.items? = some items ∧ (∀ x ∈ items, P x) ∧ (items.map name?).Nodup

/-- The data is itself, and does not stand for a text or a list that it is not. -/
def isPlain : Data → Bool
  | .halved _ => false
  | .bytes _ => false
  | .set _ => false
  | .pair _ _ => false
  | _ => true

end Data

namespace Description

open Data

/-! ### Records -/

/-- A state group. -/
def IsGroup : Data → Prop :=
  IsRecord [("name", Present IsName), ("states", IfPresent (IsListOf IsText))]

/-- A parameter; its type stands under one of two keys. -/
def IsParameter (d : Data) : Prop :=
  ∃ key ∈ ["type", "type_name"], d.IsRecord [("name", Present IsName), (key, Present IsName)]

/-- A condition: a bare list of states, or a record. -/
def IsCondition (d : Data) : Prop :=
  (∃ states, d.bare? = some states ∧ ∀ s ∈ states, s.IsText) ∨
    d.IsRecord [("states", IfPresent (IsListOf IsText)), ("relation", IfPresent IsName)]

/-- A transition rule. -/
def IsTransition : Data → Prop :=
  IsRecord [("target", Present IsName), ("when", IfPresent (IsListOf IsText)),
    ("relation", IfPresent IsName)]

/-- A capability. -/
def IsCapability : Data → Prop :=
  IsRecord [("name", Present IsName), ("returns", IfPresent IsOptionalText),
    ("parameters", IfPresent (IsListOf IsParameter)),
    ("type_parameters", IfPresent (IsListOf IsText)),
    ("available_for_all", IfPresent IsTruth),
    ("available_for", IfPresent (IsListOf IsCondition)),
    ("transitions", IfPresent (IsListOf IsTransition))]

/-- **The description of an entity.** -/
def IsEntity : Data → Prop :=
  IsRecord [("name", Present IsName), ("module", IfPresent IsOptionalText),
    ("type_parameters", IfPresent (IsListOf IsText)),
    ("groups", IfPresent (IsUniquelyNamed IsGroup)),
    ("capabilities", IfPresent (IsUniquelyNamed IsCapability))]

/-! ### The checks accept the shape -/

section Values

variable {d : Data}

theorem text_eq_valid_iff {s : String} : Schema.text d = .valid s ↔ d.text? = some s := by
  cases d with
  | text => simp [Schema.text, text?]
  | halved => simp [Schema.text, text?]
  | bytes content =>
    simp only [Schema.text, text?]
    split
    · next h => simp [h]
    · next h => simp [h, Checked.fault_ne_valid]
  | _ => simp [Schema.text, text?, Checked.fault_ne_valid]

theorem accepts_text : Accepts Schema.text d ↔ d.IsText := exists_congr fun _ => text_eq_valid_iff

theorem accepts_nonEmptyText : Accepts nonEmptyText d ↔ d.IsName := by
  simp only [Accepts, nonEmptyText_eq_valid_iff, text_eq_valid_iff, IsName]
  constructor
  · rintro ⟨s, hs, hne, hd⟩
    exact ⟨⟨s, hs, hne⟩, hd⟩
  · rintro ⟨⟨s, hs, hne⟩, hd⟩
    exact ⟨s, hs, hne, hd⟩

theorem accepts_optionalText : Accepts optionalText d ↔ d.IsOptionalText := by
  unfold Accepts optionalText IsOptionalText
  split
  · simp
  · next hd =>
    simp only [Checked.map_eq_valid_iff, text_eq_valid_iff, IsText]
    constructor
    · rintro ⟨_, s, hs, -⟩
      exact .inr ⟨s, hs⟩
    · rintro (rfl | ⟨s, hs⟩)
      · exact absurd rfl hd
      · exact ⟨some s, s, hs, rfl⟩

theorem accepts_returnType : Accepts returnType d ↔ d.IsOptionalText := by
  unfold Accepts returnType
  split
  · next s =>
    refine iff_of_true ?_ (.inr ⟨s, rfl⟩)
    split <;> exact ⟨_, rfl⟩
  · exact accepts_optionalText

theorem accepts_relationText :
    Accepts (fun d => RelationRef.ofText <$> nonEmptyText d) d ↔ d.IsName := by
  rw [← accepts_nonEmptyText]
  simp [Accepts, Checked.fmap_eq_valid_iff]

theorem accepts_truthOfText {s : String} : (∃ b, truthOfText s = .valid b) ↔ IsTruthWord s := by
  rw [IsTruthWord, List.mem_append, ← List.contains_iff_mem, ← List.contains_iff_mem]
  unfold truthOfText truthWord?
  dsimp only
  split_ifs with htrue hfalse
  · exact iff_of_true ⟨true, rfl⟩ (.inl htrue)
  · exact iff_of_true ⟨false, rfl⟩ (.inr hfalse)
  · exact iff_of_false not_accepts_fault (not_or.mpr ⟨htrue, hfalse⟩)

theorem accepts_truthOfInt {i : Int} : (∃ b, truthOfInt i = .valid b) ↔ i = 0 ∨ i = 1 := by
  unfold truthOfInt
  by_cases h0 : i = 0
  · simp [h0]
  · by_cases h1 : i = 1
    · simp [h1]
    · simp [h0, h1, Checked.fault_ne_valid]

theorem accepts_truth : Accepts truth d ↔ d.IsTruth := by
  cases d with
  | bool b => exact iff_of_true ⟨b, rfl⟩ trivial
  | text s => exact accepts_truthOfText.trans (by simp [IsTruth, text?])
  | halved => exact iff_of_false not_accepts_fault id
  | bytes content =>
    simp only [Accepts, truth, IsTruth, text?]
    cases decoded? content with
    | none => simp [Checked.fault_ne_valid]
    | some s => simpa using accepts_truthOfText
  | int i =>
    simp only [Accepts, truth, IsTruth]
    split
    · exact accepts_truthOfInt
    · next h => 
      simp only [Checked.fault_ne_valid, exists_false, false_iff]
      rintro (rfl | rfl) <;> exact h (by decide)
  | float x =>
    simp only [Accepts, truth, IsTruth]
    cases x.toInt? with
    | none => simp [Checked.fault_ne_valid]
    | some i =>
      simp only [Option.some.injEq]
      split
      · exact accepts_truthOfInt
      · next h => 
        simp only [Checked.fault_ne_valid, exists_false, false_iff]
        rintro (rfl | rfl) <;> exact h (by decide)
  | _ => exact iff_of_false not_accepts_fault (by simp [IsTruth, text?])

end Values

/-! ### Records -/

section Records

variable {d : Data} {name : String} {entries : List (Data × Data)}

theorem accepts_textList :
    (∃ xs, textList name entries = .valid xs) ↔ IfPresent (IsListOf IsText) (find? name entries) :=
  accepts_optional [] (accepts_listOf fun _ => accepts_text)

theorem accepts_relation (default : RelationKind) :
    (∃ r, relation default entries = .valid r) ↔ IfPresent IsName (find? "relation" entries) :=
  accepts_optional (RelationRef.builtin default) fun _ => accepts_relationText

theorem accepts_name :
    (∃ s, required name nonEmptyText entries = .valid s) ↔ Present IsName (find? name entries) :=
  accepts_required fun _ => accepts_nonEmptyText

theorem accepts_group (d : Data) : Accepts group d ↔ IsGroup d := by
  simp only [Accepts, group_eq_valid_iff, IsGroup, isRecord_iff, List.map_cons, List.map_nil,
    List.Forall, ← accepts_name, ← accepts_textList]
  constructor
  · rintro ⟨g, entries, rfl, hname, hstates, hkeys⟩
    exact ⟨entries, rfl, hkeys, ⟨_, hname⟩, _, hstates⟩
  · rintro ⟨entries, rfl, hkeys, ⟨name, hname⟩, states, hstates⟩
    exact ⟨⟨name, states⟩, entries, rfl, hname, hstates, hkeys⟩

theorem accepts_conditionRecord (d : Data) :
    Accepts conditionRecord d ↔
      d.IsRecord [("states", IfPresent (IsListOf IsText)), ("relation", IfPresent IsName)] := by
  simp only [Accepts, conditionRecord_eq_valid_iff, isRecord_iff, List.map_cons, List.map_nil,
    List.Forall, ← accepts_textList, ← accepts_relation .or]
  constructor
  · rintro ⟨c, entries, rfl, ⟨names, hnames, -⟩, hrelation, hkeys⟩
    exact ⟨entries, rfl, hkeys, ⟨names, hnames⟩, _, hrelation⟩
  · rintro ⟨entries, rfl, hkeys, ⟨names, hnames⟩, r, hrelation⟩
    exact ⟨Condition.of names r, entries, rfl, ⟨names, hnames, rfl⟩, hrelation, hkeys⟩

/-- **A bare list of states is a record with nothing else.** -/
theorem accepts_bare {states : List Data} :
    Accepts conditionRecord (ofPairs [("states", .list states)]) ↔ ∀ s ∈ states, s.IsText := by
  rw [accepts_conditionRecord]
  constructor
  · rintro ⟨_, hmap, -, hfields⟩
    cases hmap
    have hstates : IfPresent (IsListOf IsText) (some (.list states)) :=
      (List.forall_mem_cons.mp hfields).1
    obtain ⟨_, hitems, htexts⟩ := hstates _ rfl
    cases hitems
    exact htexts
  · intro h
    refine isRecord_ofPairs (by simp) ⟨fun d hd => ?_, fun d hd => by cases hd⟩
    cases hd
    exact ⟨states, rfl, h⟩

theorem accepts_condition (d : Data) : Accepts condition d ↔ IsCondition d := by
  have hnot : ∀ {d : Data} {fields}, (∀ entries, d ≠ .map entries) → ¬ d.IsRecord fields :=
    fun hd ⟨entries, hmap, _⟩ => hd entries hmap
  unfold IsCondition Accepts condition
  split
  · next states =>
    rw [or_iff_left (hnot (by simp))]
    exact accepts_bare.trans (by simp [bare?])
  · next first second =>
    rw [or_iff_left (hnot (by simp))]
    exact accepts_bare.trans (by simp [bare?])
  · next hlist hpair =>
    refine (accepts_conditionRecord _).trans (or_iff_right ?_).symm
    rintro ⟨states, hstates, -⟩
    unfold bare? at hstates
    split at hstates
    · exact hlist _ rfl
    · exact hpair _ _ rfl
    · cases hstates

theorem accepts_transition (d : Data) : Accepts transition d ↔ IsTransition d := by
  simp only [Accepts, transition_eq_valid_iff, IsTransition, isRecord_iff, List.map_cons,
    List.map_nil, List.Forall, ← accepts_name, ← accepts_textList, ← accepts_relation .and]
  constructor
  · rintro ⟨t, entries, rfl, htarget, ⟨names, hnames, -⟩, hrelation, hkeys⟩
    exact ⟨entries, rfl, hkeys, ⟨_, htarget⟩, ⟨names, hnames⟩, _, hrelation⟩
  · rintro ⟨entries, rfl, hkeys, ⟨target, htarget⟩, ⟨names, hnames⟩, r, hrelation⟩
    exact ⟨⟨target, Condition.of names r⟩, entries, rfl, htarget, ⟨names, hnames, rfl⟩,
      hrelation, hkeys⟩

theorem accepts_parameter (d : Data) : Accepts parameter d ↔ IsParameter d := by
  simp only [Accepts, parameter_eq_valid_iff, IsParameter, isRecord_iff, List.map_cons,
    List.map_nil, List.Forall]
  constructor
  · rintro ⟨p, entries, rfl, hname, htype, hkeys⟩
    exact ⟨_, eitherKey_mem "type" "type_name", entries, rfl, hkeys, accepts_name.mp ⟨_, hname⟩,
      accepts_name.mp ⟨_, htype⟩⟩
  · rintro ⟨key, hkey, entries, rfl, hkeys, hname, htype⟩
    have heither : eitherKey "type" "type_name" entries = key :=
      eitherKey_eq hkey (by simp [eq_comm]) hkeys htype
    obtain ⟨name, hname⟩ := accepts_name.mpr hname
    obtain ⟨type, htype⟩ := accepts_name.mpr htype
    exact ⟨⟨name, type⟩, entries, rfl, hname, by rwa [heither], by rwa [heither]⟩

theorem accepts_capability (d : Data) : Accepts capability d ↔ IsCapability d := by
  simp only [Accepts, capability_eq_valid_iff, IsCapability, isRecord_iff, List.map_cons,
    List.map_nil, List.Forall, ← accepts_name, ← accepts_textList,
    ← accepts_optional none fun _ => accepts_returnType,
    ← accepts_optional [] (accepts_listOf accepts_parameter),
    ← accepts_optional false fun _ => accepts_truth,
    ← accepts_optional [] (accepts_listOf accepts_condition),
    ← accepts_optional [] (accepts_listOf accepts_transition)]
  constructor
  · rintro ⟨c, entries, rfl, h₁, h₂, h₃, h₄, h₅, h₆, h₇, hkeys⟩
    exact ⟨entries, rfl, hkeys, ⟨_, h₁⟩, ⟨_, h₂⟩, ⟨_, h₃⟩, ⟨_, h₄⟩, ⟨_, h₅⟩, ⟨_, h₆⟩, _, h₇⟩
  · rintro ⟨entries, rfl, hkeys, ⟨_, h₁⟩, ⟨_, h₂⟩, ⟨_, h₃⟩, ⟨_, h₄⟩, ⟨_, h₅⟩, ⟨_, h₆⟩, _, h₇⟩
    exact ⟨⟨_, _, _, _, _, _, _⟩, entries, rfl, h₁, h₂, h₃, h₄, h₅, h₆, h₇, hkeys⟩

/-! ### Names -/

theorem name?_of_required {s : String} (h : required "name" nonEmptyText entries = .valid s) :
    (Data.map entries).name? = some s := by
  obtain ⟨v, hv, hs⟩ := required_eq_valid_iff.mp h
  rw [name?, valueAt?, hv]
  exact text_eq_valid_iff.mp (nonEmptyText_eq_valid_iff.mp hs).1

/-- **Records with different names**, if each record is found with the name that it has. -/
theorem accepts_uniquelyNamed {α : Type} (what : String) {nameOf : α → String}
    {check : Data → Checked α} {P : Data → Prop} (h : ∀ d, Accepts check d ↔ P d)
    (hname : ∀ d a, check d = .valid a → d.name? = some (nameOf a)) (d : Data) :
    Accepts (uniquelyNamed what nameOf check) d ↔ d.IsUniquelyNamed P := by
  have hnames : ∀ {items : List Data} {values : List α},
      List.Forall₂ (fun d a => check d = .valid a) items values →
      ((items.map name?).Nodup ↔ (values.map nameOf).Nodup) := by
    intro items values hitems
    have heq : items.map name? = (values.map nameOf).map some := by
      rw [List.map_map]
      exact List.forall₂_eq_eq_eq ▸ List.forall₂_map_left_iff.mpr
        (List.forall₂_map_right_iff.mpr (hitems.imp fun d a => hname d a))
    rw [heq, List.nodup_map_iff fun _ _ => Option.some.inj]
  simp only [Accepts, uniquelyNamed_eq_valid_iff, listOf_eq_valid_iff, IsUniquelyNamed]
  constructor
  · rintro ⟨values, ⟨items, hd, hitems⟩, hnodup⟩
    refine ⟨items, hd, fun x hx => ?_, (hnames hitems).mpr hnodup⟩
    exact (h x).mp (exists_forall₂_iff.mp ⟨values, hitems⟩ x hx)
  · rintro ⟨items, hd, hP, hnodup⟩
    obtain ⟨values, hitems⟩ := exists_forall₂_iff.mpr fun x hx => (h x).mpr (hP x hx)
    exact ⟨values, ⟨items, hd, hitems⟩, (hnames hitems).mp hnodup⟩

theorem name?_group {g : StateGroup} (h : group d = .valid g) : d.name? = some g.name := by
  obtain ⟨entries, rfl, hname, -⟩ := group_eq_valid_iff.mp h
  exact name?_of_required hname

theorem name?_capability {c : Capability} (h : capability d = .valid c) :
    d.name? = some c.name := by
  obtain ⟨entries, rfl, hname, -⟩ := capability_eq_valid_iff.mp h
  exact name?_of_required hname

theorem accepts_entity (d : Data) : Accepts entity d ↔ IsEntity d := by
  simp only [Accepts, entity_eq_valid_iff, IsEntity, isRecord_iff, List.map_cons, List.map_nil,
    List.Forall, ← accepts_name, ← accepts_textList,
    ← accepts_optional none fun _ => accepts_optionalText,
    ← accepts_optional []
      (accepts_uniquelyNamed "state group" accepts_group fun _ _ => name?_group),
    ← accepts_optional []
      (accepts_uniquelyNamed "capability" accepts_capability fun _ _ => name?_capability)]
  constructor
  · rintro ⟨e, entries, rfl, h₁, h₂, h₃, h₄, h₅, hkeys⟩
    exact ⟨entries, rfl, hkeys, ⟨_, h₁⟩, ⟨_, h₂⟩, ⟨_, h₃⟩, ⟨_, h₄⟩, _, h₅⟩
  · rintro ⟨entries, rfl, hkeys, ⟨_, h₁⟩, ⟨_, h₂⟩, ⟨_, h₃⟩, ⟨_, h₄⟩, _, h₅⟩
    exact ⟨⟨_, _, _, _, _⟩, entries, rfl, h₁, h₂, h₃, h₄, h₅, hkeys⟩

end Records

/-! ### What is loaded -/

theorem isText_of_isPlain {d : Data} (h : d.isPlain = true) : d.IsText ↔ ∃ s, d = .text s := by
  cases d with
  | halved => cases h
  | bytes => cases h
  | _ => simp [IsText, text?]

theorem isName_of_isPlain {d : Data} (h : d.isPlain = true) :
    d.IsName ↔ ∃ s, d = .text s ∧ s ≠ "" := by
  cases d with
  | halved => cases h
  | bytes => cases h
  | _ => simp [IsName, text?]

theorem items?_of_isPlain {d : Data} (h : d.isPlain = true) {items : List Data} :
    d.items? = some items ↔ d = .list items := by
  cases d with
  | set => cases h
  | pair => cases h
  | _ => simp [items?]

theorem bare?_of_isPlain {d : Data} (h : d.isPlain = true) {items : List Data} :
    d.bare? = some items ↔ d = .list items := by
  cases d with
  | set => cases h
  | pair => cases h
  | _ => simp [bare?]

/-- **Exactly the data that has the shape of a description is loaded**, whatever states, relations
and targets it names. In plain data a text is nothing but a text, a name nothing but a text that is
not empty, and a list nothing but a list. -/
theorem loads_iff_isEntity (origin : Option String) :
    (∀ d, (∃ e, ofData origin d = .ok e) ↔ IsEntity d) ∧
    ∀ d : Data, d.isPlain = true →
      (d.IsText ↔ ∃ s, d = .text s) ∧ (d.IsName ↔ ∃ s, d = .text s ∧ s ≠ "") ∧
        (∀ items, d.items? = some items ↔ d = .list items) ∧
        ∀ items, d.bare? = some items ↔ d = .list items := by
  refine ⟨fun d => ?_, fun d hd => ⟨isText_of_isPlain hd, isName_of_isPlain hd,
    fun _ => items?_of_isPlain hd, fun _ => bare?_of_isPlain hd⟩⟩
  rw [← accepts_entity]
  exact exists_congr fun e => ofData_eq_ok_iff

/-- A lamp whose switch has none of the states that its capabilities name is loaded, one with a
color is not. -/
theorem loads_iff_isEntity_lamp :
    IsEntity (lampData []) ∧
      ¬ IsEntity (ofPairs [("name", .text "Lamp"), ("color", .text "red")]) ∧
      (Data.text "Lamp").IsName ∧ ¬ (Data.text "").IsName := by
  obtain ⟨hloads, hplain⟩ := loads_iff_isEntity none
  have hname : ∀ s, (Data.text s).IsName ↔ ∃ t, Data.text s = .text t ∧ t ≠ "" := fun s =>
    (hplain (.text s) rfl).2.1
  refine ⟨(hloads _).mp ⟨_, rfl⟩, fun h => ?_, (hname _).mpr ⟨_, rfl, by decide⟩, fun h => ?_⟩
  · obtain ⟨e, he⟩ := (hloads _).mpr h
    cases he
  · obtain ⟨_, ht, hne⟩ := (hname "").mp h
    cases ht
    exact hne rfl

end Description
end Typestate
