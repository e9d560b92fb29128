import Typestate.Proofs.Issues

/-! # Errors stay in their place

Whatever is wrong with one element of a description, the report says the same about everything else.
Only what is said about a list as a whole, that two of its elements have the same name, depends on
several of them: it is said once all of them are valid. What is wrong with the element itself is
reported in full, unless a record around it has a key with halves of surrogate pairs.

* `Data.Replaced`: data that is the same but for what is at a path.
* `Data.hides`: a record on the way to a path has a key with halves of surrogate pairs.
* `Description.Slot`: the elements of the lists of records, with the path to each.
* `Description.reported`: the issues that loading reports.
* `issues_stay_in_place`: two descriptions that only differ in a slot are reported alike but for the
  slot. -/

namespace Typestate

open Schema

/-! ### Data that differs in one place -/

/-- The second data is the first with `y` in place of `x` at the path. Items may be those of a list,
a set or a pair. -/
inductive Data.Replaced (x y : Data) : List Step → Data → Data → Prop
  | here : Replaced x y [] x y
  | key {name : String} {before after : List (Data × Data)} {path : List Step} {v w : Data} :
    Data.find? name before = none → Replaced x y path v w →
      Replaced x y (.key name :: path) (.map (before ++ (.text name, v) :: after))
        (.map (before ++ (.text name, w) :: after))
  | item {before after : List Data} {path : List Step} {v w d d' : Data} :
    d.items? = some (before ++ v :: after) → d'.items? = some (before ++ w :: after) →
      Replaced x y path v w → Replaced x y (.index before.length :: path) d d'

/-- Some record on the way to what is at the path has a key with halves of surrogate pairs. -/
def Data.hides : List Step → Data → Bool
  | .key name :: path, .map entries =>
    hasHalvedKey entries || (find? name entries).any fun d => hides path d
  | .index k :: path, d => (d.items?.bind fun items => items[k.toNat]?).any fun d => hides path d
  | _, _ => false

/-- What is said about the element at the path of the data: its issues, unless they are hidden. -/
def Data.shown (path : List Step) (d : Data) (own : List Issue) : List Issue :=
  if d.hides path then [] else own

namespace Data.Replaced

variable {x y : Data}

/-- Nothing but what is there is replaced on the spot. -/
theorem here_iff {d d' : Data} : Replaced x y [] d d' ↔ d = x ∧ d' = y := by
  constructor
  · rintro ⟨⟩
    exact ⟨rfl, rfl⟩
  · rintro ⟨rfl, rfl⟩
    exact here

/-- A record shows what its value shows, or nothing. -/
theorem shown_key {name : String} {before : List (Data × Data)} (h : find? name before = none)
    (after : List (Data × Data)) (path : List Step) (v : Data) (own : List Issue) :
    (Data.map (before ++ (.text name, v) :: after)).shown (.key name :: path) own =
      if hasHalvedKey (before ++ (.text name, v) :: after) then [] else v.shown path own := by
  rw [shown, hides, find?_middle_self h, Option.any_some]
  cases hasHalvedKey (before ++ (.text name, v) :: after) <;> rfl

/-- A list shows what its item shows. -/
theorem shown_item {before after : List Data} {v d : Data}
    (h : d.items? = some (before ++ v :: after)) (path : List Step) (own : List Issue) :
    d.shown (.index before.length :: path) own = v.shown path own := by
  simp [shown, hides, h]

/-- **What is confined to the path in the items is confined to it in their list.** -/
theorem confined_listOf {α : Type} {check : Data → Checked α} {path : List Step} {k : Int}
    {own : List Issue} {d d' : Data} (h : Replaced x y (.index k :: path) d d')
    (hitem : ∀ v w, Replaced x y path v w →
      Confined path [] (v.shown path own) (check v).issues (check w).issues) :
    Confined (.index k :: path) [] (d.shown (.index k :: path) own) (listOf check d).issues
      (listOf check d').issues := by
  cases h with
  | item hd hd' h =>
    rw [shown_item hd]
    exact (hitem _ _ h).item hd hd'

/-- **What is confined to the path in the value of a key is confined to it in the record.** -/
theorem confined_record {fields : List (String × (Option Data → List Issue))} {name : String}
    {about : Option Data → List Issue} (hfields : (fields.map (·.1)).Nodup)
    (hfield : (name, about) ∈ fields) {path : List Step} (hpath : path ≠ [])
    {shared : List (List Step)} {own : List Issue} {d d' : Data}
    (h : Replaced x y (.key name :: path) d d')
    (hvalue : ∀ v w, Replaced x y path v w →
      Confined path shared (v.shown path own) (about (some v)) (about (some w))) :
    ∃ entries entries', d = .map entries ∧ d' = .map entries' ∧
      Confined (.key name :: path) (shared.map (.key name :: ·)) (d.shown (.key name :: path) own)
        (recordIssues fields entries) (recordIssues fields entries') := by
  cases h with
  | key hbefore h =>
    refine ⟨_, _, rfl, rfl, ?_⟩
    rw [shown_key hbefore]
    exact .field hfield hfields hbefore (hvalue _ _ h) hpath _

end Data.Replaced

namespace Description

open Data Checked

/-! ### Records -/

/-- What there is to say about the keys of a capability. -/
def capabilityFields : List (String × (Option Data → List Issue)) :=
  [("name", aboutRequired nonEmptyText), ("returns", aboutOptional returnType),
    ("parameters", aboutOptional (listOf parameter)),
    ("type_parameters", aboutOptional (listOf text)), ("available_for_all", aboutOptional truth),
    ("available_for", aboutOptional (listOf condition)),
    ("transitions", aboutOptional (listOf transition))]

/-- What there is to say about the keys of an entity. -/
def entityFields : List (String × (Option Data → List Issue)) :=
  [("name", aboutRequired nonEmptyText), ("module", aboutOptional optionalText),
    ("type_parameters", aboutOptional (listOf text)),
    ("groups", aboutOptional (uniquelyNamed "state group" StateGroup.name group)),
    ("capabilities", aboutOptional (uniquelyNamed "capability" Capability.name capability))]

theorem issues_capability (entries : List (Data × Data)) :
    (capability (.map entries)).issues = recordIssues capabilityFields entries := by
  rw [capability, issues_entriesOf_andThen]
  simp only [issues_seqLeft, issues_seq, issues_fmap, issues_required, issues_optional, textList,
    recordIssues, fieldIssues, capabilityFields, List.flatMap_cons, List.flatMap_nil,
    List.append_nil, List.append_assoc, List.map_cons, List.map_nil]

theorem issues_entity (entries : List (Data × Data)) :
    (entity (.map entries)).issues = recordIssues entityFields entries := by
  rw [entity, issues_entriesOf_andThen]
  simp only [issues_seqLeft, issues_seq, issues_fmap, issues_required, issues_optional, textList,
    recordIssues, fieldIssues, entityFields, List.flatMap_cons, List.flatMap_nil,
    List.append_nil, List.append_assoc, List.map_cons, List.map_nil]

/-- **A list whose items must differ in their names** is reported about item by item, and then
perhaps as a whole. -/
theorem issues_uniquelyNamed {α : Type} (what : String) (name : α → String)
    (check : Data → Checked α) (d : Data) :
    ∃ more, (uniquelyNamed what name check d).issues = (listOf check d).issues ++ more ∧
      ∀ i ∈ more, i.path = [] := by
  obtain ⟨more, hmore, hcases⟩ := exists_issues_andThen (listOf check d) (distinctNames what name)
  refine ⟨more, hmore, ?_⟩
  rcases hcases with rfl | ⟨items, rfl⟩
  · simp
  · unfold distinctNames
    split
    · simp [issues]
    · simp [issues, fault]

/-! ### Reports -/

/-- The issues that are the cause of a failure. -/
def failureIssues : Failure → List Issue
  | .report r => match r.cause with
    | some (.schema issues) => issues
    | _ => []
  | _ => []

/-- **The issues that loading reports.** -/
def reported (origin : Option String) (d : Data) : List Issue :=
  match ofData origin d with
  | .ok _ => []
  | .error failure => failureIssues failure

/-- A mapping is reported about as the schema says. -/
theorem reported_map (origin : Option String) (entries : List (Data × Data)) :
    reported origin (.map entries) = (entity (.map entries)).issues := by
  unfold reported ofData
  dsimp only
  cases entity (.map entries) <;> rfl

/-! ### Slots -/

/-- The lists of records in a capability. -/
inductive Part where
  | parameters
  | availableFor
  | transitions

/-- The key of the list. -/
def Part.key : Part → String
  | .parameters => "parameters"
  | .availableFor => "available_for"
  | .transitions => "transitions"

/-- The path in a capability to an element of the list. -/
def Part.path (part : Part) (j : Nat) : List Step := [.key part.key, .index j]

/-- What there is to say about an element of the list. -/
def Part.issues : Part → Data → List Issue
  | .parameters, d => (parameter d).issues
  | .availableFor, d => (condition d).issues
  | .transitions, d => (transition d).issues

/-- The elements of the lists of records in a description: groups, capabilities, and elements of the
lists in a capability. -/
inductive Slot where
  | group (i : Nat)
  | capability (i : Nat)
  | part (i : Nat) (part : Part) (j : Nat)

/-- The list of records of the description that the slot is in, or its capability is in. No two of
the records have the same name. -/
def Slot.list : Slot → List Step
  | .group _ => [.key "groups"]
  | .capability _ => [.key "capabilities"]
  | .part .. => [.key "capabilities"]

/-- The path to the slot. -/
def Slot.path : Slot → List Step
  | .group i => [.key "groups", .index i]
  | .capability i => [.key "capabilities", .index i]
  | .part i p j => .key "capabilities" :: .index i :: p.path j

/-- What there is to say about an element in the slot. -/
def Slot.issues : Slot → Data → List Issue
  | .group _, d => (Description.group d).issues
  | .capability _, d => (Description.capability d).issues
  | .part _ p _, d => p.issues d

variable {x y : Data}

/-- A list of records in a capability. -/
theorem confined_capability {α : Type} {check : Data → Checked α} {key : String}
    (hfield : (key, aboutOptional (listOf check)) ∈ capabilityFields) {k : Int} {c c' : Data}
    (h : Replaced x y [.key key, .index k] c c') :
    Confined [.key key, .index k] [] (c.shown [.key key, .index k] (check x).issues)
      (capability c).issues (capability c').issues := by
  have hlist : ∀ v w, Replaced x y [.index k] v w →
      Confined [.index k] [] (v.shown [.index k] (check x).issues) (listOf check v).issues
        (listOf check w).issues :=
    fun v w hvw => hvw.confined_listOf fun d d' hitem => by
      obtain ⟨rfl, rfl⟩ := Replaced.here_iff.mp hitem
      exact .whole _ _
  obtain ⟨entries, entries', rfl, rfl, hconfined⟩ :=
    h.confined_record (by decide) hfield (by simp) hlist
  rwa [issues_capability, issues_capability]

/-- **In a capability nothing but what is in an element depends on it.** -/
theorem Part.confined (p : Part) (j : Nat) {c c' : Data} (h : Replaced x y (p.path j) c c') :
    Confined (p.path j) [] (c.shown (p.path j) (p.issues x)) (capability c).issues
      (capability c').issues := by
  cases p with
  | parameters => exact confined_capability (by simp [capabilityFields, Part.key]) h
  | availableFor => exact confined_capability (by simp [capabilityFields, Part.key]) h
  | transitions => exact confined_capability (by simp [capabilityFields, Part.key]) h

/-- A list of records in a description, no two of which have the same name. -/
theorem confined_reported {α : Type} {what : String} {name : α → String} {check : Data → Checked α}
    {key : String} (hfield : (key, aboutOptional (uniquelyNamed what name check)) ∈ entityFields)
    {path : List Step} {k : Int} {own : List Issue} {d d' : Data}
    (h : Replaced x y (.key key :: .index k :: path) d d')
    (hitem : ∀ v w, Replaced x y path v w →
      Confined path [] (v.shown path own) (check v).issues (check w).issues)
    (origin : Option String) :
    Confined (.key key :: .index k :: path) [[.key key]]
      (d.shown (.key key :: .index k :: path) own) (reported origin d) (reported origin d') := by
  have hlist : ∀ v w, Replaced x y (.index k :: path) v w →
      Confined (.index k :: path) [[]] (v.shown (.index k :: path) own)
        (uniquelyNamed what name check v).issues
        (uniquelyNamed what name check w).issues := fun v w hvw => by
    obtain ⟨more, hmore, hpath⟩ := issues_uniquelyNamed what name check v
    obtain ⟨others, hothers, hpath'⟩ := issues_uniquelyNamed what name check w
    rw [hmore, hothers]
    exact (hvw.confined_listOf hitem).share (by simp) hpath hpath'
  obtain ⟨entries, entries', rfl, rfl, hconfined⟩ :=
    h.confined_record (by decide) hfield (by simp) hlist
  rwa [reported_map, reported_map, issues_entity, issues_entity]

/-- **In a description nothing but what is in a slot depends on it**, and perhaps what is said about
its list as a whole. -/
theorem Slot.confined (slot : Slot) {d d' : Data} (h : Replaced x y slot.path d d')
    (origin : Option String) :
    Confined slot.path [slot.list] (d.shown slot.path (slot.issues x)) (reported origin d)
      (reported origin d') := by
  have hgroups : ("groups", aboutOptional (uniquelyNamed "state group" StateGroup.name
      Description.group)) ∈ entityFields := by simp [entityFields]
  have hcapabilities : ("capabilities", aboutOptional (uniquelyNamed "capability" Capability.name
      Description.capability)) ∈ entityFields := by simp [entityFields]
  cases slot with
  | group i =>
    refine confined_reported hgroups h (fun v w hvw => ?_) origin
    obtain ⟨rfl, rfl⟩ := Replaced.here_iff.mp hvw
    exact .whole _ _
  | capability i =>
    refine confined_reported hcapabilities h (fun v w hvw => ?_) origin
    obtain ⟨rfl, rfl⟩ := Replaced.here_iff.mp hvw
    exact .whole _ _
  | part i p j => exact confined_reported hcapabilities h (fun v w hvw => p.confined j hvw) origin

/-- A slot is further in than any list of records as a whole. -/
theorem Slot.not_path_prefix_list (slot other : Slot) : ¬ slot.path <+: other.list := by
  intro h
  have hlength := h.length_le
  cases slot <;> cases other <;> simp [Slot.path, Slot.list] at hlength

end Description

open Description in
/-- **What is wrong with one element stays in its place.** Two descriptions that only differ in one
slot are reported with the same errors in the same order, apart from those within the slot and from
those about the list of named records as a whole. The errors within the slot are those of the
element there, or there are none if a record around the slot has a key with halves of surrogate
pairs. So the errors within any other slot are the same, be it a sibling or an element of another
list. In a capability the same holds of the elements of its lists, with nothing said about a list as
a whole. -/
theorem issues_stay_in_place (origin : Option String) (x y : Data) :
    (∀ (slot : Slot) (d d' : Data), Data.Replaced x y slot.path d d' →
      Confined slot.path [slot.list] (d.shown slot.path (slot.issues x)) (reported origin d)
          (reported origin d') ∧
        ∀ other : Slot, ¬ slot.path <+: other.path → ¬ other.path <+: slot.path →
          ((reported origin d).filter fun i => i.IsWithin other.path) =
            (reported origin d').filter fun i => i.IsWithin other.path) ∧
    ∀ (p : Part) (j : Nat) (c c' : Data), Data.Replaced x y (p.path j) c c' →
      Confined (p.path j) [] (c.shown (p.path j) (p.issues x)) (capability c).issues
        (capability c').issues := by
  refine ⟨fun slot d d' h => ⟨slot.confined h origin, fun other hslot hother => ?_⟩,
    fun p j c c' h => p.confined j h⟩
  refine (slot.confined h origin).filter_eq fun i hi => ⟨fun hwithin => ?_, fun hlist => ?_⟩
  · rcases List.prefix_or_prefix_of_prefix hwithin hi with hbelow | habove
    · exact hslot hbelow
    · exact hother habove
  · exact other.not_path_prefix_list slot (List.mem_singleton.mp hlist ▸ hi)

/-- A description without group names, in which two capabilities have one name. -/
def twins (d : Data) : Data :=
  .map [(.text "name", .text "Twins"), (.text "groups", .list [.map []]),
    (.text "capabilities", .list [d, Data.ofPairs [("name", .text "go")],
      Data.ofPairs [("name", .text "go")]])]

/-- The first capability is replaced. -/
theorem replaced_twins (x y : Data) :
    Data.Replaced x y (Description.Slot.capability 0).path (twins x) (twins y) := by
  have hitem : ∀ rest, Data.Replaced x y [.index 0] (.list (x :: rest)) (.list (y :: rest)) :=
    fun rest => @Data.Replaced.item _ _ [] rest [] _ _ _ _ rfl rfl .here
  exact @Data.Replaced.key _ _ _ [_, _] [] _ _ _ rfl (hitem _)

open Description in
/-- A number in place of the first capability is reported, and that the other two have the same name
is only reported without it; what is wrong with the group is reported in both cases. -/
theorem issues_stay_in_place_twins :
    reported none (twins (.int 5)) =
        [⟨[.key "groups", .index 0, .key "name"], .missing⟩,
          ⟨[.key "capabilities", .index 0], .notRecord "CapabilitySchema"⟩] ∧
      reported none (twins (Data.ofPairs [("name", .text "stop")])) =
        [⟨[.key "groups", .index 0, .key "name"], .missing⟩,
          ⟨[.key "capabilities"], .rejected "Duplicate capability names: ['go']"⟩] ∧
      Confined (Slot.capability 0).path [(Slot.capability 0).list] (capability (.int 5)).issues
        (reported none (twins (.int 5)))
        (reported none (twins (Data.ofPairs [("name", .text "stop")]))) := by
  refine ⟨by decide +kernel, by decide +kernel, ?_⟩
  exact ((issues_stay_in_place none (.int 5) (Data.ofPairs [("name", .text "stop")])).1
    (Slot.capability 0) _ _ (replaced_twins _ _)).1

/-- The only capability of a description that has a key with half of a surrogate pair. -/
def garbled (d : Data) : Data :=
  .map [(.halved "\uFFFD", .int 1), (.text "name", .text "Lamp"), (.text "capabilities", .list [d])]

/-- The only capability is replaced. -/
theorem replaced_garbled (x y : Data) :
    Data.Replaced x y (Description.Slot.capability 0).path (garbled x) (garbled y) := by
  have hitem : Data.Replaced x y [.index 0] (.list [x]) (.list [y]) :=
    @Data.Replaced.item _ _ [] [] [] _ _ _ _ rfl rfl .here
  exact @Data.Replaced.key _ _ _ [_, _] [] _ _ _ rfl hitem

open Description in
/-- A number is not a capability, but in a description with such a key nothing is said about it. So
the errors within the slot are not those of the element. -/
theorem garbled_hides_capability :
    (capability (.int 5)).issues = [⟨[], .notRecord "CapabilitySchema"⟩] ∧
      reported none (garbled (.int 5)) = [⟨[], .undecodable⟩] ∧
      Data.Replaced (.int 5) (.int 6) (Slot.capability 0).path (garbled (.int 5))
        (garbled (.int 6)) ∧
      ¬ Confined (Slot.capability 0).path [(Slot.capability 0).list] (capability (.int 5)).issues
        (reported none (garbled (.int 5))) (reported none (garbled (.int 6))) := by
  refine ⟨by decide +kernel, by decide +kernel, replaced_garbled _ _, fun h => ?_⟩
  have hwithin : ((reported none (garbled (.int 5))).filter fun i =>
      i.IsWithin (Slot.capability 0).path) = [] := by decide +kernel
  exact absurd (h.within.symm.trans hwithin) (by decide +kernel)

end Typestate
