import Mathlib.Data.Option.Defs
import Typestate.Proofs.References

/-! # What is handed on

The data of a wrapper is all that is handed on to whatever writes the types. It says everything
about the wrapper but which targets its transitions have: they only led to the successor, which is
there.

* `Data.Same`: equality of data in which the order of keys does not count.
* `Wrapper.ofData?`: the wrapper that data says, read by keys. What it reads does not depend on the
  order of the keys (`ofData?_of_same`).
* `Wrapper.untargeted`: the wrapper without the targets of its transitions.
* `handoff_keeps_all_but_targets`: data gives back the wrapper that it was made of, without the
  targets. -/

namespace Typestate

namespace Data

/-! ### Equality without order of keys -/

/-- Data that says the same: lists item by item, and mappings key by key in any order. -/
inductive Same : Data → Data → Prop
  | refl (d : Data) : Same d d
  | list {items items' : List Data} :
      List.Forall₂ Same items items' → Same (.list items) (.list items')
  | map {entries entries' : List (Data × Data)} :
      (∀ name, Option.Rel Same ((Data.map entries).valueAt? name)
        ((Data.map entries').valueAt? name)) →
      Same (.map entries) (.map entries')

/-- The text, if the data is one. -/
def exactText? : Data → Option String
  | .text s => some s
  | _ => none

/-- The text under a key. -/
def textAt? (name : String) (d : Data) : Option String := (d.valueAt? name).bind exactText?

/-- What the items under a key are read as. -/
def listAt? {α : Type} (read : Data → Option α) (name : String) (d : Data) : Option (List α) :=
  (d.itemsAt? name).bind fun items => items.mapM read

/-- What is made of the contents of two options that correspond is the same, if it is for their
items. -/
theorem bind_eq_of_rel {α β γ : Type} {R : α → β → Prop} {o : Option α} {o' : Option β}
    {f : α → Option γ} {g : β → Option γ} (h : Option.Rel R o o') (hfg : ∀ a b, R a b → f a = g b) :
    o.bind f = o'.bind g := by
  cases h with
  | none => rfl
  | some hab => exact hfg _ _ hab

theorem isSome_eq_of_rel {α β : Type} {R : α → β → Prop} {o : Option α} {o' : Option β}
    (h : Option.Rel R o o') : o.isSome = o'.isSome := by
  cases h <;> rfl

theorem mapM_eq_of_forall₂ {α β γ : Type} {R : α → β → Prop} {xs : List α} {ys : List β}
    {f : α → Option γ} {g : β → Option γ} (h : List.Forall₂ R xs ys)
    (hfg : ∀ a b, R a b → f a = g b) : xs.mapM f = ys.mapM g := by
  induction h with
  | nil => rfl
  | cons hab _ ih => rw [List.mapM_cons, List.mapM_cons, hfg _ _ hab, ih]

variable {d d' : Data}

theorem Same.rel_refl (o : Option Data) : Option.Rel Same o o := by
  cases o with
  | none => exact .none
  | some x => exact .some (.refl x)

theorem Same.valueAt? (h : Same d d') (name : String) :
    Option.Rel Same (d.valueAt? name) (d'.valueAt? name) := by
  cases h with
  | refl => exact rel_refl _
  | list => exact .none
  | map hentries => exact hentries name

theorem Same.items? (h : Same d d') : Option.Rel (List.Forall₂ Same) d.items? d'.items? := by
  cases h with
  | refl =>
    cases d.items? with
    | none => exact .none
    | some items => exact .some (List.forall₂_same.mpr fun x _ => .refl x)
  | list hitems => exact .some hitems
  | map => exact .none

theorem Same.exactText? (h : Same d d') : d.exactText? = d'.exactText? := by
  cases h <;> rfl

theorem Same.textAt? (h : Same d d') (name : String) : d.textAt? name = d'.textAt? name :=
  bind_eq_of_rel (h.valueAt? name) fun _ _ => Same.exactText?

/-- **A list is read alike if its items are.** -/
theorem Same.listAt? {α : Type} {read : Data → Option α}
    (hread : ∀ x y, Same x y → read x = read y) (h : Same d d') (name : String) :
    d.listAt? read name = d'.listAt? read name := by
  unfold Data.listAt? itemsAt?
  simp only [Option.bind_assoc]
  exact bind_eq_of_rel (h.valueAt? name) fun _ _ hvalue =>
    bind_eq_of_rel hvalue.items? fun _ _ hitems => mapM_eq_of_forall₂ hitems hread

theorem Same.textsAt? (h : Same d d') (name : String) :
    d.listAt? Data.exactText? name = d'.listAt? Data.exactText? name :=
  h.listAt? (fun _ _ => Same.exactText?) name

/-- **The order of different keys does not count.** -/
theorem same_of_perm {pairs pairs' : List (String × Data)} (h : (pairs.map (·.1)).Nodup)
    (hperm : pairs.Perm pairs') : Same (ofPairs pairs) (ofPairs pairs') := by
  refine .map fun name => ?_
  have hlookup : pairs.lookup name = pairs'.lookup name := Option.ext fun value => by
    rw [Names.lookup_eq_some_iff_mem h, Names.lookup_eq_some_iff_mem ((hperm.map _).nodup_iff.mp h),
      hperm.mem_iff]
  have hvalues :=
    (valueAt?_ofPairs name pairs).trans (hlookup.trans (valueAt?_ofPairs name pairs').symm)
  exact hvalues ▸ Same.rel_refl _

end Data

open Data

/-! ### Reading wrappers -/

/-- The parameter that data says. -/
def Parameter.ofData? (d : Data) : Option Parameter := do
  let name ← d.textAt? "name"
  let type ← d.textAt? "type"
  some ⟨name, type⟩

/-- The invocation of a label. -/
def Invocation.ofLabel? : String → Option Invocation
  | "forward" => some .forward
  | "forward_and_wrap" => some .forwardAndWrap
  | _ => none

/-- The result that data says: a transition, without targets, if there is a successor. -/
def Result.ofData? (d : Data) : Option Result := do
  let type ← d.textAt? "returns"
  if (d.valueAt? "successor").isSome then
    let states ← d.listAt? exactText? "successor"
    some (.transition ⟨states⟩ type [])
  else some (.value type)

/-- The member that data says. -/
def Member.ofData? (d : Data) : Option Member := do
  let name ← d.textAt? "name"
  let parameters ← d.listAt? Parameter.ofData? "parameters"
  let typeParameters ← d.listAt? exactText? "type_parameters"
  let result ← Result.ofData? d
  let label ← d.textAt? "invocation"
  let invocation ← Invocation.ofLabel? label
  some ⟨name, parameters, typeParameters, result, invocation⟩

/-- The field that data says. -/
def Field.ofData? (d : Data) : Option Field := do
  let name ← d.textAt? "name"
  let type ← d.textAt? "type"
  some ⟨name, type⟩

/-- The constructor that data says. -/
def Constructor.ofData? (d : Data) : Option Constructor := do
  let parameter ← d.textAt? "parameter"
  let type ← d.textAt? "type"
  let field ← d.textAt? "assigns"
  some ⟨parameter, type, field⟩

/-- **The wrapper that data says.** -/
def Wrapper.ofData? (d : Data) : Option Wrapper := do
  let typeName ← d.textAt? "type_name"
  let states ← d.listAt? exactText? "states"
  let entity ← d.textAt? "entity"
  let typeParameters ← d.listAt? exactText? "type_parameters"
  let field ← (d.valueAt? "field").bind Field.ofData?
  let constructor ← (d.valueAt? "constructor").bind Constructor.ofData?
  let members ← d.listAt? Member.ofData? "members"
  some ⟨typeName, ⟨states⟩, entity, typeParameters, field, constructor, members⟩

/-! ### The order of keys -/

section Order

variable {d d' : Data}

theorem Parameter.ofData?_of_same (h : Same d d') : Parameter.ofData? d = Parameter.ofData? d' := by
  simp only [Parameter.ofData?, h.textAt?]

theorem Result.ofData?_of_same (h : Same d d') : Result.ofData? d = Result.ofData? d' := by
  simp only [Result.ofData?, h.textAt?, h.textsAt?, isSome_eq_of_rel (h.valueAt? "successor")]

theorem Member.ofData?_of_same (h : Same d d') : Member.ofData? d = Member.ofData? d' := by
  simp only [Member.ofData?, h.textAt?, h.textsAt?, Result.ofData?_of_same h,
    h.listAt? fun _ _ => Parameter.ofData?_of_same]

theorem Field.ofData?_of_same (h : Same d d') : Field.ofData? d = Field.ofData? d' := by
  simp only [Field.ofData?, h.textAt?]

theorem Constructor.ofData?_of_same (h : Same d d') :
    Constructor.ofData? d = Constructor.ofData? d' := by
  simp only [Constructor.ofData?, h.textAt?]

/-- **Wrappers are read alike from data that says the same.** -/
theorem Wrapper.ofData?_of_same (h : Same d d') : Wrapper.ofData? d = Wrapper.ofData? d' := by
  simp only [Wrapper.ofData?, h.textAt?, h.textsAt?, h.listAt? fun _ _ => Member.ofData?_of_same,
    bind_eq_of_rel (h.valueAt? "field") fun _ _ => Field.ofData?_of_same,
    bind_eq_of_rel (h.valueAt? "constructor") fun _ _ => Constructor.ofData?_of_same]

end Order

/-! ### Wrappers without targets -/

/-- The result without the targets of a transition. -/
def Result.untargeted : Result → Result
  | .value type => .value type
  | .transition successor type _ => .transition successor type []

/-- The member without the targets of a transition. -/
def Member.untargeted (m : Member) : Member := { m with result := m.result.untargeted }

/-- The wrapper without the targets of its transitions. -/
def Wrapper.untargeted (w : Wrapper) : Wrapper :=
  { w with members := w.members.map Member.untargeted }

theorem Member.toData_untargeted (m : Member) : m.untargeted.toData = m.toData := by
  unfold Member.untargeted Member.toData
  cases m.result <;> rfl

/-- **The targets are not handed on.** -/
theorem Wrapper.toData_untargeted (w : Wrapper) : w.untargeted.toData = w.toData := by
  have hmembers :
      (w.members.map Member.untargeted).map Member.toData = w.members.map Member.toData := by
    rw [List.map_map]
    exact List.map_congr_left fun m _ => m.toData_untargeted
  unfold Wrapper.untargeted Wrapper.toData
  simp only [hmembers]

/-! ### Reading what was handed on -/

/-- What was made of every item of a list is read item by item. -/
theorem Data.mapM_map_eq_some {α β γ : Type} {f : α → β} {g : β → Option γ} {k : α → γ}
    (h : ∀ x, g (f x) = some (k x)) (xs : List α) : (xs.map f).mapM g = some (xs.map k) := by
  induction xs with
  | nil => rfl
  | cons x rest ih =>
    rw [List.map_cons, List.mapM_cons, h x, ih]
    rfl

theorem Data.mapM_map_eq_some_self {α β : Type} {f : α → β} {g : β → Option α}
    (h : ∀ x, g (f x) = some x) (xs : List α) : (xs.map f).mapM g = some xs :=
  (mapM_map_eq_some (k := id) h xs).trans (by rw [List.map_id])

theorem Data.mapM_exactText? (items : List String) :
    (items.map Data.text).mapM exactText? = some items :=
  mapM_map_eq_some_self (f := Data.text) (g := exactText?) (fun _ => rfl) items

theorem Parameter.ofData?_toData (p : Parameter) :
    Parameter.ofData? (ofPairs [("name", .text p.name), ("type", .text p.type)]) = some p := rfl

theorem Field.ofData?_toData (f : Field) :
    Field.ofData? (ofPairs [("name", .text f.name), ("type", .text f.type)]) = some f := rfl

theorem Constructor.ofData?_toData (c : Constructor) :
    Constructor.ofData? (ofPairs [("parameter", .text c.parameter), ("type", .text c.type),
      ("assigns", .text c.field)]) = some c := rfl

theorem Invocation.ofLabel?_label (i : Invocation) : Invocation.ofLabel? i.label = some i := by
  cases i <;> rfl

/-- **A value and a transition are told apart**, whatever their types are called: only a transition
has a successor. -/
theorem Result.ofData?_toData (m : Member) :
    Result.ofData? m.toData = some m.result.untargeted := by
  have htype : m.toData.textAt? "returns" = some m.result.type := rfl
  cases hr : m.result with
  | value type =>
    have hnone : m.toData.valueAt? "successor" = none := by
      refine Option.eq_none_iff_forall_ne_some.mpr fun states h => ?_
      obtain ⟨q, type, targets, hq, -⟩ := Member.valueAt?_successor.mp h
      rw [hr] at hq
      cases hq
    rw [Result.ofData?, htype, hnone, hr]
    rfl
  | transition successor type targets =>
    have hsome : m.toData.valueAt? "successor" = some (texts successor.states) :=
      Member.valueAt?_successor.mpr ⟨successor, type, targets, hr, rfl⟩
    have hstates : m.toData.listAt? exactText? "successor" = some successor.states := by
      rw [listAt?, itemsAt?, hsome]
      exact mapM_exactText? successor.states
    rw [Result.ofData?, htype, hsome, hstates, hr]
    rfl

theorem Member.ofData?_toData (m : Member) : Member.ofData? m.toData = some m.untargeted := by
  have hname : m.toData.textAt? "name" = some m.name := rfl
  have hparameters : m.toData.listAt? Parameter.ofData? "parameters" = some m.parameters :=
    mapM_map_eq_some_self Parameter.ofData?_toData m.parameters
  have htypeParameters : m.toData.listAt? exactText? "type_parameters" = some m.typeParameters :=
    mapM_exactText? m.typeParameters
  have hlabel : m.toData.textAt? "invocation" = some m.invocation.label := rfl
  unfold Member.ofData?
  rw [hname, hparameters, htypeParameters, Result.ofData?_toData, hlabel]
  simp only [Option.bind_eq_bind, Option.bind_some, Invocation.ofLabel?_label]
  rfl

theorem Wrapper.ofData?_toData (w : Wrapper) : Wrapper.ofData? w.toData = some w.untargeted := by
  have hstates : w.toData.listAt? exactText? "states" = some w.permutation.states :=
    mapM_exactText? w.permutation.states
  have htypeParameters : w.toData.listAt? exactText? "type_parameters" = some w.typeParameters :=
    mapM_exactText? w.typeParameters
  have hmembers :
      w.toData.listAt? Member.ofData? "members" = some (w.members.map Member.untargeted) :=
    mapM_map_eq_some Member.ofData?_toData w.members
  unfold Wrapper.ofData?
  rw [hstates, htypeParameters, hmembers]
  rfl

/-- **The data of a wrapper keeps all but the targets of its transitions.** From data that says the
same as the data of a wrapper, in any order of keys, the wrapper is read back without these targets;
and so the data of two wrappers says the same exactly if the wrappers differ in nothing but these
targets. -/
theorem handoff_keeps_all_but_targets :
    (∀ (w : Wrapper) (d : Data), Same w.toData d → Wrapper.ofData? d = some w.untargeted) ∧
      ∀ w v : Wrapper, Same w.toData v.toData ↔ w.untargeted = v.untargeted := by
  have hread :
      ∀ (w : Wrapper) (d : Data), Same w.toData d → Wrapper.ofData? d = some w.untargeted :=
    fun w d h => (Wrapper.ofData?_of_same h).symm.trans w.ofData?_toData
  refine ⟨hread, fun w v => ⟨fun h => ?_, fun h => ?_⟩⟩
  · exact Option.some.inj ((hread w _ h).symm.trans v.ofData?_toData)
  · rw [← w.toData_untargeted, ← v.toData_untargeted, h]
    exact .refl _

/-- The lamp that is on and low. -/
def lampOn : Wrapper := lampAssembler.expected ⟨["On", "Low"]⟩

/-- The data of the lamp that is on and low, its keys in the opposite order, gives back all of the
wrapper but the targets of pressing and raising it. -/
theorem handoff_keeps_all_but_targets_lamp :
    ∃ pairs, lampOn.toData = ofPairs pairs ∧ Same lampOn.toData (ofPairs pairs.reverse) ∧
      Wrapper.ofData? (ofPairs pairs.reverse) = some lampOn.untargeted ∧
      lampOn.untargeted ≠ lampOn := by
  obtain ⟨pairs, hpairs, hkeys⟩ :
      ∃ pairs, lampOn.toData = ofPairs pairs ∧ (pairs.map (·.1)).Nodup :=
    ⟨_, rfl, by decide⟩
  have hsame : Same lampOn.toData (ofPairs pairs.reverse) :=
    hpairs ▸ same_of_perm hkeys (List.reverse_perm pairs).symm
  exact ⟨pairs, hpairs, hsame, handoff_keeps_all_but_targets.1 lampOn _ hsame, by decide⟩

end Typestate
