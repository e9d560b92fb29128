import Typestate.Proofs.Context

/-! # References between wrappers

A transition member names the wrapper it returns, and the unit finds wrappers by name. The wrapper
that is found is the one of the successor permutation, in the unit and in its data.

* `Data.valueAt?`: the value of a key in a mapping; `Data.itemsAt?`: the items under it.
* `Data.Linked`: in the data of a unit, each successor has exactly one wrapper entry, and members
  return the type of that entry.
* `references_closed`: every unit is linked, and the check for successors without a wrapper never
  finds one. -/

namespace Typestate

/-! ### Reading data -/

namespace Data

/-- The value of a key, in a mapping. -/
def valueAt? (name : String) : Data → Option Data
  | .map entries => find? name entries
  | _ => none

/-- The items under a key, in a mapping. -/
def itemsAt? (name : String) (d : Data) : Option (List Data) := (d.valueAt? name).bind items?

/-- **A mapping of pairs is read like the list of pairs.** -/
theorem valueAt?_ofPairs (name : String) (pairs : List (String × Data)) :
    (ofPairs pairs).valueAt? name = pairs.lookup name := by
  unfold valueAt? ofPairs
  induction pairs with
  | nil => rfl
  | cons pair rest ih =>
    obtain ⟨k, v⟩ := pair
    by_cases h : k = name
    · simp [find?, sameKey_text, h]
    · simp [find?, sameKey_text, h, List.lookup_cons, beq_false_of_ne (Ne.symm h), ih]

/-- In the data of a unit, exactly one wrapper entry has the states of a successor, and the member
returns its type. -/
def Linked (unit : Data) (typeParameters : List String) : Prop :=
  ∃ wrappers, unit.itemsAt? "wrappers" = some wrappers ∧
    ∀ w ∈ wrappers, ∃ members, w.itemsAt? "members" = some members ∧
      ∀ x ∈ members, ∀ states, x.valueAt? "successor" = some states →
        ∃ before v after name, wrappers = before ++ v :: after ∧
          v.valueAt? "states" = some states ∧
          (∀ other ∈ before ++ after, other.valueAt? "states" ≠ some states) ∧
          v.valueAt? "type_name" = some (.text name) ∧
          v.valueAt? "type_parameters" = some (texts typeParameters) ∧
          x.valueAt? "returns" = some (.text (genericName name typeParameters))

theorem texts_inj {a b : List String} (h : texts a = texts b) : a = b :=
  List.map_injective_iff.mpr (fun _ _ => Data.text.inj) (Data.list.inj h)

end Data

/-- **Only transitions have a successor entry.** -/
theorem Member.valueAt?_successor {x : Member} {states : Data} :
    x.toData.valueAt? "successor" = some states ↔
      ∃ q type targets, x.result = .transition q type targets ∧ states = Data.texts q.states := by
  rw [toData, Data.valueAt?_ofPairs]
  cases h : x.result with
  | value type => simp [List.lookup_cons, successorEntry]
  | transition q type targets => simp [List.lookup_cons, successorEntry, eq_comm]

/-! ### Units are linked -/

namespace Expands

variable {settings : Settings} {registry : Registry} {entity : Entity} {m : GroupMap}
  {unit : CompilationUnit}

/-- **Each permutation has exactly one wrapper.** -/
theorem wrappers_split (h : Expands settings registry entity m unit) {q : Permutation}
    (hq : q ∈ Permutation.enumerate m.stateLists) :
    ∃ before after, unit.wrappers =
        before ++ (Assembler.ofEntity settings registry entity m).expected q :: after ∧
      ∀ w ∈ before ++ after, w.permutation ≠ q := by
  obtain ⟨before, after, hsplit⟩ := List.append_of_mem hq
  have hnodup := GroupMap.nodup_permutations h.unique
  rw [hsplit, List.nodup_middle, List.nodup_cons] at hnodup
  refine ⟨before.map _, after.map _, by rw [h.wrappers_eq, hsplit, List.map_append, List.map_cons],
    fun w hw hperm => hnodup.1 ?_⟩
  rw [← List.map_append] at hw
  obtain ⟨p, hp, rfl⟩ := List.mem_map.mp hw
  rw [Assembler.expected, Assembler.permutation_wrapper] at hperm
  exact hperm ▸ hp

/-- **A transition member returns the type of the wrapper it leads to.** -/
theorem successor (h : Expands settings registry entity m unit) {w : Wrapper}
    (hw : w ∈ unit.wrappers) {x : Member} (hx : x ∈ w.members) {q : Permutation} {type : String}
    {targets : List String} (hr : x.result = .transition q type targets) :
    ∃ before v after, unit.wrappers = before ++ v :: after ∧ unit.successorOf x = .ok v ∧
      v.permutation = q ∧ (∀ other ∈ before ++ after, other.permutation ≠ q) ∧
      v.typeParameters = entity.typeParameters ∧
      type = genericName v.typeName entity.typeParameters := by
  obtain ⟨p, hp, rfl⟩ := h.mem_wrappers.mp hw
  obtain ⟨before, after, hsplit, hother⟩ := h.wrappers_split (mem_enumerate_of_transition hp hx hr)
  refine ⟨before, _, after, hsplit, h.successorOf_eq hp hx hr, rfl, hother, rfl, ?_⟩
  obtain ⟨c, -, -, rfl⟩ := (Assembler.mem_members_expected _).mp hx
  exact (Assembler.result_expectedMember _ hr).2.2

theorem linked (h : Expands settings registry entity m unit) :
    unit.toData.Linked entity.typeParameters := by
  refine ⟨_, rfl, fun w' hw' => ?_⟩
  obtain ⟨w, hw, rfl⟩ := List.mem_map.mp hw'
  refine ⟨_, rfl, fun x' hx' states hstates => ?_⟩
  obtain ⟨x, hx, rfl⟩ := List.mem_map.mp hx'
  obtain ⟨q, type, targets, hr, rfl⟩ := Member.valueAt?_successor.mp hstates
  obtain ⟨before, v, after, hsplit, -, rfl, hother, hparameters, htype⟩ := h.successor hw hx hr
  refine ⟨before.map Wrapper.toData, v.toData, after.map Wrapper.toData, v.typeName,
    by rw [hsplit, List.map_append, List.map_cons], rfl, fun o ho hstates => ?_,
    rfl, hparameters ▸ rfl, ?_⟩
  · rw [← List.map_append] at ho
    obtain ⟨other, hmem, rfl⟩ := List.mem_map.mp ho
    have hp : other.permutation.states = v.permutation.states :=
      Data.texts_inj (Option.some.inj hstates)
    exact hother other hmem (congrArg Permutation.mk hp)
  · have hreturns : x.toData.valueAt? "returns" = some (.text x.result.type) := rfl
    rw [hreturns, hr, Result.type, htype]

end Expands

/-! ### No reference is open -/

theorem code?_of_generate {settings : Settings} {registry : Registry} {entity : Entity}
    {e : Failure}
    (h : generate settings registry entity = .error e) {code : Code} (hcode : e.code? = some code) :
    code ∈ [.duplicateState, .conflictingAvailability, .invalidRelation, .unknownTarget,
      .ambiguousTransition, .nameCollision] ∨ registry.Raises code := by
  by_cases hnames : (entity.groups.map (·.name)).Nodup
  · exact (h ▸ ends_generate settings registry hnames).code hcode
  · rw [generate, generateBy, expand, GroupMap.ofGroups, dif_neg hnames] at h
    cases h
    cases hcode

/-- **References are closed.** Whenever the wrappers of an entity make a unit, the check for
successors without a wrapper lets it pass. So generation ends with the code for dangling references
exactly if it comes to a condition whose relation fails with that code, and then it is a relation of
the registry that does. In a unit, each transition member leads to the wrapper of its successor,
state by state, and returns its type; and so it is in the data of the unit, where no other wrapper
entry has the states of the successor. -/
theorem references_closed (settings : Settings) (registry : Registry) (entity : Entity) :
    (∀ (m : GroupMap) (wrappers : List Wrapper) (unit : CompilationUnit),
      m.groups = entity.groups → m.validate (some entity.name) = .ok () →
      assembleAll Schedule.inOrder settings.maxWorkers
        (Assembler.ofEntity settings registry entity m) (Permutation.enumerate m.stateLists) =
          .ok wrappers →
      CompilationUnit.make entity wrappers settings.nameSuffix = .ok unit →
      unit.unresolved = [] ∧ checkReferences unit = .ok unit) ∧
    (∀ e, generate settings registry entity = .error e → e.code? = some .danglingReference →
      registry.Raises .danglingReference) ∧
    (∀ m : GroupMap, m.groups = entity.groups →
      ((∃ e, generate settings registry entity = .error e ∧ e.code? = some .danglingReference) ↔
        (Assembler.ofEntity settings registry entity m).PassesOn .danglingReference)) ∧
    ∀ unit, generate settings registry entity = .ok unit →
      (∀ w ∈ unit.wrappers, ∀ x ∈ w.members, ∀ q type targets,
        x.result = .transition q type targets →
        ∃ v ∈ unit.wrappers, unit.successorOf x = .ok v ∧ v.permutation.states = q.states ∧
          x.result.type = genericName v.typeName entity.typeParameters) ∧
      unit.toData.Linked entity.typeParameters := by
  refine ⟨fun m wrappers unit hm hvalid hws hmake => ?_, fun e he hcode => ?_,
    fun m hm => ⟨?_, generateBy_of_passesOn hm Schedule.inOrder⟩, fun unit h => ?_⟩
  · rw [assembleAll_eq_mapM] at hws
    have hcheck := checkReferences_eq_ok hm (GroupMap.validate_eq_ok_iff.mp hvalid) hws hmake
    exact ⟨(checkReferences_eq_ok_iff.mp hcheck).1, hcheck⟩
  · rcases code?_of_generate he hcode with h | h
    · simp at h
    · exact h
  · rintro ⟨e, he, hcode⟩
    have hends : Ends settings registry entity m (.error e) :=
      he ▸ ends_generateBy Schedule.inOrder settings registry hm
    exact (hends.passesOn hcode (by decide)).resolve_right (by simp)
  · obtain ⟨m, he⟩ := generate_eq_ok_iff.mp h
    refine ⟨fun w hw x hx q type targets hr => ?_, he.linked⟩
    obtain ⟨before, v, after, hsplit, hsucc, rfl, -, -, htype⟩ := he.successor hw hx hr
    exact ⟨v, by simp [hsplit], hsucc, rfl, by rw [hr, Result.type, htype]⟩

/-- Pressing the lamp while it is off leads to the wrapper of the lamp that is on. -/
theorem references_closed_lamp :
    (∀ e, generate {} Registry.builtin lamp = .error e → e.code? ≠ some .danglingReference) ∧
      lampUnit.toData.Linked ["T"] ∧
      ∃ v ∈ lampUnit.wrappers, v.permutation.states = ["On", "Low"] ∧ v.typeName = "OnLowState" ∧
        ((lampAssembler.expected ⟨["Off", "Low"]⟩).member "press").map (·.result.type) =
          .ok "OnLowState[T]" := by
  obtain ⟨-, hraises, -, hunit⟩ := references_closed {} Registry.builtin lamp
  obtain ⟨hsuccessor, hlinked⟩ := hunit lampUnit generate_lamp
  refine ⟨fun e he hcode => ?_, hlinked, ?_⟩
  · cases Registry.code_of_raises_builtin (hraises e he hcode)
  · have hw : lampAssembler.expected ⟨["Off", "Low"]⟩ ∈ lampUnit.wrappers :=
      List.mem_map.mpr ⟨_, by decide, rfl⟩
    obtain ⟨v, hv, hsucc, hstates, -⟩ :=
      hsuccessor _ hw _ (List.mem_cons_self ..) _ _ _ rfl
    obtain rfl : lampAssembler.expected ⟨["On", "Low"]⟩ = v := Except.ok.inj hsucc
    exact ⟨_, hv, hstates, rfl, rfl⟩

/-- Generation passes on the code for dangling references if a relation fails with it. -/
theorem dangling_reference_passed_on :
    ∃ e, generate {} (refusingRegistry .danglingReference) stubborn = .error e ∧
      e.code? = some .danglingReference := (generate_stubborn _).2

end Typestate
