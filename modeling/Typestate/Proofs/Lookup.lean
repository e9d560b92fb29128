import Typestate.Proofs.References

/-! # Wrappers by permutation

A unit looks up the wrapper of a permutation by its name, which is the text of the states one after
another, and a suffix. Different splits of one text have one name, so the look-up answers for all of
them alike.

* `CompilationUnit.get_eq_ok_iff`, `CompilationUnit.get_eq_error_iff`: the look-up by name.
* `wrapperFor_iff_text`: a permutation is answered with the wrapper whose states make up the same
  text. On the permutations with one state of each group this is the wrapper of the permutation.
* `wrapperFor_joined_states`: outside of these a permutation of no wrapper can be answered, too. -/

namespace Typestate

namespace CompilationUnit

variable {u : CompilationUnit} {typeName : String}

/-- **A name is answered with the wrapper that has it.** -/
theorem get_eq_ok_iff {w : Wrapper} :
    u.get typeName = .ok w ↔ w ∈ u.wrappers ∧ w.typeName = typeName := by
  constructor
  · intro h
    unfold get at h
    split at h
    · next v hv =>
      cases h
      exact ⟨List.mem_of_find?_eq_some hv, by simpa using List.find?_some hv⟩
    · cases h
  · rintro ⟨hw, rfl⟩
    exact get_eq_ok hw

/-- **A name is not answered exactly if no wrapper has it.** -/
theorem get_eq_error_iff :
    u.get typeName = .error (.missing (.wrapper typeName)) ↔
      ∀ w ∈ u.wrappers, w.typeName ≠ typeName := by
  constructor
  · intro h w hw hname
    rw [get_eq_ok_iff.mpr ⟨hw, hname⟩] at h
    cases h
  · intro h
    have hnone : u.find? typeName = none := by
      rw [find?, List.find?_eq_none]
      simpa using h
    rw [get, hnone]

end CompilationUnit

namespace Expands

variable {settings : Settings} {registry : Registry} {entity : Entity} {m : GroupMap}
  {unit : CompilationUnit}

/-- The name of a wrapper is that of its permutation. -/
theorem typeName_eq (h : Expands settings registry entity m unit) {w : Wrapper}
    (hw : w ∈ unit.wrappers) : w.typeName = w.permutation.typeName unit.suffix := by
  obtain ⟨p, -, rfl⟩ := h.mem_wrappers.mp hw
  rw [h.suffix_eq]
  rfl

/-- **A wrapper has the name of a permutation exactly if their states make up one text.** -/
theorem typeName_eq_iff (h : Expands settings registry entity m unit) {w : Wrapper}
    (hw : w ∈ unit.wrappers) {q : Permutation} :
    w.typeName = q.typeName unit.suffix ↔
      Permutation.concat w.permutation.states = Permutation.concat q.states := by
  rw [h.typeName_eq hw]
  exact String.append_left_inj unit.suffix

theorem wrapperFor_eq_ok_iff (h : Expands settings registry entity m unit) {q : Permutation}
    {w : Wrapper} :
    unit.wrapperFor q = .ok w ↔
      w ∈ unit.wrappers ∧
        Permutation.concat w.permutation.states = Permutation.concat q.states := by
  rw [CompilationUnit.wrapperFor, CompilationUnit.get_eq_ok_iff]
  exact and_congr_right fun hw => h.typeName_eq_iff hw

/-- The wrapper of a permutation is the one that is found for it. -/
theorem wrapperFor_permutation (h : Expands settings registry entity m unit) {w : Wrapper}
    (hw : w ∈ unit.wrappers) : unit.wrapperFor w.permutation = .ok w :=
  h.wrapperFor_eq_ok_iff.mpr ⟨hw, rfl⟩

end Expands

/-- **Look-up by permutation.** Whatever its number of entries and its texts, a permutation is
answered with a wrapper exactly if the states of the wrapper make up the same text, and there is one
such wrapper at most. It has that permutation exactly if any wrapper has, as is the case for every
permutation with one state of each group. Where no wrapper has the text, the look-up fails with the
name it looked for. -/
theorem wrapperFor_iff_text {settings : Settings} {registry : Registry} {entity : Entity}
    {unit : CompilationUnit} (h : generate settings registry entity = .ok unit) (q : Permutation) :
    (∀ w, unit.wrapperFor q = .ok w ↔ w ∈ unit.wrappers ∧
      Permutation.concat w.permutation.states = Permutation.concat q.states) ∧
    (∀ w, unit.wrapperFor q = .ok w →
      (w.permutation = q ↔ ∃ v ∈ unit.wrappers, v.permutation = q)) ∧
    (∀ m : GroupMap, m.groups = entity.groups → m.groups ≠ [] → m.Fits q →
      ∃ w ∈ unit.wrappers, w.permutation = q ∧ unit.wrapperFor q = .ok w) ∧
    ((∀ w ∈ unit.wrappers,
        Permutation.concat w.permutation.states ≠ Permutation.concat q.states) ↔
      unit.wrapperFor q = .error (.missing (.wrapper (q.typeName unit.suffix)))) := by
  obtain ⟨m, he⟩ := generate_eq_ok_iff.mp h
  refine ⟨fun w => he.wrapperFor_eq_ok_iff, fun w hw => ⟨fun hp => ?_, ?_⟩, ?_, ?_⟩
  · exact ⟨w, (he.wrapperFor_eq_ok_iff.mp hw).1, hp⟩
  · rintro ⟨v, hv, rfl⟩
    obtain rfl : v = w := Except.ok.inj ((he.wrapperFor_permutation hv).symm.trans hw)
    rfl
  · intro m' hm' hne hfits
    obtain rfl : m' = m := Except.ok.inj
      ((GroupMap.ofGroups_eq_ok_iff.mpr hm').symm.trans (GroupMap.ofGroups_eq_ok_iff.mpr he.groups))
    have hq := GroupMap.mem_enumerate.mpr ⟨hne, hfits⟩
    exact ⟨_, he.mem_wrappers.mpr ⟨q, hq, rfl⟩, rfl, he.wrapperFor_eq hq⟩
  · rw [CompilationUnit.wrapperFor, CompilationUnit.get_eq_error_iff]
    exact forall₂_congr fun w hw => not_congr (he.typeName_eq_iff hw).symm

/-- The lamp that is on and high has its wrapper, and no wrapper is found for an empty
permutation. -/
theorem wrapperFor_iff_text_lamp :
    generate {} Registry.builtin lamp = .ok lampUnit ∧
      (∃ w ∈ lampUnit.wrappers, w.permutation = ⟨["On", "High"]⟩ ∧
        lampUnit.wrapperFor ⟨["On", "High"]⟩ = .ok w) ∧
      lampUnit.wrapperFor ⟨[]⟩ = .error (.missing (.wrapper "State")) := by
  obtain ⟨-, -, hfits, -⟩ := wrapperFor_iff_text generate_lamp ⟨["On", "High"]⟩
  obtain ⟨-, -, -, hnone⟩ := wrapperFor_iff_text generate_lamp ⟨[]⟩
  refine ⟨generate_lamp, hfits lampGroups rfl (by decide) ?_, hnone.mp (by decide)⟩
  exact (GroupMap.mem_enumerate.mp (by decide)).2

/-- A permutation of no wrapper of the lamp, which has the text of one: the wrapper is found. -/
theorem wrapperFor_joined_states :
    generate {} Registry.builtin lamp = .ok lampUnit ∧
      (∀ w ∈ lampUnit.wrappers, w.permutation ≠ ⟨["OffLow"]⟩) ∧
      ∃ w ∈ lampUnit.wrappers, lampUnit.wrapperFor ⟨["OffLow"]⟩ = .ok w ∧
        w.permutation = ⟨["Off", "Low"]⟩ := by
  refine ⟨generate_lamp, by decide, lampAssembler.expected ⟨["Off", "Low"]⟩, ?_, rfl, rfl⟩
  exact List.mem_map.mpr ⟨_, by decide, rfl⟩

end Typestate
