import Typestate.Proofs.Criterion

/-! # One capability more

A capability is resolved by its own conditions and rules. One that is put into the list of an
entity, at any place, leaves the members of the others as they are, and if it makes generation fail,
then the report is about itself.

* `Entity.insert`: the entity with one more capability.
* `Assembler.contributed`: the members that capabilities contribute in a permutation; those of two
  lists stand one after another (`contributed_append`).
* `Expands.of_insert`: the unit without the capability; `Ends.of_insert`: the fault with it.
* `insert_does_not_interfere`: both for generation. -/

namespace Typestate

open Rules

/-! ### The list of capabilities -/

/-- The entity with one more capability, in front of the one at the position, or behind all
others. -/
def Entity.insert (entity : Entity) (position : Nat) (c : Capability) : Entity :=
  { entity with
    capabilities := entity.capabilities.take position ++ c :: entity.capabilities.drop position }

theorem Entity.mem_capabilities_insert {entity : Entity} {position : Nat} {c d : Capability} :
    d ∈ (entity.insert position c).capabilities ↔ d = c ∨ d ∈ entity.capabilities := by
  conv_rhs => rw [← List.take_append_drop position entity.capabilities]
  simp only [insert, List.mem_append, List.mem_cons]
  tauto

/-! ### Contributed members -/

namespace Assembler

variable (a : Assembler)

/-- The members that the capabilities contribute in a permutation. -/
def contributed (capabilities : List Capability) (p : Permutation) : List Member :=
  (exposed a.resolver.groups a.resolver.registry capabilities p).map fun c => a.expectedMember c p

/-- **Members stand in the order of the capabilities that contribute them.** -/
theorem contributed_append (cs ds : List Capability) (p : Permutation) :
    a.contributed (cs ++ ds) p = a.contributed cs p ++ a.contributed ds p := by
  rw [contributed, exposed, List.filter_append, List.map_append]
  rfl

/-- **An available capability contributes one member**; one that is not contributes none. -/
theorem contributed_cons (c : Capability) (cs : List Capability) (p : Permutation) :
    a.contributed (c :: cs) p =
      if available a.resolver.groups a.resolver.registry c p then
        a.expectedMember c p :: a.contributed cs p
      else a.contributed cs p := by
  unfold contributed exposed
  rw [List.filter_cons]
  split <;> rfl

end Assembler

/-- A wrapper loses what a capability contributes, which stands behind the members of the
capabilities `earlier`: its member where it is available, and nothing elsewhere. -/
inductive Wrapper.Loses (a : Assembler) (earlier : List Capability) (c : Capability) :
    Wrapper → Wrapper → Prop where
  | nothing {w : Wrapper} :
      available a.resolver.groups a.resolver.registry c w.permutation = false →
        Loses a earlier c w w
  | member {w : Wrapper} {later : List Member} :
      available a.resolver.groups a.resolver.registry c w.permutation = true →
      w.members = a.contributed earlier w.permutation ++ a.expectedMember c w.permutation :: later →
      Loses a earlier c w { w with members := a.contributed earlier w.permutation ++ later }

namespace Assembler

variable (a : Assembler)

/-- **The wrapper of an entity with one more capability loses what it contributes.** -/
theorem loses_wrapper (earlier later : List Capability) (c : Capability) (p : Permutation) :
    Wrapper.Loses a earlier c (a.wrapper p (a.contributed (earlier ++ c :: later) p))
      (a.wrapper p (a.contributed (earlier ++ later) p)) := by
  rw [contributed_append, contributed_append, contributed_cons]
  cases h : available a.resolver.groups a.resolver.registry c p with
  | false => exact .nothing h
  | true => exact .member h rfl

end Assembler

/-! ### Generation with and without the capability -/

section Insert

variable {settings : Settings} {registry : Registry} {entity : Entity} {m : GroupMap}
  {position : Nat} {c : Capability}

/-- **The unit without a capability**: each wrapper loses what the capability contributes. -/
theorem Expands.of_insert {unit' : CompilationUnit}
    (h : Expands settings registry (entity.insert position c) m unit') :
    ∃ unit, Expands settings registry entity m unit ∧
      List.Forall₂ (Wrapper.Loses (Assembler.ofEntity settings registry entity m)
        (entity.capabilities.take position) c) unit'.wrappers unit.wrappers := by
  obtain ⟨hm, hu, hr, hnaming⟩ := exists_expands_iff.mp ⟨unit', h⟩
  have hr' : ∀ p ∈ Permutation.enumerate m.stateLists, ∀ d ∈ entity.capabilities,
      Resolvable m registry d p := fun p hp d hd =>
    hr p hp d (Entity.mem_capabilities_insert.mpr (.inr hd))
  obtain ⟨unit, he⟩ : ∃ unit, Expands settings registry entity m unit :=
    exists_expands_iff.mpr ⟨hm, hu, hr', hnaming⟩
  refine ⟨unit, he, ?_⟩
  rw [h.wrappers_eq, he.wrappers_eq, List.forall₂_map_left_iff, List.forall₂_map_right_iff]
  refine List.forall₂_same.mpr fun p _ => ?_
  have hloses := (Assembler.ofEntity settings registry entity m).loses_wrapper
    (entity.capabilities.take position) (entity.capabilities.drop position) c p
  rw [List.take_append_drop] at hloses
  exact hloses

/-- **The fault with one more capability.** If there is none without it, then it is the one that the
capability has in the first permutation in which it fails. -/
theorem Ends.of_insert {unit : CompilationUnit} (he : Expands settings registry entity m unit)
    {e : Failure} (h : Ends settings registry (entity.insert position c) m (.error e)) :
    ∃ before p after, Permutation.enumerate m.stateLists = before ++ p :: after ∧
      (∀ q ∈ before, ∃ x,
        (Assembler.ofEntity settings registry entity m).resolver.resolve c q = .ok x) ∧
      (Assembler.ofEntity settings registry entity m).resolver.resolve c p = .error e := by
  generalize ho : Except.error e = o at h
  cases h with
  | unit => cases ho
  | repeated hn => exact absurd he.unique hn
  | @failing before after p earlier later d e' _ hperms hbefore hcaps _ hd =>
    cases ho
    have hp : p ∈ Permutation.enumerate m.stateLists := by simp [hperms]
    have hmem : d ∈ (entity.insert position c).capabilities := by simp [hcaps]
    have hc : c ∈ (entity.insert position c).capabilities :=
      Entity.mem_capabilities_insert.mpr (.inl rfl)
    rcases Entity.mem_capabilities_insert.mp hmem with rfl | hold
    · exact ⟨before, p, after, hperms, fun q hq => hbefore q hq d hc, hd⟩
    · -- the other capabilities can be resolved everywhere, since they have a unit
      have hok := ((Assembler.ofEntity settings registry entity m).resolver.resolve_eq_ok_iff
        (GroupMap.mem_enumerate.mp hp).2.size).mpr ⟨he.resolvable p hp d hold, rfl⟩
      cases hok.symm.trans hd
  | collision _ _ hp hq hne hname =>
    have hnames := unit.distinctNames
    rw [he.wrappers_eq, List.map_map] at hnames
    exact absurd (List.inj_on_of_nodup_map hnames hp hq hname) hne

end Insert

/-- **Capabilities do not interfere.** If an entity with one more capability has a unit, then so has
the entity without it, and its wrappers are the same ones in the same order, each without what the
capability contributes. If only the entity without it has a unit, then under the built-in relations
the report names the capability, and the first permutation in which it cannot be resolved. -/
theorem insert_does_not_interfere (settings : Settings) (registry : Registry) (entity : Entity)
    (position : Nat) (c : Capability) :
    (∀ unit', generate settings registry (entity.insert position c) = .ok unit' →
      ∃ m : GroupMap, m.groups = entity.groups ∧
        ∃ unit, generate settings registry entity = .ok unit ∧
          List.Forall₂ (Wrapper.Loses (Assembler.ofEntity settings registry entity m)
            (entity.capabilities.take position) c) unit'.wrappers unit.wrappers) ∧
    ∀ unit e, generate settings Registry.builtin entity = .ok unit →
      generate settings Registry.builtin (entity.insert position c) = .error e →
      ∃ m : GroupMap, m.groups = entity.groups ∧
        ∃ r before p after, e = .report r ∧ r.site.capability = some c.name ∧
          r.site.permutation = some p.states ∧
          Permutation.enumerate m.stateLists = before ++ p :: after ∧
          (∀ q ∈ before, ∃ x,
            (Assembler.ofEntity settings Registry.builtin entity m).resolver.resolve
            c q = .ok x) ∧
          (Assembler.ofEntity settings Registry.builtin entity m).resolver.resolve c p =
            .error e := by
  refine ⟨fun unit' h => ?_, fun unit e h herror => ?_⟩
  · obtain ⟨m, he⟩ := generate_eq_ok_iff.mp h
    obtain ⟨unit, hunit, hloses⟩ := he.of_insert
    exact ⟨m, hunit.groups, unit, generate_eq_ok_iff.mpr ⟨m, hunit⟩, hloses⟩
  · obtain ⟨m, he⟩ := generate_eq_ok_iff.mp h
    have hgroups : m.groups = (entity.insert position c).groups := he.groups
    have hends := ends_generateBy Schedule.inOrder settings Registry.builtin hgroups
    rw [← generate, herror] at hends
    obtain ⟨before, p, after, hperms, hbefore, hp⟩ := hends.of_insert he
    obtain ⟨r, rfl, -, hcapability, hpermutation⟩ :=
      (Resolver.fails_of_enumerated _ hperms hp).site rfl
    exact ⟨m, he.groups, r, before, p, after, rfl, hcapability, hpermutation, hperms, hbefore, hp⟩

/-- The lamp without a way to be raised. -/
def fixedLamp : Entity := { lamp with capabilities := lamp.capabilities.eraseIdx 1 }

/-- Raising the lamp to a level. -/
def raising (level : String) : Capability where
  name := "raise"
  returns := none
  parameters := [⟨"by", "T"⟩]
  typeParameters := []
  availableForAll := false
  availability := [Condition.of ["Low", "On"] (.builtin .and)]
  transitions := [TransitionRule.always level]

/-- A lamp that can be raised is a lamp that cannot, apart from its second member; one that is
raised to a level that it does not have is reported for that. -/
theorem insert_does_not_interfere_lamp :
    generate {} Registry.builtin (fixedLamp.insert 1 (raising "High")) = .ok lampUnit ∧
      (∃ unit, generate {} Registry.builtin fixedLamp = .ok unit ∧
        lampUnit.wrappers.map Wrapper.memberNames =
          [["press"], ["press"], ["press", "raise", "level"], ["press", "level"]] ∧
        unit.wrappers.map Wrapper.memberNames =
          [["press"], ["press"], ["press", "level"], ["press", "level"]]) ∧
      ∃ r, generate {} Registry.builtin (fixedLamp.insert 1 (raising "Full")) = .error (.report r) ∧
        r.code = .unknownTarget ∧ r.site.capability = some "raise" ∧
        r.site.permutation = some ["On", "Low"] := by
  have hlamp :
      generate {} Registry.builtin (fixedLamp.insert 1 (raising "High")) = .ok lampUnit := rfl
  obtain ⟨m, -, unit, hunit, -⟩ :=
    (insert_does_not_interfere {} Registry.builtin fixedLamp 1 (raising "High")).1 lampUnit hlamp
  obtain ⟨_, hfull⟩ : ∃ r, generate {} Registry.builtin (fixedLamp.insert 1 (raising "Full")) =
      .error (.report r) ∧ r.code = .unknownTarget ∧ r.site.permutation = some ["On", "Low"] :=
    ⟨_, rfl, rfl, rfl⟩
  obtain ⟨-, -, r, -, -, -, he, hcapability, -⟩ :=
    (insert_does_not_interfere {} Registry.builtin fixedLamp 1 (raising "Full")).2 unit _ hunit
      hfull.1
  cases he
  refine ⟨hlamp, ⟨unit, hunit, rfl, ?_⟩, _, hfull.1, hfull.2.1, hcapability, hfull.2.2⟩
  cases hunit
  rfl

end Typestate
