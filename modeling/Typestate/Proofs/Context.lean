import Typestate.Proofs.Availability
import Typestate.Proofs.Ending
import Typestate.Proofs.Successor

/-! # What a report says about its place

A report that a relation makes passes through two places on its way out, the resolver and
generation. Both put in names that are missing, and neither changes one that is there. A report that
the resolver makes has all names from the beginning.

* `Supplied`, `Report.Completes`: a value that is put in where there was none, or only an empty one;
  a report that is completed by such values and otherwise left alone.
* `Resolver.Raises`: the failure of the first condition that is tested and has no verdict, as its
  relation makes it. `Resolver.Finds`: what the resolver itself finds wrong, and the states that it
  is about.
* `Resolver.raises_or_finds`: resolution fails for no other reason.
* `Assembler.Reaches`: generation comes to a capability in a permutation; what is wrong there is
  what it ends with (`generateBy_of_reaches`).
* `Assembler.PassesOn`: generation comes to a relation that fails with a report of a code, which
  then is the code that generation ends with.
* `context_completed`: what a report says about its place when it leaves generation. -/

namespace Typestate

/-! ### Completed reports -/

/-- The value is the own one if that is neither missing nor blank, and otherwise the other one. -/
inductive Supplied {α : Type} (blank : α) : (own : Option α) → (other : α) → Option α → Prop where
  | kept {own other : α} : own ≠ blank → Supplied blank (some own) other (some own)
  | missing {other : α} : Supplied blank none other (some other)
  | blank {other : α} : Supplied blank (some blank) other (some other)

/-- **There is one value that is supplied.** -/
theorem Supplied.unique {α : Type} {blank other : α} {own x y : Option α}
    (hx : Supplied blank own other x) (hy : Supplied blank own other y) : x = y := by
  cases hx with
  | kept h =>
    cases hy with
    | kept => rfl
    | blank => exact absurd rfl h
  | missing =>
    cases hy with
    | missing => rfl
  | blank =>
    cases hy with
    | kept h => exact absurd rfl h
    | blank => rfl

/-- The report is another one whose place is completed, and which is the same in all else. -/
structure Report.Completes (left own : Report) (entity capability : String)
    (permutation : List String) : Prop where
  family : left.family = own.family
  code : left.code = own.code
  message : left.message = own.message
  cause : left.cause = own.cause
  recoverable : left.recoverable = own.recoverable
  advice : left.advice = own.advice
  states : left.site.states = own.site.states
  extra : left.site.extra = own.site.extra
  entity : Supplied "" own.site.entity entity left.site.entity
  capability : Supplied "" own.site.capability capability left.site.capability
  permutation : Supplied [] own.site.permutation permutation left.site.permutation

theorem supplied_orName (own : Option String) (other : String) :
    Supplied "" own other (orName own (some other)) := by
  cases own with
  | none => exact .missing
  | some name =>
    by_cases h : name = ""
    · subst h
      exact .blank
    · have hkept : orName (some name) (some other) = some name := if_neg (by simpa using h)
      rw [hkept]
      exact .kept h

theorem supplied_orStates (own : Option (List String)) (other : List String) :
    Supplied [] own other (orStates own other) := by
  match own with
  | none => exact .missing
  | some [] => exact .blank
  | some (s :: rest) => exact .kept (by simp)

/-- **A place is filled in and nothing of it is overwritten.** -/
theorem Report.completes_filled (own : Report) (entity capability : String)
    (permutation : List String) :
    { own with site := own.site.filled (some entity) capability permutation }.Completes own entity
      capability permutation where
  family := rfl
  code := rfl
  message := rfl
  cause := rfl
  recoverable := rfl
  advice := rfl
  states := rfl
  extra := rfl
  entity := supplied_orName own.site.entity entity
  capability := supplied_orName own.site.capability capability
  permutation := supplied_orStates own.site.permutation permutation

/-! ### Where resolution fails -/

namespace Resolver

variable (r : Resolver)

/-- The capability is available and moves between states, and the conditions of its rules have
verdicts. -/
structure Moves (c : Capability) (p : Permutation) : Prop where
  available : r.isAvailable c p = .ok true
  mutation : c.returns = none
  decided : ∀ rule ∈ c.transitions, ∃ b, r.verdict rule.condition p = .ok b

/-- The relation of a condition fails while the capability is resolved. -/
inductive Raises (c : Capability) (p : Permutation) (d : Failure) : Prop where
  | availability {before : List Condition} {condition : Condition} {after : List Condition} :
      c.availableForAll = false → c.availability = before ++ condition :: after →
      (∀ x ∈ before, ∃ b, r.verdict x p = .ok b) → r.verdict condition p = .error d → Raises c p d
  | transition {before : List TransitionRule} {rule : TransitionRule}
      {after : List TransitionRule} :
      r.isAvailable c p = .ok true → c.returns = none → c.transitions = before ++ rule :: after →
      (∀ x ∈ before, ∃ b, r.verdict x.condition p = .ok b) → r.verdict rule.condition p = .error d →
      Raises c p d

/-- What the resolver itself finds wrong with a capability, and the states that it is about: none if
the capability is marked twice, otherwise targets that no group declares, otherwise targets that
compete. -/
inductive Finds (c : Capability) (p : Permutation) : Code → List String → Prop where
  | conflict : c.availableForAll = true → c.availability ≠ [] →
      Finds c p .conflictingAvailability []
  | unknown : r.Moves c p →
      (∃ t ∈ Rules.targets r.groups r.registry c p, t ∉ r.groups.allStates) →
      Finds c p .unknownTarget (Names.distinct
        ((Rules.targets r.groups r.registry c p).filter (· ∉ r.groups.allStates)))
  | ambiguous {states : List String} : r.Moves c p →
      (∀ t ∈ Rules.targets r.groups r.registry c p, t ∈ r.groups.allStates) →
      ¬ r.groups.Agree (Rules.targets r.groups r.registry c p) →
      r.groups.Contested (Names.distinct (Rules.targets r.groups r.registry c p)) states →
      Finds c p .ambiguousTransition states

variable {r} {c : Capability} {p : Permutation}

theorem Raises.resolve_eq {d : Failure} (h : r.Raises c p d) :
    r.resolve c p = .error (d.mapSite fun s => s.filled r.entity c.name p.states) := by
  cases h with
  | availability hall hsplit hbefore hd =>
    exact r.resolve_eq_error_iff.mpr
      (.inl ((isAvailable_eq_error_iff hall).mpr ⟨_, _, _, d, hsplit, hbefore, hd, rfl⟩))
  | @transition before rule after hopen hreturns hsplit hbefore hd =>
    have hholds : r.holds rule.condition c p =
        .error (d.mapSite fun s => s.filled r.entity c.name p.states) :=
      r.holds_eq_error_iff.mpr ⟨d, hd, rfl⟩
    have hheld := r.heldTargets_eq_error_iff.mpr
      ⟨before, rule, after, hsplit, fun x hx => exists_holds_iff_verdict.mpr (hbefore x hx), hholds⟩
    exact r.resolve_eq_error_iff.mpr
      (.inr ⟨hopen, hreturns, Outcome.bind_eq_error.mpr (.inl hheld)⟩)

theorem Finds.resolve_eq (hu : r.groups.allStates.Nodup) {code : Code} {states : List String}
    (h : r.Finds c p code states) :
    ∃ message, r.resolve c p = .error (r.failure code message c p states) := by
  cases h with
  | conflict hall hne =>
    exact ⟨_, r.resolve_eq_error_iff.mpr (.inl (isAvailable_of_both r hall hne))⟩
  | unknown hmoves hundeclared =>
    exact ⟨_, r.resolve_eq_error_iff.mpr (.inr ⟨hmoves.available, hmoves.mutation,
      r.successor_of_unknown hmoves.decided hundeclared⟩)⟩
  | ambiguous hmoves hall hcontested hstates =>
    obtain rfl := hstates.unique (r.contested_byGroup hu (Names.nodup_distinct _))
    exact ⟨_, r.resolve_eq_error_iff.mpr (.inr ⟨hmoves.available, hmoves.mutation,
      r.successor_of_ambiguous hmoves.decided hall hcontested⟩)⟩

theorem Finds.code_mem {code : Code} {states : List String} (h : r.Finds c p code states) :
    code ∈ [.conflictingAvailability, .unknownTarget, .ambiguousTransition] := by
  cases h <;> simp

theorem raises_or_finds_of_isAvailable {e : Failure} (h : r.isAvailable c p = .error e) :
    (∃ d, r.Raises c p d) ∨ ∃ code states, r.Finds c p code states := by
  cases hall : c.availableForAll with
  | true =>
    refine .inr ⟨_, _, .conflict hall fun hnil => ?_⟩
    rw [isAvailable_of_all r hall hnil] at h
    cases h
  | false =>
    obtain ⟨before, condition, after, d, hsplit, hbefore, hd, -⟩ :=
      (isAvailable_eq_error_iff hall).mp h
    exact .inl ⟨d, .availability hall hsplit hbefore hd⟩

/-- **Resolution fails because a relation does, or because of what the resolver finds.** -/
theorem raises_or_finds (hu : r.groups.allStates.Nodup)
    (hp : p.states.length = r.groups.groups.length) {e : Failure} (h : r.resolve c p = .error e) :
    (∃ d, r.Raises c p d) ∨ ∃ code states, r.Finds c p code states := by
  rcases r.resolve_eq_error_iff.mp h with h | ⟨hopen, hreturns, h⟩
  · exact raises_or_finds_of_isAvailable h
  by_cases hd : ∀ rule ∈ c.transitions, ∃ b, r.verdict rule.condition p = .ok b
  · refine .inr ?_
    have hmoves : r.Moves c p := ⟨hopen, hreturns, hd⟩
    rcases (r.successor_eq_error_iff_of_decided hd hp).mp h with
      ⟨hundeclared, -⟩ | ⟨hall, hcontested, -⟩
    · exact ⟨_, _, .unknown hmoves hundeclared⟩
    · exact ⟨_, _,
        .ambiguous hmoves hall hcontested (r.contested_byGroup hu (Names.nodup_distinct _))⟩
  · -- some rule has no verdict, so the targets are not even asked for
    rcases Outcome.bind_eq_error.mp h with h | ⟨held, hheld, -⟩
    · obtain ⟨before, rule, after, hsplit, hbefore, he⟩ := r.heldTargets_eq_error_iff.mp h
      obtain ⟨d, hd, -⟩ := r.holds_eq_error_iff.mp he
      exact .inl ⟨d, .transition hopen hreturns hsplit
        (fun x hx => exists_holds_iff_verdict.mp (hbefore x hx)) hd⟩
    · exact absurd ((heldTargets_eq_ok_iff r).mp hheld).1 hd

end Resolver

/-! ### Where generation ends -/

/-- Generation comes to the capability in the permutation: no state name is repeated, every
capability can be resolved in the permutations before, and so can the capabilities before in this
one. -/
structure Assembler.Reaches (a : Assembler) (p : Permutation) (c : Capability) : Prop where
  unique : a.resolver.groups.allStates.Nodup
  enumerated : ∃ before after,
    Permutation.enumerate a.resolver.groups.stateLists = before ++ p :: after ∧
    ∀ q ∈ before, ∀ d ∈ a.entity.capabilities, ∃ x, a.resolver.resolve d q = .ok x
  declared : ∃ earlier later, a.entity.capabilities = earlier ++ c :: later ∧
    ∀ d ∈ earlier, ∃ x, a.resolver.resolve d p = .ok x

/-- Generation comes to a condition whose relation fails with a report of the code. -/
def Assembler.PassesOn (a : Assembler) (code : Code) : Prop :=
  ∃ p c d, a.Reaches p c ∧ a.resolver.Raises c p d ∧ d.code? = some code

/-- A code that is passed on is one of a relation in the registry, unless it is the one for unknown
relations. -/
theorem Assembler.PassesOn.raises {a : Assembler} {code : Code} (h : a.PassesOn code)
    (hcode : code ≠ .invalidRelation) : a.resolver.registry.Raises code := by
  obtain ⟨p, c, d, -, hraises, hd⟩ := h
  obtain ⟨condition, hverdict⟩ : ∃ condition, a.resolver.verdict condition p = .error d := by
    cases hraises with
    | availability _ _ _ hverdict => exact ⟨_, hverdict⟩
    | transition _ _ _ _ hverdict => exact ⟨_, hverdict⟩
  exact (Registry.code?_of_evaluate hverdict hd).resolve_left hcode

section Generate

variable {settings : Settings} {registry : Registry} {entity : Entity} {m : GroupMap}
  (hm : m.groups = entity.groups)
include hm

/-- **Generation ends with the failure of the capability that it has come to.** -/
theorem generateBy_of_reaches (schedule : Schedule) {p : Permutation} {c : Capability} {e : Failure}
    (h : (Assembler.ofEntity settings registry entity m).Reaches p c)
    (he : (Assembler.ofEntity settings registry entity m).resolver.resolve c p = .error e) :
    generateBy schedule settings registry entity = .error e := by
  obtain ⟨before, after, hperms, hbefore⟩ := h.enumerated
  obtain ⟨earlier, later, hcaps, hearlier⟩ := h.declared
  exact (ends_generateBy schedule settings registry hm).unique
    (.failing h.unique hperms hbefore hcaps hearlier he)

/-- **Generation fails about repeated states, about shared names, or at a capability that it has
come to.** -/
theorem reaches_of_generate {e : Failure} (h : generate settings registry entity = .error e) :
    (∃ p c, (Assembler.ofEntity settings registry entity m).Reaches p c ∧
      (Assembler.ofEntity settings registry entity m).resolver.resolve c p = .error e) ∨
    (¬ m.allStates.Nodup ∧
      e = .report (GroupMap.duplicateReport (some entity.name) m.duplicateStates)) ∨
    ∃ shared, e = .report (CompilationUnit.collisionReport entity shared) := by
  have hends := ends_generateBy Schedule.inOrder settings registry hm
  rw [← generate, h] at hends
  generalize ho : Except.error e = o at hends
  cases hends with
  | unit => cases ho
  | repeated hn =>
    cases ho
    exact .inr (.inl ⟨hn, rfl⟩)
  | failing hu hperms hbefore hcaps hearlier hc =>
    cases ho
    exact .inl ⟨_, _, ⟨hu, ⟨_, _, hperms, hbefore⟩, _, _, hcaps, hearlier⟩, hc⟩
  | collision =>
    cases ho
    exact .inr (.inr ⟨_, rfl⟩)

/-- The report of a relation that generation comes to is what it ends with. -/
theorem generateBy_of_passesOn (schedule : Schedule) {code : Code}
    (h : (Assembler.ofEntity settings registry entity m).PassesOn code) :
    ∃ e, generateBy schedule settings registry entity = .error e ∧ e.code? = some code := by
  obtain ⟨p, c, d, hreaches, hraises, hcode⟩ := h
  exact ⟨_, generateBy_of_reaches hm schedule hreaches hraises.resolve_eq,
    (Failure.code?_mapSite _ d).trans hcode⟩

end Generate

/-- **A code that neither the resolver nor the check of the groups uses comes from a relation**, or
from two permutations that share a name. -/
theorem Ends.passesOn {settings : Settings} {registry : Registry} {entity : Entity} {m : GroupMap}
    {e : Failure} (h : Ends settings registry entity m (.error e)) {code : Code}
    (hcode : e.code? = some code)
    (hother : code ∉ [.duplicateState, .conflictingAvailability, .unknownTarget,
      .ambiguousTransition]) :
    (Assembler.ofEntity settings registry entity m).PassesOn code ∨ code = .nameCollision ∧
      ∃ p ∈ Permutation.enumerate m.stateLists, ∃ q ∈ Permutation.enumerate m.stateLists,
        p ≠ q ∧ p.typeName settings.nameSuffix = q.typeName settings.nameSuffix := by
  cases h with
  | repeated =>
    obtain rfl := Option.some.inj hcode
    exact absurd (List.mem_cons_self ..) hother
  | collision _ _ hp hq hne hname =>
    obtain rfl := Option.some.inj hcode
    exact .inr ⟨rfl, _, hp, _, hq, hne, hname⟩
  | @failing before after p earlier later c _ hu hperms hbefore hcaps hearlier hc =>
    have hp : p ∈ Permutation.enumerate m.stateLists :=
      hperms ▸ List.mem_append_right before (List.mem_cons_self ..)
    rcases Resolver.raises_or_finds hu (GroupMap.mem_enumerate.mp hp).2.size hc with
      ⟨d, hraises⟩ | ⟨found, states, hfinds⟩
    · refine .inl ⟨p, c, d, ⟨hu, ⟨_, _, hperms, hbefore⟩, _, _, hcaps, hearlier⟩, hraises, ?_⟩
      obtain rfl := Except.error.inj (hraises.resolve_eq.symm.trans hc)
      rwa [Failure.code?_mapSite] at hcode
    · obtain ⟨message, hresolve⟩ := hfinds.resolve_eq hu
      obtain rfl := Except.error.inj (hresolve.symm.trans hc)
      obtain rfl := Option.some.inj hcode
      exact absurd (List.mem_cons_of_mem _ hfinds.code_mem) hother

/-- **A report is completed on its way out and never overwritten.** If generation comes to a
capability in a permutation and the relation of one of its conditions reports an inconsistency, then
this report leaves generation with the name of the entity, the name of the capability and the
permutation put in where the relation left them out or left them empty, and with all else as it was.
If it is the resolver that finds something wrong, then the report names the entity, the capability
and the permutation, and the states that are wrong. A report that comes about in neither way is the
one about repeated states or about shared names. -/
theorem context_completed (settings : Settings) (registry : Registry) {entity : Entity}
    {m : GroupMap} (hm : m.groups = entity.groups) :
    let a := Assembler.ofEntity settings registry entity m
    (∀ p c own, a.Reaches p c → a.resolver.Raises c p (.report own) → own.family = .inconsistency →
      ∃ left, generate settings registry entity = .error (.report left) ∧
        left.Completes own entity.name c.name p.states) ∧
    (∀ p c code states, a.Reaches p c → a.resolver.Finds c p code states →
      ∃ left, generate settings registry entity = .error (.report left) ∧ left.code = code ∧
        left.site = { entity := some entity.name, capability := some c.name,
                      permutation := some p.states, states := states, extra := [] }) ∧
    ∀ e, generate settings registry entity = .error e →
      (∃ p c, a.Reaches p c ∧
        ((∃ d, a.resolver.Raises c p d) ∨ ∃ code states, a.resolver.Finds c p code states)) ∨
      (¬ m.allStates.Nodup ∧
        e = .report (GroupMap.duplicateReport (some entity.name) m.duplicateStates)) ∨
      ∃ shared, e = .report (CompilationUnit.collisionReport entity shared) := by
  intro a
  refine ⟨fun p c own hreaches hraises hfamily => ?_, fun p c code states hreaches hfinds => ?_,
    fun e he => ?_⟩
  · have hfilled :
        Failure.mapSite (fun s => s.filled a.resolver.entity c.name p.states) (.report own) =
          .report { own with site := own.site.filled (some entity.name) c.name p.states } :=
      if_pos hfamily
    exact ⟨_, generateBy_of_reaches hm Schedule.inOrder hreaches (hfilled ▸ hraises.resolve_eq),
      own.completes_filled entity.name c.name p.states⟩
  · obtain ⟨message, hresolve⟩ := hfinds.resolve_eq hreaches.unique
    exact ⟨_, generateBy_of_reaches hm Schedule.inOrder hreaches hresolve, rfl, rfl⟩
  · refine (reaches_of_generate hm he).imp_left fun ⟨p, c, hreaches, hresolve⟩ =>
      ⟨p, c, hreaches, ?_⟩
    obtain ⟨before, after, hperms, -⟩ := hreaches.enumerated
    have hmem : p ∈ Permutation.enumerate a.resolver.groups.stateLists :=
      hperms ▸ List.mem_append_right before (List.mem_cons_self ..)
    exact Resolver.raises_or_finds hreaches.unique (GroupMap.mem_enumerate.mp hmem).2.size hresolve

/-- A lamp that can be dimmed at night, and lifted under fussy conditions. -/
def fussyDimmer : Entity where
  name := "Dimmer"
  groups := dimmer.groups
  capabilities :=
    [{ lifting [Condition.of ["Night"] (.builtin .or)] with name := "dim" },
     lifting [Condition.of ["On"] (.builtin .or), Condition.of ["Low"] (.builtin .xor)]]
  typeParameters := []
  module := none

/-- The capability of the broken lamp that leads nowhere as soon as it is on. -/
def brokenRaise : Capability where
  name := "raise"
  returns := none
  parameters := [⟨"by", "T"⟩]
  typeParameters := []
  availableForAll := false
  availability := [Condition.of ["Low", "On"] (.builtin .and)]
  transitions := [⟨"Nowhere", Condition.of ["On"] (.builtin .and)⟩]

/-- The fussy report keeps its own entity, and gets the capability that it left empty and the
permutation that it left out. The report about the broken lamp names all of them. -/
theorem context_completed_dimmer :
    (∃ left, generate {} fussyRegistry fussyDimmer = .error (.report left) ∧ left.code = .unknown ∧
      left.message = "Not in the mood" ∧ left.site.states = ["Low"] ∧
      left.site.entity = some "Workshop" ∧ left.site.capability = some "lift" ∧
      left.site.permutation = some ["Off", "Mid", "Day"]) ∧
    ∃ left, generate {} Registry.builtin brokenLamp = .error (.report left) ∧
      left.code = .unknownTarget ∧
      left.site = { entity := some "Lamp", capability := some "raise",
                    permutation := some ["On", "Low"], states := ["Nowhere"], extra := [] } := by
  refine ⟨?_, ?_⟩
  · have hreaches : (Assembler.ofEntity {} fussyRegistry fussyDimmer dimmer).Reaches
        ⟨["Off", "Mid", "Day"]⟩
        (lifting [Condition.of ["On"] (.builtin .or), Condition.of ["Low"] (.builtin .xor)]) := by
      refine ⟨by decide, ⟨[⟨["Off", "Low", "Day"]⟩, ⟨["Off", "Low", "Night"]⟩], _, rfl, ?_⟩,
        [{ lifting [Condition.of ["Night"] (.builtin .or)] with name := "dim" }], [], rfl, ?_⟩
      · simp only [fussyDimmer, Assembler.ofEntity, List.forall_mem_cons]
        exact ⟨⟨⟨_, rfl⟩, ⟨_, rfl⟩, nofun⟩, ⟨⟨_, rfl⟩, ⟨_, rfl⟩, nofun⟩, nofun⟩
      · exact List.forall_mem_singleton.mpr ⟨_, rfl⟩
    have hraises : (Assembler.ofEntity {} fussyRegistry fussyDimmer dimmer).resolver.Raises
        (lifting [Condition.of ["On"] (.builtin .or), Condition.of ["Low"] (.builtin .xor)])
        ⟨["Off", "Mid", "Day"]⟩ _ :=
      .availability rfl (show _ = [Condition.of ["On"] (.builtin .or)] ++ _ :: [] from rfl)
        (List.forall_mem_singleton.mpr ⟨_, rfl⟩) rfl
    obtain ⟨left, hleft, h⟩ := (context_completed {} fussyRegistry rfl).1 _ _ _ hreaches hraises rfl
    exact ⟨left, hleft, h.code, h.message, h.states, h.entity.unique (.kept (by decide)),
      h.capability.unique .blank, h.permutation.unique .missing⟩
  · have hreaches : (Assembler.ofEntity {} Registry.builtin brokenLamp lampGroups).Reaches
        ⟨["On", "Low"]⟩ brokenRaise := by
      refine ⟨by decide, ⟨[⟨["Off", "Low"]⟩, ⟨["Off", "High"]⟩], _, rfl, ?_⟩,
        brokenLamp.capabilities.take 1, brokenLamp.capabilities.drop 2, rfl, ?_⟩
      · simp only [brokenLamp, lamp, Assembler.ofEntity, List.map_cons, List.map_nil,
          List.forall_mem_cons]
        exact ⟨⟨⟨_, rfl⟩, ⟨_, rfl⟩, ⟨_, rfl⟩, nofun⟩, ⟨⟨_, rfl⟩, ⟨_, rfl⟩, ⟨_, rfl⟩, nofun⟩, nofun⟩
      · exact List.forall_mem_singleton.mpr ⟨_, rfl⟩
    have hmoves : (Assembler.ofEntity {} Registry.builtin brokenLamp lampGroups).resolver.Moves
        brokenRaise ⟨["On", "Low"]⟩ := ⟨rfl, rfl, List.forall_mem_singleton.mpr ⟨_, rfl⟩⟩
    exact (context_completed {} Registry.builtin rfl).2.1 _ _ _ _ hreaches
      (.unknown hmoves ⟨"Nowhere", by decide, by decide⟩)

/-- A relation that reports every condition with the code. -/
def refusing (code : Code) : Relation where
  name := "Refusing"
  holds _ _ wanted := .error (.report (Report.inconsistent code "Never" { states := wanted }))

/-- The built-in relations and a refusing one. -/
def refusingRegistry (code : Code) : Registry :=
  ⟨Registry.builtin.entries ++ [("never", refusing code)]⟩

/-- A lamp that can be lifted if the refusing relation lets it. -/
def stubborn : Entity where
  name := "Lamp"
  groups := [⟨"Power", ["Off", "On"]⟩]
  capabilities := [lifting [Condition.of ["On"] (.ofText "never")]]
  typeParameters := []
  module := none

/-- **Whatever the code, a relation can make generation end with it**, once it is registered. -/
theorem generate_stubborn (code : Code) :
    Registry.builtin.register "never" (.relation (refusing code)) false =
        .ok (refusingRegistry code, refusing code) ∧
      ∃ e, generate {} (refusingRegistry code) stubborn = .error e ∧ e.code? = some code :=
  ⟨rfl, _, rfl, rfl⟩

end Typestate
