import Typestate.Proofs.Availability
import Typestate.Proofs.Mirror
import Typestate.Proofs.Spelling

/-! # Relations in another spelling

A condition names its relation by a text, in any letter case, and one of the three built-in
relations also by its kind. Twice such a name is brought into a normal form: a condition takes a
text that spells a kind for the kind, and a registry looks every text up in lower case. The two
agree on all texts, so what is generated for an entity does not depend on the spelling of its
relations, whatever the registry holds.

* `RelationRef.Respelled`: two ways to name a relation; `RelationRef.respelled_iff`: these are the
  names that are looked up under one identifier.
* `Condition.Respelled`, `Capability.Respelled`, `Entity.Respelled`: the same but for such names.
* `Resolver.resolve_respelled`, `Assembler.assemble_respelled`: the same is resolved and assembled.
* `respelling_irrelevant`: the same is generated. -/

namespace Typestate

open Outcome (Corresponds)

/-! ### Names of relations -/

namespace RelationRef

/-- Two ways to name a relation: by texts that differ in letter case only, or by a kind and by a
text that spells it. -/
inductive Respelled : RelationRef → RelationRef → Prop where
  | text {text text' : String} : Text.lower text = Text.lower text' →
      Respelled (ofText text) (ofText text')
  | asText {kind : RelationKind} {text : String} : Text.lower text = kind.key →
      Respelled (.builtin kind) (ofText text)
  | asKind {kind : RelationKind} {text : String} : Text.lower text = kind.key →
      Respelled (ofText text) (.builtin kind)

theorem ofText_identifier (r : RelationRef) : ofText r.identifier = r := by
  cases r with
  | builtin kind => exact ofText_of_lower (by cases kind <;> rfl)
  | named text other => exact ofText_of_other other

/-- **The two ways to name a relation come to one look-up**, and nothing else does. -/
theorem respelled_iff {r r' : RelationRef} : r.Respelled r' ↔ r.key = r'.key := by
  constructor
  · intro h
    cases h with
    | text h => rw [key_ofText, key_ofText, h]
    | asText h => rw [key_ofText, h]; rfl
    | asKind h => rw [key_ofText, h]; rfl
  · intro h
    rw [key_eq_lower, key_eq_lower] at h
    rw [← ofText_identifier r, ← ofText_identifier r']
    exact .text h

end RelationRef

/-- The conditions are on the same states, under relations that are named in two ways. -/
structure Condition.Respelled (c c' : Condition) : Prop where
  states : c'.states = c.states
  relation : c.relation.Respelled c'.relation

/-- The rules lead to one target, under conditions that are the same but for spelling. -/
structure TransitionRule.Respelled (rule rule' : TransitionRule) : Prop where
  target : rule'.target = rule.target
  condition : rule.condition.Respelled rule'.condition

/-- The capabilities are the same but for the spelling of relations. -/
inductive Capability.Respelled : Capability → Capability → Prop where
  | intro (c : Capability) {conditions : List Condition} {rules : List TransitionRule} :
      List.Forall₂ Condition.Respelled c.availability conditions →
      List.Forall₂ TransitionRule.Respelled c.transitions rules →
      Respelled c { c with availability := conditions, transitions := rules }

/-- The entities are the same but for the spelling of relations. -/
inductive Entity.Respelled : Entity → Entity → Prop where
  | intro (e : Entity) {capabilities : List Capability} :
      List.Forall₂ Capability.Respelled e.capabilities capabilities →
      Respelled e { e with capabilities }

/-! ### Resolution -/

/-- What is seen in another spelling. -/
def Mirror.respelled : Mirror where
  state := id
  permutation := id
  condition := Condition.Respelled

theorem Capability.Respelled.image {c c' : Capability} (h : c.Respelled c') :
    Mirror.respelled.Image c c' := by
  obtain ⟨hconditions, hrules⟩ := h
  exact ⟨rfl, rfl, rfl, hconditions, hrules.imp fun _ _ h => ⟨h.target, h.condition⟩⟩

namespace Resolver

variable (r : Resolver) {c c' : Capability} {p : Permutation}

theorem holds_respelled (hc : c'.name = c.name) {condition condition' : Condition}
    (h : condition.Respelled condition') : r.holds condition' c' p = r.holds condition c p := by
  unfold holds
  rw [hc, h.states, ← RelationRef.respelled_iff.mp h.relation]

/-- **In another spelling a resolver looks the same**, down to the failures. -/
theorem mirrors_respelled : Mirrors Mirror.respelled Eq r r where
  suffix := rfl
  injective := Function.injective_id
  group _ := rfl
  size hp := hp
  put _ _ := rfl
  holds hc _ h := by
    rw [r.holds_respelled hc h]
    exact .refl _
  conflict hc := by
    unfold conflict failure
    rw [hc]
    rfl
  unknown {c c' p states} hc := by
    have hstates : states.map Mirror.respelled.state = states := List.map_id states
    unfold unknownTargets failure
    rw [hc, hstates]
    rfl
  ambiguous {c c' p entries} hc := by
    have hentry : Mirror.respelled.entry = id := by
      funext e
      exact congrArg (Prod.mk e.1) (List.map_id e.2)
    unfold ambiguousTargets failure
    rw [hc, hentry, List.map_id]
    rfl

variable {r}

theorem resolve_respelled (hc : c.Respelled c') (hp : p.states.length = r.groups.groups.length) :
    Corresponds (fun x x' => x.capability = c ∧ x' = ⟨c', x.result⟩) Eq (r.resolve c p)
      (r.resolve c' p) := by
  refine ((r.mirrors_respelled).resolve hc.image hp).mono fun x x' h => ⟨h.capability, ?_⟩
  have hsame : ∀ y y', Mirror.respelled.Shows r.suffix y y' → y' = id y := by
    intro y y' hy
    cases hy with
    | value type => rfl
    | transition successor targets => exact congrArg _ (List.map_id targets)
  rw [h.eq hsame, Option.map_id]
  rfl

end Resolver

/-! ### Generation -/

namespace Assembler

/-- The assembler for the entity with other capabilities. -/
def withCapabilities (a : Assembler) (capabilities : List Capability) : Assembler :=
  { a with entity := { a.entity with capabilities } }

variable {a : Assembler} {capabilities : List Capability}

theorem member_respelled {c c' : Capability} (hc : c.Respelled c') (result : Result) :
    (a.withCapabilities capabilities).member c' result = a.member c result := by
  cases hc
  rfl

theorem members_respelled {xs xs' : List Resolved}
    (h : List.Forall₂
      (fun x x' => x.capability.Respelled x'.capability ∧ x'.result = x.result) xs xs') :
    (a.withCapabilities capabilities).members xs' = a.members xs := by
  induction h with
  | nil => rfl
  | @cons x x' rest rest' hx _ ih =>
    have hhead : x'.result.map ((a.withCapabilities capabilities).member x'.capability) =
        x.result.map (a.member x.capability) := by
      rw [hx.2]
      exact congrArg (x.result.map ·) (funext fun result => member_respelled hx.1 result)
    unfold members at ih ⊢
    rw [List.filterMap_cons, List.filterMap_cons, hhead, ih]

/-- **The same wrapper is assembled**, or the same failure ends it. -/
theorem assemble_respelled
    (h : List.Forall₂ Capability.Respelled a.entity.capabilities capabilities)
    {p : Permutation} (hp : p.states.length = a.resolver.groups.groups.length) :
    Corresponds Eq Eq (a.assemble p) ((a.withCapabilities capabilities).assemble p) := by
  have hresolved : Corresponds
      (List.Forall₂ fun x x' => x.capability.Respelled x'.capability ∧ x'.result = x.result) Eq
      (a.resolveAll p a.entity.capabilities)
      ((a.withCapabilities capabilities).resolveAll p capabilities) := by
    rw [resolveAll_eq_mapM, resolveAll_eq_mapM]
    refine Corresponds.mapM (h.imp fun c c' hc => ?_)
    refine (Resolver.resolve_respelled hc hp).mono fun x x' hx => ?_
    obtain ⟨rfl, rfl⟩ := hx
    exact ⟨hc, rfl⟩
  refine hresolved.bind fun xs xs' hxs => .ok ?_
  rw [members_respelled hxs]
  rfl

end Assembler

theorem expand_respelled {e : Entity} {capabilities : List Capability}
    (h : List.Forall₂ Capability.Respelled e.capabilities capabilities) (schedule : Schedule)
    (settings : Settings) (registry : Registry) :
    Corresponds (fun u u' => u'.toData = u.toData) Eq (expand schedule settings registry e)
      (expand schedule settings registry { e with capabilities }) := by
  refine (Corresponds.refl (GroupMap.ofGroups e.groups)).bind fun groups groups' heq => ?_
  subst heq
  refine (Corresponds.refl (groups.validate (some e.name))).bind fun _ _ _ => ?_
  have hwrappers : Corresponds (List.Forall₂ Eq) Eq
      (assembleAll schedule settings.maxWorkers (Assembler.ofEntity settings registry e groups)
        (Permutation.enumerate groups.stateLists))
      (assembleAll schedule settings.maxWorkers
        (Assembler.ofEntity settings registry { e with capabilities } groups)
        (Permutation.enumerate groups.stateLists)) := by
    rw [assembleAll_eq_mapM, assembleAll_eq_mapM]
    refine Corresponds.mapM (List.forall₂_same.mpr fun p hp => ?_)
    have hsize : p.states.length = groups.groups.length := (GroupMap.mem_enumerate.mp hp).2.size
    exact (Assembler.ofEntity settings registry e groups).assemble_respelled h hsize
  refine hwrappers.bind fun wrappers wrappers' heq => ?_
  rw [List.forall₂_eq_eq_eq] at heq
  subst heq
  -- the units differ in the capabilities of the entity, which are not part of the data
  have hunit : Corresponds (fun u u' => u' = { u with entity := { u.entity with capabilities } }) Eq
      (CompilationUnit.make e wrappers settings.nameSuffix)
      (CompilationUnit.make { e with capabilities } wrappers settings.nameSuffix) := by
    unfold CompilationUnit.make
    split
    · exact .ok rfl
    · exact .error rfl
  refine hunit.bind fun u u' heq => ?_
  subst heq
  have hunresolved :
      ({ u with entity := { u.entity with capabilities } } : CompilationUnit).unresolved =
        u.unresolved := rfl
  unfold checkReferences
  rw [hunresolved]
  split
  · exact .ok rfl
  · exact .error rfl

/-- **The spelling of relations makes no difference.** Let the relations in the conditions of an
entity, of its capabilities and of their rules, be named by other texts of the same lower case, or
some kinds by their texts and some texts by their kinds. Under any settings, and whatever relations
are registered, the same is generated, as data; or it fails with the same failure, down to its
message and its place. -/
theorem respelling_irrelevant {e e' : Entity} (h : e.Respelled e') (schedule : Schedule)
    (settings : Settings) (registry : Registry) :
    (generateBy schedule settings registry e').map CompilationUnit.toData =
      (generateBy schedule settings registry e).map CompilationUnit.toData := by
  obtain ⟨hcapabilities⟩ := h
  refine Corresponds.map_eq ?_
  exact (expand_respelled hcapabilities schedule settings registry).mapError fun _ _ heq =>
    congrArg (Failure.mapSite (Site.withEntity e.name)) heq

/-- A registry with a disjunction and with a relation of its own, and without the other two
kinds. -/
def kindRegistry : Registry := ⟨[("or", Relation.disjunction), ("kind", fussy)]⟩

/-- A switch that can always be turned off; two relations say so. -/
def switch (availability transition : RelationRef) : Entity where
  name := "Switch"
  groups := [⟨"Power", ["Off", "On"]⟩]
  capabilities :=
    [{ lifting [Condition.of [] availability] with
       transitions := [⟨"Off", Condition.of ["Off", "On"] transition⟩] }]
  typeParameters := []
  module := none

theorem respelled_switch {availability availability' transition transition' : RelationRef}
    (h : availability.Respelled availability') (h' : transition.Respelled transition') :
    (switch availability transition).Respelled (switch availability' transition') :=
  .intro (switch availability transition)
    (.cons (.intro _ (.cons ⟨rfl, h⟩ .nil) (.cons ⟨rfl, rfl, h'⟩ .nil)) .nil)

/-- A relation of its own is found under a text with the sign for kelvin, and the disjunction under
its kind as under its text. A kind that is not registered is reported alike under both. -/
theorem respelling_irrelevant_switch :
    (switch (.ofText "Kind") (.ofText "OR")).Respelled
      (switch (.ofText "\u212aIND") (.builtin .or)) ∧
      switch (.ofText "Kind") (.ofText "OR") ≠ switch (.ofText "\u212aIND") (.builtin .or) ∧
      (∃ u, generate {} kindRegistry (switch (.ofText "Kind") (.ofText "OR")) = .ok u ∧
        (generate {} kindRegistry (switch (.ofText "\u212aIND") (.builtin .or))).map
          CompilationUnit.toData = .ok u.toData ∧
        u.typeNames = ["OffState", "OnState"]) ∧
      ∃ report, generate {} kindRegistry (switch (.builtin .xor) (.builtin .or)) =
          .error (.report report) ∧
        (generate {} kindRegistry (switch (.ofText "xOr") (.ofText "Or"))).map
          CompilationUnit.toData = .error (.report report) ∧
        report.code = .invalidRelation := by
  have hkind : (RelationRef.ofText "Kind").Respelled (.ofText "\u212aIND") := .text (by decide)
  have hor : (RelationRef.ofText "OR").Respelled (.builtin .or) := .asKind (by decide)
  have hxor : (RelationRef.builtin .xor).Respelled (.ofText "xOr") := .asText (by decide)
  have hor' : (RelationRef.builtin .or).Respelled (.ofText "Or") := .asText (by decide)
  have hgenerated := respelling_irrelevant (respelled_switch hkind hor) .inOrder {} kindRegistry
  have hreported := respelling_irrelevant (respelled_switch hxor hor') .inOrder {} kindRegistry
  exact ⟨respelled_switch hkind hor, by decide, ⟨_, rfl, hgenerated, rfl⟩, ⟨_, rfl, hreported, rfl⟩⟩

end Typestate
