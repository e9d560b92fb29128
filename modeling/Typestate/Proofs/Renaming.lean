import Typestate.Proofs.Mirror
import Typestate.Proofs.Availability
import Typestate.Proofs.Successor

/-! # Other names for states

Resolution asks of states only which are equal. Give all states new names, different ones to
different states, in the groups, in the capability and in the permutation: the capability does the
same under the new names, and a report has the new names in the place of the old.

* `GroupMap.rename`, `Permutation.rename`, `Capability.rename`, `Resolver.rename`: the new names put
  in everywhere. `Resolved.rename`, `Site.rename`: the same for a result and for the place of a
  report.
* `GroupMap.groupOf?_rename`, `GroupMap.put_rename`: look-ups and moves under new names.
* `Relation.contradiction?_rename`, `RelationKind.met_rename_iff`: verdicts under new names.
* `Failure.Renamed`: a report under new names.
* `resolve_rename`: resolution under new names. -/

namespace Typestate

/-! ### New names -/

section New

variable (f : String → String)

/-- The group with other names for its states. -/
def StateGroup.rename (g : StateGroup) : StateGroup := { g with states := g.states.map f }

/-- The groups with other names for their states. -/
def GroupMap.rename (m : GroupMap) : GroupMap where
  groups := m.groups.map (StateGroup.rename f)
  distinctNames := by
    rw [List.map_map]
    exact m.distinctNames

/-- The permutation with other names for its states. -/
def Permutation.rename (p : Permutation) : Permutation := ⟨p.states.map f⟩

/-- The condition on the states under other names. -/
def Condition.rename (c : Condition) : Condition := Condition.of (c.states.toList.map f) c.relation

/-- The rule with other names for its states. -/
def TransitionRule.rename (rule : TransitionRule) : TransitionRule :=
  ⟨f rule.target, rule.condition.rename f⟩

/-- The capability with other names for the states in its conditions and targets. -/
def Capability.rename (c : Capability) : Capability :=
  { c with
    availability := c.availability.map (Condition.rename f)
    transitions := c.transitions.map (TransitionRule.rename f) }

/-- The resolver over the groups with other names. -/
def Resolver.rename (r : Resolver) : Resolver := { r with groups := r.groups.rename f }

/-- The place with other names for states; names of anything else are kept. -/
def Site.rename (s : Site) : Site :=
  { s with permutation := s.permutation.map (List.map f), states := s.states.map f }

/-- What is seen under other names. -/
def Mirror.newNames : Mirror where
  state := f
  permutation := Permutation.rename f
  condition condition condition' := condition' = condition.rename f

/-- The result with other names for states: a value keeps its type, and the wrapper of the successor
is named after the successor under its new name. -/
def Result.rename (suffix : String) : Result → Result
  | .value type => .value type
  | .transition successor _ targets =>
    .transition (successor.rename f) ((successor.rename f).typeName suffix) (targets.map f)

/-- The resolved capability with other names for states. -/
def Resolved.rename (suffix : String) (x : Resolved) : Resolved :=
  ⟨x.capability.rename f, x.result.map (Result.rename f suffix)⟩

theorem Mirror.image_rename (c : Capability) : (Mirror.newNames f).Image c (c.rename f) := by
  refine ⟨rfl, rfl, rfl, ?_, ?_⟩
  · exact List.forall₂_map_right_iff.mpr (List.forall₂_same.mpr fun _ _ => rfl)
  · exact List.forall₂_map_right_iff.mpr (List.forall₂_same.mpr fun _ _ => ⟨rfl, rfl⟩)

variable {f}

theorem Mirror.Shows.eq_rename {suffix : String} {x x' : Result}
    (h : (newNames f).Shows suffix x x') : x' = x.rename f suffix := by
  cases h <;> rfl

end New

/-! ### Look-ups -/

section LookUps

variable {f : String → String} (hf : Function.Injective f)
include hf

theorem StateGroup.declares_comp_rename (s : String) :
    (fun g : StateGroup => decide (f s ∈ g.states)) ∘ StateGroup.rename f =
      fun g => decide (s ∈ g.states) := by
  funext g
  exact decide_eq_decide.mpr (List.mem_map_of_injective hf)

theorem Condition.mem_states_rename {c : Condition} {s : String} :
    f s ∈ (c.rename f).states.toList ↔ s ∈ c.states.toList := by
  rw [rename, of, NameSet.mem_ofList, List.mem_map_of_injective hf]

namespace GroupMap

variable (m : GroupMap)

theorem groupOf?_rename (s : String) : (m.rename f).groupOf? (f s) = m.groupOf? s := by
  unfold groupOf? rename
  rw [List.find?_map, Option.map_map, StateGroup.declares_comp_rename hf]
  rfl

theorem place?_rename (s : String) : (m.rename f).place? (f s) = m.place? s := by
  unfold place? rename
  rw [List.findIdx?_map, StateGroup.declares_comp_rename hf]

theorem put_rename (p : Permutation) (s : String) :
    (m.rename f).put (p.rename f) (f s) = (m.put p s).rename f := by
  unfold put
  rw [place?_rename hf]
  cases m.place? s with
  | none => rfl
  | some i => exact congrArg Permutation.mk List.map_set.symm

end GroupMap

end LookUps

/-! ### Verdicts -/

section Verdicts

variable {f : String → String} {wanted wanted' : List String}
  (hwanted : ∀ s, f s ∈ wanted' ↔ s ∈ wanted)
include hwanted

theorem Relation.clashing_rename (g : StateGroup) :
    clashing wanted' (g.rename f) = (clashing wanted g).map f := by
  unfold clashing StateGroup.rename
  rw [List.filter_map]
  congr 1
  exact List.filter_congr fun s _ => by simp only [Function.comp_apply, hwanted]

/-- **The first group with a clash keeps its place.** -/
theorem Relation.contradiction?_rename (m : GroupMap) :
    contradiction? (m.rename f) wanted' = (contradiction? m wanted).map (StateGroup.rename f) := by
  unfold contradiction? GroupMap.rename
  rw [List.find?_map]
  congr 2
  funext g
  simp only [Function.comp_apply, clashing_rename hwanted, List.length_map]

end Verdicts

theorem RelationKind.met_rename_iff {f : String → String} (hf : Function.Injective f)
    {c : Condition} {p : Permutation} (kind : RelationKind) :
    kind.Met (c.rename f).states.toList (p.rename f).states ↔
      kind.Met c.states.toList p.states := by
  have hmem : ∀ s, s ∈ (c.rename f).states.toList ↔ ∃ t ∈ c.states.toList, f t = s := fun s => by
    rw [Condition.rename, Condition.of, NameSet.mem_ofList, List.mem_map]
  have hp : ∀ s, f s ∈ (p.rename f).states ↔ s ∈ p.states := fun s => List.mem_map_of_injective hf
  cases kind <;> simp [Met, hmem, hp, hf.eq_iff]

/-! ### Reports -/

section Reports

variable {f : String → String}

/-- The second failure is the report that the first one is, in other words and with the new names
for states. -/
inductive Failure.Renamed (f : String → String) : Failure → Failure → Prop where
  | report (report : Report) (message : String) :
      Renamed f (.report report) (.report { report with message, site := report.site.rename f })

theorem Site.filled_rename (s : Site) (entity : Option String) (capability : String)
    (permutation : List String) :
    (s.rename f).filled entity capability (permutation.map f) =
      (s.filled entity capability permutation).rename f := by
  have hstates : orStates (s.permutation.map (List.map f)) (permutation.map f) =
      (orStates s.permutation permutation).map (List.map f) := by
    rcases s.permutation with _ | _ | _ <;> rfl
  unfold filled rename
  rw [hstates]

theorem Failure.Renamed.mapSite {e e' : Failure} (h : Renamed f e e') (entity : Option String)
    (capability : String) (permutation : List String) :
    Renamed f (e.mapSite fun s => s.filled entity capability permutation)
      (e'.mapSite fun s => s.filled entity capability (permutation.map f)) := by
  obtain ⟨report, message⟩ := h
  unfold Failure.mapSite
  simp only [Site.filled_rename]
  by_cases hfamily : report.family = .inconsistency
  · rw [if_pos hfamily, if_pos hfamily]
    exact .report { report with site := report.site.filled entity capability permutation } message
  · rw [if_neg hfamily, if_neg hfamily]
    exact .report report message

theorem Resolver.renamed_failure (r : Resolver) {c c' : Capability} (hc : c'.name = c.name)
    (code : Code) (message message' : String) (p : Permutation) (states : List String) :
    Failure.Renamed f (r.failure code message c p states)
      ((r.rename f).failure code message' c' (p.rename f) (states.map f)) := by
  unfold failure
  rw [hc]
  exact .report _ _

/-- **A clash is reported for the same group**, with its states under their new names. -/
theorem Relation.renamed_contradictionReport {wanted wanted' : List String}
    (hwanted : ∀ s, f s ∈ wanted' ↔ s ∈ wanted) (permutation : List String) (g : StateGroup) :
    Failure.Renamed f (.report (contradictionReport permutation wanted g))
      (.report (contradictionReport (permutation.map f) wanted' (g.rename f))) := by
  unfold contradictionReport
  rw [clashing_rename hwanted]
  exact .report _ _

end Reports

/-! ### Resolution -/

namespace Resolver

variable {f : String → String} (hf : Function.Injective f) {r : Resolver}
  (hr : r.registry = Registry.builtin)
include hf hr

theorem corresponds_holds_rename {c c' : Capability} (hc : c'.name = c.name) (condition : Condition)
    (p : Permutation) :
    Outcome.Corresponds Eq (Failure.Renamed f) (r.holds condition c p)
      ((r.rename f).holds (condition.rename f) c' (p.rename f)) := by
  have hwanted : ∀ s, f s ∈ (condition.rename f).states.toList ↔ s ∈ condition.states.toList :=
    fun _ => Condition.mem_states_rename hf
  have hcheck : Option.Rel (fun g g' => g' = g.rename f)
      (Relation.contradiction? r.groups condition.states.toList)
      (Relation.contradiction? (r.groups.rename f) (condition.rename f).states.toList) := by
    rw [Relation.contradiction?_rename hwanted]
    cases Relation.contradiction? r.groups condition.states.toList with
    | none => exact .none
    | some g => exact .some rfl
  have hreport : ∀ g g', g' = g.rename f → Failure.Renamed f
      (.report (Relation.contradictionReport p.states condition.states.toList g))
      (.report (Relation.contradictionReport (p.rename f).states
        (condition.rename f).states.toList g')) := by
    intro g g' hg
    subst hg
    exact Relation.renamed_contradictionReport hwanted p.states g
  have hr' : (r.rename f).registry = Registry.builtin := hr
  unfold holds
  rw [hr, hr', hc]
  exact (Registry.corresponds_evaluate_builtin hcheck (fun kind => (kind.met_rename_iff hf).symm)
    hreport fun _ => .report _ _).mapError fun e e' he => he.mapSite r.entity c.name p.states

/-- **Under new names a resolver looks the same**: it decides, moves and fails alike. -/
theorem mirrors_rename : Mirrors (Mirror.newNames f) (Failure.Renamed f) r (r.rename f) where
  suffix := rfl
  injective := hf
  group := GroupMap.groupOf?_rename hf r.groups
  size hp := by
    change (List.map f _).length = (List.map _ _).length
    rw [List.length_map, List.length_map, hp]
  put s _ := GroupMap.put_rename hf r.groups _ s
  holds hc _ hcondition := by
    subst hcondition
    exact corresponds_holds_rename hf hr hc _ _
  conflict hc := r.renamed_failure hc _ _ _ _ []
  unknown hc := r.renamed_failure hc _ _ _ _ _
  ambiguous {c c' p entries} hc := by
    have hstates : (entries.map (Mirror.newNames f).entry).flatMap (·.2) =
        (entries.flatMap (·.2)).map f := by
      rw [List.flatMap_map, List.map_flatMap]
      rfl
    unfold ambiguousTargets
    rw [hstates]
    exact r.renamed_failure hc _ _ _ _ _

end Resolver

/-- **Resolution asks of states only which are equal.** Let different states get different new
names. Under the built-in relations, a capability under the new names is resolved in the permutation
under the new names, over the groups under the new names, to what it is resolved to under the old
ones: it is available or not just as before, a value has the same type, and a successor and its
targets have the new names. Where it fails, it fails with the same report, which has the new names
for the permutation and the states, and may say it in other words. -/
theorem resolve_rename {f : String → String} (hf : Function.Injective f) {r : Resolver}
    (hr : r.registry = Registry.builtin) (c : Capability) {p : Permutation}
    (hp : p.states.length = r.groups.groups.length) :
    (∀ x, r.resolve c p = .ok x →
      (r.rename f).resolve (c.rename f) (p.rename f) = .ok (x.rename f r.suffix)) ∧
    ∀ e, r.resolve c p = .error e → ∃ report message, e = .report report ∧
      (r.rename f).resolve (c.rename f) (p.rename f) =
        .error (.report { report with message, site := report.site.rename f }) := by
  have hresolve := (Resolver.mirrors_rename hf hr).resolve (Mirror.image_rename f c) hp
  refine ⟨fun x hx => ?_, fun e he => ?_⟩
  · obtain ⟨x', hx', hshows⟩ := hresolve.of_ok hx
    rw [Resolved.rename, hshows.capability, ← hshows.eq fun _ _ => Mirror.Shows.eq_rename]
    exact hx'
  · obtain ⟨e', he', ⟨report, message⟩⟩ := hresolve.of_error he
    exact ⟨report, message, rfl, he'⟩

/-- With "Not" in front of every state the lamp goes from `NotOn`, `NotMid`, `NotDay` where it went
before. An unknown target is reported under its new name, and so are two levels that are wanted at
once, in the order of their group. -/
theorem resolve_rename_dimmer :
    Function.Injective (fun s : String => "Not" ++ s) ∧
      (∃ x, (dimmerResolver.rename ("Not" ++ ·)).resolve
        ((leading ["Night", "Off"]).rename ("Not" ++ ·))
          ⟨["NotOn", "NotMid", "NotDay"]⟩ = .ok x ∧
        x.result = some (.transition ⟨["NotOff", "NotMid", "NotNight"]⟩ "NotOffNotMidNotNightState"
          ["NotNight", "NotOff"])) ∧
      (∃ report, (dimmerResolver.rename ("Not" ++ ·)).resolve
        ((leading ["Gone"]).rename ("Not" ++ ·))
          ⟨["NotOn", "NotMid", "NotDay"]⟩ = .error (.report report) ∧
        report.code = .unknownTarget ∧ report.site.states = ["NotGone"]) ∧
      ∃ report, (dimmerResolver.rename ("Not" ++ ·)).resolve
          ((lifting [Condition.of ["Night", "High", "Low"] (.builtin .and)]).rename ("Not" ++ ·))
          ⟨["NotOn", "NotMid", "NotDay"]⟩ = .error (.report report) ∧
        report.code = .contradictoryCondition ∧
        report.site.permutation = some ["NotOn", "NotMid", "NotDay"] ∧
        report.site.states = ["NotLow", "NotHigh"] := by
  have hf : Function.Injective (fun s : String => "Not" ++ s) := fun s t h => by
    simpa using h
  have hp : (⟨["On", "Mid", "Day"]⟩ : Permutation).states.length =
      dimmerResolver.groups.groups.length := rfl
  obtain ⟨hmoved, -⟩ := resolve_rename hf (r := dimmerResolver) rfl (leading ["Night", "Off"]) hp
  obtain ⟨-, hunknown⟩ := resolve_rename hf (r := dimmerResolver) rfl (leading ["Gone"]) hp
  obtain ⟨-, hclash⟩ := resolve_rename hf (r := dimmerResolver) rfl
    (lifting [Condition.of ["Night", "High", "Low"] (.builtin .and)]) hp
  obtain ⟨report, message, hown, hunknown⟩ := hunknown _ rfl
  obtain ⟨report', message', hown', hclash⟩ := hclash _ rfl
  cases hown
  cases hown'
  exact ⟨hf, ⟨_, hmoved _ rfl, rfl⟩, ⟨_, hunknown, rfl, rfl⟩, ⟨_, hclash, rfl, rfl, rfl⟩⟩

end Typestate
