import Typestate.Registry
import Typestate.Entity
import Typestate.Permutation

/-! # Resolution

What one capability does in one permutation.

* `Resolver.isAvailable`: the capability is available in all states, or one of its conditions
  holds. All conditions are tested, so a faulty one is found even behind one that holds.
* `Resolver.successor`: the targets of the transition rules whose conditions hold replace the
  states of their groups. Unknown targets, and different targets in one group, are reported.
* `Resolver.resolve`: the availability, and the value type or the successor.
* `Site.filled`: a report that a relation makes gets the capability, the permutation and the
  entity, as far as it does not name them itself. -/

namespace Typestate

/-! ### Completing a report -/

/-- The name if it is there and not empty, otherwise the other one. -/
def orName (own other : Option String) : Option String :=
  match own with
  | some name => if name.isEmpty then other else some name
  | none => other

/-- The states if there are any, otherwise the other ones. -/
def orStates (own : Option (List String)) (other : List String) : Option (List String) :=
  match own with
  | some (s :: rest) => some (s :: rest)
  | _ => some other

/-- The place with its missing or empty parts filled in. -/
def Site.filled (s : Site) (entity : Option String) (capability : String)
    (permutation : List String) : Site :=
  { s with
    entity := orName s.entity entity
    capability := orName s.capability (some capability)
    permutation := orStates s.permutation permutation }

/-- An inconsistency with the place of its report changed; other failures are left alone. -/
def Failure.mapSite (f : Site → Site) : Failure → Failure
  | .report r =>
    if r.family = .inconsistency then .report { r with site := f r.site } else .report r
  | e => e

/-! ### Results -/

/-- What a call of an available capability gives. -/
inductive Result where
  | value (type : String)
  | transition (successor : Permutation) (type : String) (targets : List String)
deriving DecidableEq

namespace Result

/-- The type of the result. -/
def type : Result → String
  | .value type => type
  | .transition _ type _ => type

/-- The result is a wrapper. -/
def isTransition : Result → Bool
  | .value _ => false
  | .transition .. => true

end Result

/-- A capability in a permutation; without a result it is not available. -/
structure Resolved where
  capability : Capability
  result : Option Result
deriving DecidableEq

namespace Resolved

/-- The capability is available. -/
def isAvailable (r : Resolved) : Bool := r.result.isSome

/-- The capability leads to a wrapper. -/
def isTransition (r : Resolved) : Bool := r.result.any Result.isTransition

end Resolved

/-! ### The resolver -/

/-- What resolution needs to know about an entity. -/
structure Resolver where
  groups : GroupMap
  registry : Registry
  suffix : String
  entity : Option String

namespace Resolver

variable (r : Resolver)

/-- The verdict of a condition; a report is completed with the place. -/
def holds (condition : Condition) (capability : Capability) (p : Permutation) :
    Except Failure Bool :=
  (r.registry.evaluate condition.relation.key r.groups p.states condition.states.toList).mapError
    (Failure.mapSite fun s => s.filled r.entity capability.name p.states)

/-- A failure about a capability in a permutation. -/
def failure (code : Code) (message : String) (capability : Capability) (p : Permutation)
    (states : List String) : Failure :=
  .report (Report.inconsistent code message
    { entity := r.entity, capability := some capability.name, permutation := some p.states,
      states := states })

/-- The failure about a capability that is available always and also under conditions. -/
def conflict (capability : Capability) (p : Permutation) : Failure :=
  r.failure .conflictingAvailability
    ("Capability '" ++ capability.name ++ "' cannot be both available for all states and " ++
      "available for specific states")
    capability p []

/-- The verdicts of conditions, in order. -/
def verdicts (capability : Capability) (p : Permutation) :
    List Condition → Except Failure (List Bool)
  | [] => .ok []
  | condition :: rest => do
    let verdict ← r.holds condition capability p
    let others ← verdicts capability p rest
    .ok (verdict :: others)

/-- The capability is available in the permutation. -/
def isAvailable (capability : Capability) (p : Permutation) : Except Failure Bool :=
  if capability.availableForAll then
    if capability.availability.isEmpty then .ok true else .error (r.conflict capability p)
  else do
    let verdicts ← r.verdicts capability p capability.availability
    .ok (verdicts.any id)

/-- The targets of the rules whose conditions hold, in the order of the rules. -/
def heldTargets (capability : Capability) (p : Permutation) :
    List TransitionRule → Except Failure (List String)
  | [] => .ok []
  | rule :: rest => do
    let held ← r.holds rule.condition capability p
    let others ← heldTargets capability p rest
    .ok (if held then rule.target :: others else others)

/-- The failure about targets that no group declares. -/
def unknownTargets (capability : Capability) (p : Permutation) (states : List String) : Failure :=
  r.failure .unknownTarget
    ("Capability '" ++ capability.name ++
      "' has transitions to states that do not exist. States: " ++
      Text.commaList states)
    capability p states

/-- The failure about several targets in one group. -/
def ambiguousTargets (capability : Capability) (p : Permutation)
    (byGroup : List (String × List String)) : Failure :=
  r.failure .ambiguousTransition
    ("Capability '" ++ capability.name ++
      "' has transitions to different states of the same group. States: " ++
      String.intercalate " and "
        (byGroup.map fun entry => entry.1 ++ ": [" ++ Text.commaList entry.2 ++ "]"))
    capability p (byGroup.flatMap (·.2))

/-- The targets by the group that declares them. -/
def byGroup (targets : List String) : List (String × List String) :=
  Names.collect (targets.filterMap fun target => (r.groups.groupOf? target).map (·, target))

/-- The permutation with targets put at the positions of their groups. -/
def moveTo (p : Permutation) : List (String × List String) → Except Failure Permutation
  | [] => .ok p
  | (group, targets) :: rest => do
    let position ← r.groups.indexOf group
    let moved ← targets.foldlM (fun q target => q.replace position target) p
    moveTo moved rest

/-- The permutation that the given targets lead to. -/
def moveToTargets (capability : Capability) (p : Permutation) (targets : List String) :
    Except Failure Permutation :=
  let unknown := targets.filter fun target => !r.groups.declares target
  let ambiguous := (r.byGroup targets).filter fun entry => 1 < entry.2.length
  if !unknown.isEmpty then .error (r.unknownTargets capability p unknown)
  else if !ambiguous.isEmpty then .error (r.ambiguousTargets capability p ambiguous)
  else r.moveTo p (r.byGroup targets)

/-- The permutation reached by the capability, and the targets that led there. -/
def successor (capability : Capability) (p : Permutation) :
    Except Failure (Permutation × List String) := do
  let held ← r.heldTargets capability p capability.transitions
  let reached ← r.moveToTargets capability p (Names.distinct held)
  .ok (reached, Names.distinct held)

/-- What a call of an available capability gives in the permutation. -/
def result (capability : Capability) (p : Permutation) : Except Failure Result :=
  match capability.returns with
  | some type => .ok (.value type)
  | none => do
    let reached ← r.successor capability p
    .ok (.transition reached.1 (reached.1.typeName r.suffix) reached.2)

/-- Availability and result of a capability in the permutation. -/
def resolve (capability : Capability) (p : Permutation) : Except Failure Resolved := do
  if ← r.isAvailable capability p then
    let result ← r.result capability p
    .ok ⟨capability, some result⟩
  else .ok ⟨capability, none⟩

/-! ### Reading the outcomes -/

/-- **A capability marked for all states and for some fails before any condition is tested.** -/
theorem isAvailable_of_both {capability : Capability} {p : Permutation}
    (h : capability.availableForAll = true) (h' : capability.availability ≠ []) :
    r.isAvailable capability p = .error (r.conflict capability p) := by
  simp [isAvailable, h, h']

theorem isAvailable_of_all {capability : Capability} {p : Permutation}
    (h : capability.availableForAll = true) (h' : capability.availability = []) :
    r.isAvailable capability p = .ok true := by
  simp [isAvailable, h, h']

/-- **A capability without rules stays where it is.** -/
theorem successor_of_no_rules {capability : Capability} {p : Permutation}
    (h : capability.transitions = []) : r.successor capability p = .ok (p, []) := by
  rw [successor, h]
  rfl

end Resolver
end Typestate
