import Typestate.Generation

/-! # The trace of a run

A run of the library leaves a trace of events, which a log can write down.

* `Event`: what can happen, with the logger that reports it, its message and its context.
* `Traced`: a computation that leaves events until it ends or fails.
* `generateTraced`: generation with its trace; `outcome_generateTraced` says that the trace is all
  it adds. -/

namespace Typestate

/-- Something that a run reports. -/
inductive Event where
  | registered (key relation : String)
  | loaded (name : String) (groups capabilities : Nat)
  | validated (groups states : Nat)
  | enumerating (sizes : List Nat)
  | moved (entity : Option String) (capability : String)
    (permutation successor targets : List String)
  | assembled (entity typeName : String) (members : Nat) (permutation : List String)
  | generated (entity : String) (wrappers groups capabilities : Nat)
deriving DecidableEq

namespace Event

/-- The logger that reports the event. -/
def logger : Event → String
  | .registered .. => "stategen.relations.registry"
  | .loaded .. => "stategen.description.loader"
  | .validated .. => "stategen.combinatorial.groups"
  | .enumerating .. => "stategen.combinatorial.permutations"
  | .moved .. => "stategen.generation.resolver"
  | .assembled .. => "stategen.generation.wrapper"
  | .generated .. => "stategen.generation.generator"

/-- The event in words. -/
def message : Event → String
  | .registered key relation => "Registered relation " ++ Text.quoted key ++ " -> " ++ relation
  | .loaded name groups capabilities =>
    "Loaded description " ++ Text.quoted name ++ ": " ++ toString groups ++ " groups, " ++
      toString capabilities ++ " capabilities"
  | .validated groups states =>
    "Validated " ++ toString groups ++ " state groups (" ++ toString states ++ " states)"
  | .enumerating sizes =>
    "Enumerating permutations over " ++ toString sizes.length ++ " groups (sizes [" ++
      Text.commaList (sizes.map toString) ++ "])"
  | .moved _ capability permutation successor targets =>
    capability ++ ": " ++ Text.quotedList permutation ++ " -> " ++ Text.quotedList successor ++
      " via " ++ Text.quotedList targets
  | .assembled _ typeName members _ =>
    "Assembled " ++ typeName ++ " with " ++ toString members ++ " members"
  | .generated entity wrappers groups capabilities =>
    "Generated " ++ toString wrappers ++ " wrappers for " ++ entity ++ " (" ++ toString groups ++
      " groups, " ++ toString capabilities ++ " capabilities)"

/-- The entity, capability and permutation that the event is about. -/
def context : Event → List (String × Data)
  | .moved entity capability permutation _ _ =>
    Site.namedEntry "entity" entity ++
      [("capability", .text capability), ("permutation", Data.texts permutation)]
  | .assembled entity _ _ permutation =>
    [("entity", .text entity), ("permutation", Data.texts permutation)]
  | .generated entity _ _ _ => [("entity", .text entity)]
  | _ => []

end Event

/-! ### Computations with a trace -/

/-- The events of a computation and how it ends. -/
structure Traced (α : Type) where
  events : List Event
  outcome : Except Failure α

namespace Traced

variable {α β : Type}

/-- A computation without events. -/
def ofExcept (x : Except Failure α) : Traced α := ⟨[], x⟩

/-- One event. -/
def emit (e : Event) : Traced Unit := ⟨[e], .ok ()⟩

/-- One computation after another; a failure ends the trace. -/
def andThen (x : Traced α) (f : α → Traced β) : Traced β :=
  match x.outcome with
  | .ok a => ⟨x.events ++ (f a).events, (f a).outcome⟩
  | .error e => ⟨x.events, .error e⟩

instance : Monad Traced where
  pure a := ofExcept (.ok a)
  bind := andThen

/-- The results of a computation on every item, in order. -/
def forEach (f : α → Traced β) : List α → Traced (List β)
  | [] => pure []
  | x :: rest => do
    let b ← f x
    let others ← forEach f rest
    pure (b :: others)

/-- The computation with its failure changed. -/
def mapFailure (f : Failure → Failure) (x : Traced α) : Traced α :=
  ⟨x.events, x.outcome.mapError f⟩

@[simp] theorem outcome_ofExcept (x : Except Failure α) : (ofExcept x).outcome = x := rfl

@[simp] theorem outcome_emit (e : Event) : (emit e).outcome = .ok () := rfl

@[simp] theorem outcome_pure (a : α) : (pure a : Traced α).outcome = .ok a := rfl

/-- **The outcome of a sequence is the sequence of the outcomes.** -/
@[simp] theorem outcome_bind (x : Traced α) (f : α → Traced β) :
    (x >>= f).outcome = x.outcome >>= fun a => (f a).outcome := by
  cases h : x.outcome <;> simp [Bind.bind, andThen, h, Except.bind]

theorem outcome_forEach (f : α → Traced β) (items : List α) :
    (forEach f items).outcome = items.mapM fun x => (f x).outcome := by
  induction items with
  | nil => rfl
  | cons x rest ih =>
    rw [forEach, List.mapM_cons]
    simp only [outcome_bind, ih, outcome_pure]
    rfl

end Traced

/-! ### Generation with its trace -/

/-- The move that a resolved capability makes, if any rule applied. -/
def Resolver.moveEvents (r : Resolver) (p : Permutation) (resolved : Resolved) : Traced Unit :=
  match resolved.result with
  | some (.transition successor _ (t :: targets)) =>
    Traced.emit (.moved r.entity resolved.capability.name p.states successor.states (t :: targets))
  | _ => pure ()

/-- Resolution with its trace. -/
def Resolver.resolveTraced (r : Resolver) (p : Permutation) (c : Capability) : Traced Resolved := do
  let resolved ← Traced.ofExcept (r.resolve c p)
  r.moveEvents p resolved
  pure resolved

/-- Assembling with its trace. -/
def Assembler.assembleTraced (a : Assembler) (p : Permutation) : Traced Wrapper := do
  let resolved ← Traced.forEach (a.resolver.resolveTraced p) a.entity.capabilities
  let w := a.wrapper p (a.members resolved)
  Traced.emit (.assembled a.entity.name w.typeName w.members.length p.states)
  pure w

/-- The start of the enumeration, which there is only if there are groups. -/
def enumeratingEvents (stateLists : List (List String)) : Traced Unit :=
  if stateLists.isEmpty then pure () else Traced.emit (.enumerating (stateLists.map List.length))

/-- Expansion with its trace. -/
def expandTraced (settings : Settings) (registry : Registry) (entity : Entity) :
    Traced CompilationUnit := do
  let groups ← Traced.ofExcept (GroupMap.ofGroups entity.groups)
  Traced.ofExcept (groups.validate (some entity.name))
  Traced.emit (.validated groups.size groups.allStates.length)
  enumeratingEvents groups.stateLists
  let wrappers ← Traced.forEach (Assembler.ofEntity settings registry entity groups).assembleTraced
    (Permutation.enumerate groups.stateLists)
  let unit ← Traced.ofExcept (CompilationUnit.make entity wrappers settings.nameSuffix)
  let unit ← Traced.ofExcept (checkReferences unit)
  Traced.emit (.generated entity.name unit.size groups.size entity.capabilities.length)
  pure unit

/-- **Generation with its trace.** -/
def generateTraced (settings : Settings) (registry : Registry) (entity : Entity) :
    Traced CompilationUnit :=
  (expandTraced settings registry entity).mapFailure (Failure.mapSite (Site.withEntity entity.name))

/-! ### The trace is all that is added -/

theorem Resolver.outcome_moveEvents (r : Resolver) (p : Permutation) (resolved : Resolved) :
    (r.moveEvents p resolved).outcome = .ok () := by
  unfold moveEvents
  split <;> rfl

theorem Resolver.outcome_resolveTraced (r : Resolver) (p : Permutation) (c : Capability) :
    (r.resolveTraced p c).outcome = r.resolve c p := by
  simp only [resolveTraced, Traced.outcome_bind, Traced.outcome_ofExcept, outcome_moveEvents,
    Traced.outcome_pure]
  cases r.resolve c p <;> rfl

theorem Assembler.outcome_assembleTraced (a : Assembler) (p : Permutation) :
    (a.assembleTraced p).outcome = a.assemble p := by
  simp only [assembleTraced, Traced.outcome_bind, Traced.outcome_forEach, Traced.outcome_emit,
    Traced.outcome_pure, Resolver.outcome_resolveTraced, assemble, assembleOnly, resolveAll_eq_mapM]
  rfl

theorem outcome_enumeratingEvents (stateLists : List (List String)) :
    (enumeratingEvents stateLists).outcome = .ok () := by
  unfold enumeratingEvents
  split <;> rfl

/-- **The outcome is that of generation without a trace.** -/
theorem outcome_generateTraced (settings : Settings) (registry : Registry) (entity : Entity) :
    (generateTraced settings registry entity).outcome = generate settings registry entity := by
  simp only [generateTraced, Traced.mapFailure, expandTraced, generate, generateBy, expand,
    Traced.outcome_bind, Traced.outcome_ofExcept, Traced.outcome_emit, Traced.outcome_pure,
    Traced.outcome_forEach, Assembler.outcome_assembleTraced, outcome_enumeratingEvents,
    assembleAll_eq_mapM]
  congr 1
  cases GroupMap.ofGroups entity.groups with
  | error e => rfl
  | ok groups =>
    simp only [Bind.bind, Except.bind]
    cases groups.validate (some entity.name) with
    | error e => rfl
    | ok u =>
      simp only
      cases List.mapM (Assembler.ofEntity settings registry entity groups).assemble
          (Permutation.enumerate groups.stateLists) with
      | error e => rfl
      | ok wrappers =>
        simp only
        cases CompilationUnit.make entity wrappers settings.nameSuffix with
        | error e => rfl
        | ok unit =>
          simp only
          cases checkReferences unit <;> rfl

end Typestate
