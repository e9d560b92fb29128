import Typestate.Trace
import Typestate.Log.Setup
import Typestate.Proofs.Ending

/-! # The trace mirrors the run

The events of a run of generation are read off the rules: the start, then for each permutation the
moves of its capabilities and the wrapper that is assembled, and at the end the unit. A fault cuts
the sequence where it occurs.

* `Traced.events_bind`, `Traced.events_forEach_of_ok`, `Traced.events_forEach_of_error`: the events
  of computations one after another.
* `Rules.moveTrace`, `wrapperTrace`, `openingTrace`, `closingTrace`: the events that the rules call
  for.
* `FirstFault`: the permutation and the capability that end the run.
* `events_generateTraced`: the trace of generation; `events_wrappers_of_resolvable` and
  `events_wrappers_of_firstFault` say what the wrappers add to it.
* `Leaves`: the sequences that a run can leave, one for each way to end.
* `Log.filter_takes_ofEvent`: a log that takes debugging records keeps all events.
* `trace_mirrors_run`: a run leaves the sequence that the rules call for, and no other. -/

namespace Typestate

open Rules

/-! ### Events of sequences -/

namespace Traced

variable {α β : Type}

@[simp] theorem events_ofExcept (x : Except Failure α) : (ofExcept x).events = [] := rfl

@[simp] theorem events_emit (e : Event) : (emit e).events = [e] := rfl

@[simp] theorem events_pure (a : α) : (pure a : Traced α).events = [] := rfl

/-- **The second computation leaves its events after those of the first**, if it is reached. -/
theorem events_bind (x : Traced α) (f : α → Traced β) :
    (x >>= f).events = x.events ++
      match x.outcome with
      | .ok a => (f a).events
      | .error _ => [] := by
  cases h : x.outcome <;> simp [Bind.bind, andThen, h]

theorem events_bind_of_ok {x : Traced α} {a : α} (h : x.outcome = .ok a) (f : α → Traced β) :
    (x >>= f).events = x.events ++ (f a).events := by
  rw [events_bind, h]

theorem events_bind_of_error {x : Traced α} {e : Failure} (h : x.outcome = .error e)
    (f : α → Traced β) : (x >>= f).events = x.events := by
  rw [events_bind, h, List.append_nil]

/-- **A computation on every item**, if none fails. -/
theorem events_forEach_of_ok {f : α → Traced β} {items : List α}
    (h : ∀ x ∈ items, ∃ b, (f x).outcome = .ok b) :
    (forEach f items).events = items.flatMap fun x => (f x).events := by
  induction items with
  | nil => rfl
  | cons x rest ih =>
    obtain ⟨b, hb⟩ := h x (by simp)
    have hrest : ∀ y ∈ rest, ∃ b, (f y).outcome = .ok b := fun y hy => h y (by simp [hy])
    obtain ⟨others, hothers⟩ := Outcome.exists_mapM_ok_iff.mpr hrest
    rw [← outcome_forEach] at hothers
    rw [forEach, events_bind_of_ok hb, events_bind_of_ok hothers, events_pure, List.append_nil,
      ih hrest, List.flatMap_cons]

/-- **The first item that fails is the last one to leave events.** -/
theorem events_forEach_of_error {f : α → Traced β} {before after : List α} {x : α} {e : Failure}
    (hbefore : ∀ y ∈ before, ∃ b, (f y).outcome = .ok b) (hx : (f x).outcome = .error e) :
    (forEach f (before ++ x :: after)).events =
      (before.flatMap fun y => (f y).events) ++ (f x).events := by
  induction before with
  | nil => rw [List.nil_append, forEach, events_bind_of_error hx, List.flatMap_nil, List.nil_append]
  | cons y rest ih =>
    obtain ⟨b, hb⟩ := hbefore y (by simp)
    have hrest : ∀ z ∈ rest, ∃ b, (f z).outcome = .ok b := fun z hz => hbefore z (by simp [hz])
    have hfails : (forEach f (rest ++ x :: after)).outcome = .error e := by
      rw [outcome_forEach]
      exact Outcome.mapM_eq_error.mpr ⟨rest, x, after, rfl, hrest, hx⟩
    rw [List.cons_append, forEach, events_bind_of_ok hb, events_bind_of_error hfails, ih hrest,
      List.flatMap_cons, List.append_assoc]

end Traced

/-! ### The events that the rules call for -/

namespace Rules

variable (m : GroupMap) (registry : Registry)

/-- The capability is available, gives no value, and one of its rules holds. -/
def moves (c : Capability) (p : Permutation) : Bool :=
  available m registry c p && c.returns.isNone && !(targets m registry c p).isEmpty

/-- The move of a capability, with its successor and the targets that lead there. -/
def move (entity : String) (c : Capability) (p : Permutation) : Event :=
  .moved (some entity) c.name p.states (step m registry c p).states
    (Names.distinct (targets m registry c p))

/-- The moves of the given capabilities, in their order. -/
def moveTrace (entity : String) (capabilities : List Capability) (p : Permutation) : List Event :=
  (capabilities.filter fun c => moves m registry c p).map fun c => move m registry entity c p

end Rules

/-- The checked groups, and the start of the enumeration if there is a group. -/
def openingTrace (m : GroupMap) : List Event :=
  .validated m.size m.allStates.length ::
    if m.groups.isEmpty then [] else [.enumerating (m.groups.map StateGroup.size)]

/-- The wrapper, once it is assembled. -/
def assemblyEvent (entity : Entity) (w : Wrapper) : Event :=
  .assembled entity.name w.typeName w.members.length w.permutation.states

/-- The moves in a permutation, and then its wrapper. -/
def wrapperTrace (settings : Settings) (registry : Registry) (entity : Entity) (m : GroupMap)
    (p : Permutation) : List Event :=
  moveTrace m registry entity.name entity.capabilities p ++
    [assemblyEvent entity ((Assembler.ofEntity settings registry entity m).expected p)]

/-- The unit, if there is one. -/
def closingTrace (entity : Entity) (m : GroupMap) : Except Failure CompilationUnit → List Event
  | .ok u => [.generated entity.name u.size m.size entity.capabilities.length]
  | .error _ => []

/-- **The first fault of the rules**: the permutations before `p` can be assembled, and in `p` the
capabilities in front of some other one can be resolved, which itself cannot. -/
structure FirstFault (registry : Registry) (entity : Entity) (m : GroupMap)
    (before : List Permutation)
    (p : Permutation) (earlier : List Capability) : Prop where
  enumerated : ∃ after, Permutation.enumerate m.stateLists = before ++ p :: after
  sound : ∀ q ∈ before, ∀ d ∈ entity.capabilities, Resolvable m registry d q
  resolved : ∀ d ∈ earlier, Resolvable m registry d p
  faulty : ∃ c later, entity.capabilities = earlier ++ c :: later ∧ ¬ Resolvable m registry c p

/-- **What a run leaves**, by the way it ends. -/
inductive Leaves (settings : Settings) (registry : Registry) (entity : Entity) (m : GroupMap) :
    List Event → Except Failure CompilationUnit → Prop where
  /-- Some state name is repeated. -/
  | repeated {e : Failure} : ¬ m.allStates.Nodup → Leaves settings registry entity m [] (.error e)
  /-- Some capability cannot be resolved. -/
  | failing {before : List Permutation} {p : Permutation} {earlier : List Capability}
      {e : Failure} :
      m.allStates.Nodup → FirstFault registry entity m before p earlier →
      Leaves settings registry entity m
        (openingTrace m ++ before.flatMap (wrapperTrace settings registry entity m) ++
          moveTrace m registry entity.name earlier p)
        (.error e)
  /-- Two permutations have one name. -/
  | collision {p q : Permutation} {e : Failure} : m.allStates.Nodup →
      (∀ p ∈ Permutation.enumerate m.stateLists,
        ∀ c ∈ entity.capabilities, Resolvable m registry c p) →
      p ∈ Permutation.enumerate m.stateLists → q ∈ Permutation.enumerate m.stateLists → p ≠ q →
      p.typeName settings.nameSuffix = q.typeName settings.nameSuffix →
      Leaves settings registry entity m
        (openingTrace m ++
          (Permutation.enumerate m.stateLists).flatMap (wrapperTrace settings registry entity m))
        (.error e)
  /-- Nothing is wrong. -/
  | unit {u : CompilationUnit} : Expands settings registry entity m u →
      Leaves settings registry entity m
        (openingTrace m ++
          (Permutation.enumerate m.stateLists).flatMap (wrapperTrace settings registry entity m) ++
          [.generated entity.name u.size m.size entity.capabilities.length])
        (.ok u)

/-! ### Capabilities and wrappers -/

namespace Resolver

variable (r : Resolver) {name : String} {p : Permutation}

/-- The event of a resolved capability is its move, if it makes one. -/
theorem events_moveEvents (hr : r.entity = some name) (c : Capability) :
    (r.moveEvents p (resolved r.groups r.registry r.suffix c p)).events =
      moveTrace r.groups r.registry name [c] p := by
  unfold resolved moveTrace moves
  by_cases hopen : available r.groups r.registry c p = true
  · cases hreturns : c.returns with
    | some type => simp [moveEvents, hopen, Rules.result, hreturns]
    | none =>
      cases htargets : Names.distinct (targets r.groups r.registry c p) with
      | nil =>
        have hnone := Names.distinct_eq_nil_iff.mp htargets
        simp [moveEvents, hopen, Rules.result, hreturns, hnone, Names.distinct]
      | cons t rest =>
        have hsome : targets r.groups r.registry c p ≠ [] :=
          fun h => by simp [h, Names.distinct] at htargets
        simp [moveEvents, hopen, Rules.result, hreturns, htargets, hsome, move, hr]
  · simp [moveEvents, hopen]

/-- **A capability that can be resolved leaves its move.** -/
theorem events_resolveTraced_of_resolvable (hr : r.entity = some name)
    (hp : p.states.length = r.groups.groups.length) {c : Capability}
    (h : Resolvable r.groups r.registry c p) :
    (r.resolveTraced p c).events = moveTrace r.groups r.registry name [c] p := by
  have hok : (Traced.ofExcept (r.resolve c p)).outcome =
      .ok (resolved r.groups r.registry r.suffix c p) := (r.resolve_eq_ok_iff hp).mpr ⟨h, rfl⟩
  rw [resolveTraced, Traced.events_bind_of_ok hok, Traced.events_ofExcept, List.nil_append,
    Traced.events_bind_of_ok (r.outcome_moveEvents p _), Traced.events_pure, List.append_nil,
    r.events_moveEvents hr]

/-- One that cannot be resolved leaves nothing. -/
theorem events_resolveTraced_of_error {c : Capability} {e : Failure}
    (h : r.resolve c p = .error e) :
    (r.resolveTraced p c).events = [] :=
  Traced.events_bind_of_error (x := Traced.ofExcept (r.resolve c p)) h _

end Resolver

theorem Rules.flatMap_moveTrace (m : GroupMap) (registry : Registry) (entity : String)
    (capabilities : List Capability) (p : Permutation) :
    (capabilities.flatMap fun c => moveTrace m registry entity [c] p) =
      moveTrace m registry entity capabilities p := by
  induction capabilities with
  | nil => rfl
  | cons c rest ih =>
    rw [List.flatMap_cons, ih, moveTrace, moveTrace, moveTrace, ← List.map_append,
      ← List.filter_append]
    rfl

/-! ### Generation -/

section Generation

variable {settings : Settings} {registry : Registry} {entity : Entity} {m : GroupMap}

theorem exists_resolve_ok_iff (settings : Settings) (entity : Entity) {c : Capability}
    {p : Permutation} (hp : p ∈ Permutation.enumerate m.stateLists) :
    (∃ x, (Assembler.ofEntity settings registry entity m).resolver.resolve c p = .ok x) ↔
      Resolvable m registry c p := by
  have hsize : p.states.length = m.groups.length := (GroupMap.mem_enumerate.mp hp).2.size
  constructor
  · rintro ⟨_, h⟩
    exact ((Resolver.resolve_eq_ok_iff _ hsize).mp h).1
  · exact fun h => ⟨_, (Resolver.resolve_eq_ok_iff _ hsize).mpr ⟨h, rfl⟩⟩

theorem FirstFault.mem {before : List Permutation} {p : Permutation} {earlier : List Capability}
    (h : FirstFault registry entity m before p earlier) :
    (∀ q ∈ before, q ∈ Permutation.enumerate m.stateLists) ∧
      p ∈ Permutation.enumerate m.stateLists := by
  obtain ⟨after, hperms⟩ := h.enumerated
  rw [hperms]
  exact ⟨fun q hq => by simp [hq], by simp⟩

/-- The resolver fails at the first fault. -/
theorem FirstFault.exists_resolve_error (settings : Settings) {before : List Permutation}
    {p : Permutation} {earlier : List Capability}
    (h : FirstFault registry entity m before p earlier) :
    ∃ c later e, entity.capabilities = earlier ++ c :: later ∧
      (Assembler.ofEntity settings registry entity m).resolver.resolve c p = .error e := by
  obtain ⟨c, later, hcaps, hc⟩ := h.faulty
  obtain ⟨e, he⟩ := Outcome.exists_error_iff.mpr fun hok =>
    hc ((exists_resolve_ok_iff settings entity h.mem.2).mp hok)
  exact ⟨c, later, e, hcaps, he⟩

/-- Capabilities that can be resolved are resolved with their trace. -/
theorem exists_outcome_resolveTraced {capabilities : List Capability} {p : Permutation}
    (hp : p ∈ Permutation.enumerate m.stateLists)
    (h : ∀ c ∈ capabilities, Resolvable m registry c p) :
    ∀ c ∈ capabilities, ∃ x,
      ((Assembler.ofEntity settings registry entity m).resolver.resolveTraced p c).outcome =
        .ok x := by
  intro c hc
  rw [Resolver.outcome_resolveTraced]
  exact (exists_resolve_ok_iff _ _ hp).mpr (h c hc)

/-- So are wrappers. -/
theorem exists_outcome_assembleTraced {p : Permutation}
    (hp : p ∈ Permutation.enumerate m.stateLists)
    (h : ∀ c ∈ entity.capabilities, Resolvable m registry c p) :
    ∃ w, ((Assembler.ofEntity settings registry entity m).assembleTraced p).outcome = .ok w := by
  rw [Assembler.outcome_assembleTraced]
  exact (Assembler.exists_assemble_ok_iff _).mpr fun c hc =>
    (exists_resolve_ok_iff _ _ hp).mpr (h c hc)

/-- **Capabilities that can be resolved leave their moves**, in order. -/
theorem flatMap_events_resolveTraced {capabilities : List Capability} {p : Permutation}
    (hp : p ∈ Permutation.enumerate m.stateLists)
    (h : ∀ c ∈ capabilities, Resolvable m registry c p) :
    (capabilities.flatMap fun c =>
        ((Assembler.ofEntity settings registry entity m).resolver.resolveTraced p c).events) =
      moveTrace m registry entity.name capabilities p := by
  have hsize : p.states.length = m.groups.length := (GroupMap.mem_enumerate.mp hp).2.size
  rw [← flatMap_moveTrace]
  exact List.flatMap_congr fun c hc =>
    Resolver.events_resolveTraced_of_resolvable _ rfl hsize (h c hc)

/-- **A wrapper leaves the moves in its permutation, and is then assembled.** -/
theorem events_assembleTraced_of_resolvable {p : Permutation}
    (hp : p ∈ Permutation.enumerate m.stateLists)
    (h : ∀ c ∈ entity.capabilities, Resolvable m registry c p) :
    ((Assembler.ofEntity settings registry entity m).assembleTraced p).events =
      wrapperTrace settings registry entity m p := by
  set a := Assembler.ofEntity settings registry entity m
  have hsize : p.states.length = m.groups.length := (GroupMap.mem_enumerate.mp hp).2.size
  have hresolve : (Traced.forEach (a.resolver.resolveTraced p) a.entity.capabilities).outcome =
      .ok (entity.capabilities.map fun c => resolved m registry settings.nameSuffix c p) := by
    simp only [Traced.outcome_forEach, Resolver.outcome_resolveTraced]
    exact (Outcome.mapM_eq_ok_map fun c _ _ => a.resolver.resolve_eq_ok_iff hsize).mpr ⟨h, rfl⟩
  have hmoves : (Traced.forEach (a.resolver.resolveTraced p) a.entity.capabilities).events =
      moveTrace m registry entity.name entity.capabilities p :=
    (Traced.events_forEach_of_ok (exists_outcome_resolveTraced hp h)).trans
      (flatMap_events_resolveTraced hp h)
  have hmembers : a.members (entity.capabilities.map fun c =>
      resolved m registry settings.nameSuffix c p) = (a.expected p).members :=
    a.members_resolved entity.capabilities p
  rw [Assembler.assembleTraced, Traced.events_bind_of_ok hresolve, hmoves]
  simp only [hmembers]
  rfl

/-- A permutation with a fault leaves the moves before it. -/
theorem events_assembleTraced_of_error {p : Permutation}
    (hp : p ∈ Permutation.enumerate m.stateLists) {earlier later : List Capability} {c : Capability}
    (hcaps : entity.capabilities = earlier ++ c :: later)
    (hearlier : ∀ d ∈ earlier, Resolvable m registry d p) {e : Failure}
    (hc : (Assembler.ofEntity settings registry entity m).resolver.resolve c p = .error e) :
    ((Assembler.ofEntity settings registry entity m).assembleTraced p).events =
      moveTrace m registry entity.name earlier p := by
  set a := Assembler.ofEntity settings registry entity m
  have hcaps : a.entity.capabilities = earlier ++ c :: later := hcaps
  have hall : ∀ d ∈ earlier, ∃ x, (a.resolver.resolveTraced p d).outcome = .ok x :=
    exists_outcome_resolveTraced hp hearlier
  have hfails : (a.resolver.resolveTraced p c).outcome = .error e := by
    rw [Resolver.outcome_resolveTraced]
    exact hc
  have hforEach : (Traced.forEach (a.resolver.resolveTraced p) a.entity.capabilities).outcome =
      .error e := by
    rw [Traced.outcome_forEach, hcaps]
    exact Outcome.mapM_eq_error.mpr ⟨earlier, c, later, rfl, hall, hfails⟩
  rw [Assembler.assembleTraced, Traced.events_bind_of_error hforEach, hcaps,
    Traced.events_forEach_of_error hall hfails, a.resolver.events_resolveTraced_of_error hc,
    List.append_nil]
  exact flatMap_events_resolveTraced hp hearlier

/-- **The wrappers without a fault.** -/
theorem events_wrappers_of_resolvable
    (h : ∀ p ∈ Permutation.enumerate m.stateLists,
      ∀ c ∈ entity.capabilities, Resolvable m registry c p) :
    (Traced.forEach (Assembler.ofEntity settings registry entity m).assembleTraced
        (Permutation.enumerate m.stateLists)).events =
      (Permutation.enumerate m.stateLists).flatMap (wrapperTrace settings registry entity m) := by
  rw [Traced.events_forEach_of_ok fun p hp => exists_outcome_assembleTraced hp (h p hp)]
  exact List.flatMap_congr fun p hp => events_assembleTraced_of_resolvable hp (h p hp)

/-- **The wrappers up to the first fault.** -/
theorem events_wrappers_of_firstFault {before : List Permutation} {p : Permutation}
    {earlier : List Capability} (h : FirstFault registry entity m before p earlier) :
    (Traced.forEach (Assembler.ofEntity settings registry entity m).assembleTraced
        (Permutation.enumerate m.stateLists)).events =
      before.flatMap (wrapperTrace settings registry entity m) ++
        moveTrace m registry entity.name earlier p := by
  obtain ⟨hbefore, hp⟩ := h.mem
  obtain ⟨c, later, e, hcaps, he⟩ := h.exists_resolve_error settings
  obtain ⟨after, hperms⟩ := h.enumerated
  have hfails :
      ((Assembler.ofEntity settings registry entity m).assembleTraced p).outcome = .error e := by
    rw [Assembler.outcome_assembleTraced]
    exact (Assembler.assemble_eq_error_iff _).mpr ⟨earlier, c, later, hcaps,
      fun d hd => (exists_resolve_ok_iff _ _ hp).mpr (h.resolved d hd), he⟩
  rw [hperms, Traced.events_forEach_of_error
      (fun q hq => exists_outcome_assembleTraced (hbefore q hq) (h.sound q hq)) hfails,
    events_assembleTraced_of_error hp hcaps h.resolved he]
  congr 1
  exact List.flatMap_congr fun q hq =>
    events_assembleTraced_of_resolvable (hbefore q hq) (h.sound q hq)

theorem events_enumeratingEvents (m : GroupMap) :
    (enumeratingEvents m.stateLists).events =
      if m.groups.isEmpty then [] else [.enumerating (m.groups.map StateGroup.size)] := by
  unfold enumeratingEvents GroupMap.stateLists
  rw [List.isEmpty_map, List.map_map]
  split <;> rfl

/-- Repeated states are found before anything is reported. -/
theorem events_generateTraced_of_repeated (hm : m.groups = entity.groups)
    (hn : ¬ m.allStates.Nodup) :
    (generateTraced settings registry entity).events = [] := by
  have hgroups : GroupMap.ofGroups entity.groups = .ok m := GroupMap.ofGroups_eq_ok_iff.mpr hm
  obtain ⟨e, he⟩ : ∃ e, m.validate (some entity.name) = .error e :=
    Outcome.exists_error_iff.mpr fun ⟨_, hok⟩ => hn (GroupMap.validate_eq_ok_iff.mp hok)
  simp only [generateTraced, Traced.mapFailure, expandTraced, Traced.events_bind,
    Traced.outcome_ofExcept, Traced.events_ofExcept, hgroups, he, List.append_nil]

/-- **The start, the wrappers, and the unit if there is one.** -/
theorem events_generateTraced (hm : m.groups = entity.groups) (hu : m.allStates.Nodup) :
    (generateTraced settings registry entity).events =
      openingTrace m ++
        (Traced.forEach (Assembler.ofEntity settings registry entity m).assembleTraced
          (Permutation.enumerate m.stateLists)).events ++
        closingTrace entity m (generate settings registry entity) := by
  have hgroups : GroupMap.ofGroups entity.groups = .ok m := GroupMap.ofGroups_eq_ok_iff.mpr hm
  have hvalid : m.validate (some entity.name) = .ok () := GroupMap.validate_eq_ok_iff.mpr hu
  rw [← outcome_generateTraced]
  simp only [generateTraced, Traced.mapFailure, expandTraced, Traced.events_bind,
    Traced.outcome_bind, Traced.outcome_ofExcept, Traced.events_ofExcept, Traced.outcome_emit,
    Traced.events_emit, hgroups, hvalid, outcome_enumeratingEvents, events_enumeratingEvents]
  simp only [Bind.bind, Except.bind, hvalid]
  -- the stages behind the enumeration: the wrappers, the unit, the check of its references
  cases (Traced.forEach (Assembler.ofEntity settings registry entity m).assembleTraced
      (Permutation.enumerate m.stateLists)).outcome with
  | error e => simp [Except.mapError, openingTrace, closingTrace]
  | ok wrappers =>
    cases hmake : CompilationUnit.make entity wrappers settings.nameSuffix with
    | error e => simp [Except.mapError, openingTrace, closingTrace, hmake]
    | ok u =>
      cases hcheck : checkReferences u with
      | error e => simp [Except.mapError, openingTrace, closingTrace, hmake, hcheck]
      | ok v => simp [Except.mapError, openingTrace, closingTrace, hmake, hcheck]

/-- **Every way to end leaves a sequence of events.** -/
theorem Ends.exists_leaves {o : Except Failure CompilationUnit}
    (h : Ends settings registry entity m o) :
    ∃ events, Leaves settings registry entity m events o := by
  cases h with
  | repeated hn => exact ⟨_, .repeated hn⟩
  | @failing before after p earlier later c e hu hperms hbefore hcaps hearlier hc =>
    have hp : p ∈ Permutation.enumerate m.stateLists := by simp [hperms]
    have hfault : FirstFault registry entity m before p earlier := by
      refine ⟨⟨after, hperms⟩, fun q hq d hd => ?_, fun d hd => ?_, c, later, hcaps, fun hr => ?_⟩
      · exact (exists_resolve_ok_iff _ _ (by simp [hperms, hq])).mp (hbefore q hq d hd)
      · exact (exists_resolve_ok_iff _ _ hp).mp (hearlier d hd)
      · exact Outcome.exists_error_iff.mp ⟨e, hc⟩ ((exists_resolve_ok_iff _ _ hp).mpr hr)
    exact ⟨_, .failing hu hfault⟩
  | collision hu hok hp hq hne hname =>
    have hr := fun p hp c hc => (exists_resolve_ok_iff _ _ hp).mp (hok p hp c hc)
    exact ⟨_, .collision hu hr hp hq hne hname⟩
  | unit he => exact ⟨_, .unit he⟩

/-- **What is left is the trace.** -/
theorem Leaves.eq_events (hm : m.groups = entity.groups) {events : List Event}
    (h : Leaves settings registry entity m events (generate settings registry entity)) :
    events = (generateTraced settings registry entity).events := by
  generalize ho : generate settings registry entity = o at h
  cases h with
  | repeated hn => rw [events_generateTraced_of_repeated hm hn]
  | failing hu hfault =>
    rw [events_generateTraced hm hu, ho, events_wrappers_of_firstFault hfault, closingTrace,
      List.append_nil, List.append_assoc]
  | collision hu hok =>
    rw [events_generateTraced hm hu, ho, events_wrappers_of_resolvable hok, closingTrace,
      List.append_nil]
  | unit he =>
    rw [events_generateTraced hm he.unique, ho, events_wrappers_of_resolvable he.resolvable,
      closingTrace]

theorem leaves_iff (hm : m.groups = entity.groups) {events : List Event} :
    Leaves settings registry entity m events (generate settings registry entity) ↔
      events = (generateTraced settings registry entity).events := by
  refine ⟨Leaves.eq_events hm, ?_⟩
  rintro rfl
  obtain ⟨events, h⟩ := (ends_generateBy Schedule.inOrder settings registry hm).exists_leaves
  exact Leaves.eq_events hm h ▸ h

end Generation

/-! ### Wrappers and units among the events -/

namespace Event

/-- The event is about a wrapper that has been assembled. -/
def isAssembled : Event → Bool
  | .assembled .. => true
  | _ => false

/-- The event is about a unit. -/
def isGenerated : Event → Bool
  | .generated .. => true
  | _ => false

end Event

section Kinds

variable {settings : Settings} {registry : Registry} {entity : Entity} {m : GroupMap}

/-- No move is an event of a kind that has no moves. -/
theorem Rules.filter_moveTrace {kind : Event → Bool}
    (h : ∀ entity c p s targets, kind (.moved entity c p s targets) = false) (name : String)
    (capabilities : List Capability) (p : Permutation) :
    (moveTrace m registry name capabilities p).filter kind = [] := by
  rw [List.filter_eq_nil_iff]
  intro e he
  obtain ⟨c, -, rfl⟩ := List.mem_map.mp he
  simp [move, h]

theorem filter_isAssembled_openingTrace : (openingTrace m).filter Event.isAssembled = [] := by
  unfold openingTrace
  split <;> rfl

theorem filter_isGenerated_openingTrace : (openingTrace m).filter Event.isGenerated = [] := by
  unfold openingTrace
  split <;> rfl

/-- **One wrapper is assembled for each permutation.** -/
theorem filter_isAssembled_wrapperTraces (ps : List Permutation) :
    (ps.flatMap (wrapperTrace settings registry entity m)).filter Event.isAssembled =
      ps.map fun p =>
        assemblyEvent entity ((Assembler.ofEntity settings registry entity m).expected p) := by
  rw [List.filter_flatMap, List.map_eq_flatMap]
  refine List.flatMap_congr fun p _ => ?_
  rw [wrapperTrace, List.filter_append, filter_moveTrace fun _ _ _ _ _ => rfl]
  rfl

theorem filter_isGenerated_wrapperTraces (ps : List Permutation) :
    (ps.flatMap (wrapperTrace settings registry entity m)).filter Event.isGenerated = [] := by
  rw [List.filter_flatMap, List.flatMap_eq_nil_iff]
  intro p _
  rw [wrapperTrace, List.filter_append, filter_moveTrace fun _ _ _ _ _ => rfl]
  rfl

/-- **The unit is reported exactly if there is one.** -/
theorem Leaves.filter_isGenerated {events : List Event} {o : Except Failure CompilationUnit}
    (h : Leaves settings registry entity m events o) :
    events.filter Event.isGenerated = closingTrace entity m o := by
  cases h with
  | repeated => rfl
  | failing =>
    rw [List.filter_append, List.filter_append, filter_isGenerated_openingTrace,
      filter_isGenerated_wrapperTraces, filter_moveTrace fun _ _ _ _ _ => rfl]
    rfl
  | collision =>
    rw [List.filter_append, filter_isGenerated_openingTrace, filter_isGenerated_wrapperTraces]
    rfl
  | unit =>
    rw [List.filter_append, List.filter_append, filter_isGenerated_openingTrace,
      filter_isGenerated_wrapperTraces]
    rfl

end Kinds

/-! ### The log -/

/-- **A log that takes debugging records keeps all events.** -/
theorem Log.filter_takes_ofEvent {log : Log} {handler : Handler}
    (hlog : log.effectiveLevel ≤ Record.eventLevel)
    (hhandler : handler.level.value ≤ Record.eventLevel) (events : List Event) :
    (events.map Record.ofEvent).filter (log.takes handler) = events.map Record.ofEvent := by
  rw [List.filter_eq_self]
  intro r hr
  obtain ⟨e, -, rfl⟩ := List.mem_map.mp hr
  have hrank : (Record.ofEvent e).rank = Record.eventLevel := rfl
  simp [Log.takes, hrank, hlog, hhandler]

/-! ### The whole run -/

section Run

variable {settings : Settings} {registry : Registry} {entity : Entity} {m : GroupMap}

/-- **A fault ends the run where it occurs.** -/
theorem FirstFault.leaves (hm : m.groups = entity.groups) (hu : m.allStates.Nodup)
    {before : List Permutation} {p : Permutation} {earlier : List Capability}
    (h : FirstFault registry entity m before p earlier) :
    Leaves settings registry entity m
      (openingTrace m ++ before.flatMap (wrapperTrace settings registry entity m) ++
        moveTrace m registry entity.name earlier p)
      (generate settings registry entity) := by
  obtain ⟨hbefore, hp⟩ := h.mem
  obtain ⟨c, later, e, hcaps, he⟩ := h.exists_resolve_error settings
  obtain ⟨after, hperms⟩ := h.enumerated
  have hends : Ends settings registry entity m (.error e) :=
    .failing hu hperms
      (fun q hq d hd => (exists_resolve_ok_iff _ _ (hbefore q hq)).mpr (h.sound q hq d hd)) hcaps
      (fun d hd => (exists_resolve_ok_iff _ _ hp).mpr (h.resolved d hd)) he
  have hgenerate : generate settings registry entity = .error e :=
    (ends_generateBy Schedule.inOrder settings registry hm).unique hends
  rw [hgenerate]
  exact .failing hu h

/-- **A collision is found when all wrappers are there.** -/
theorem leaves_of_collision (hm : m.groups = entity.groups) (hu : m.allStates.Nodup)
    (hr : ∀ p ∈ Permutation.enumerate m.stateLists, ∀ c ∈ entity.capabilities,
      Resolvable m registry c p)
    {p q : Permutation} (hp : p ∈ Permutation.enumerate m.stateLists)
    (hq : q ∈ Permutation.enumerate m.stateLists) (hne : p ≠ q)
    (hname : p.typeName settings.nameSuffix = q.typeName settings.nameSuffix) :
    Leaves settings registry entity m
      (openingTrace m ++
        (Permutation.enumerate m.stateLists).flatMap (wrapperTrace settings registry entity m))
      (generate settings registry entity) := by
  have hok := fun p hp c hc => (exists_resolve_ok_iff settings entity hp).mpr (hr p hp c hc)
  have hends := Ends.collision hu hok hp hq hne hname
  have hgenerate := (ends_generateBy Schedule.inOrder settings registry hm).unique hends
  change generate settings registry entity = _ at hgenerate
  rw [hgenerate]
  exact .collision hu hr hp hq hne hname

/-- **The run up to the first fault**: one wrapper for each permutation before it. -/
theorem FirstFault.filter_isAssembled (hm : m.groups = entity.groups) (hu : m.allStates.Nodup)
    {before : List Permutation} {p : Permutation} {earlier : List Capability}
    (h : FirstFault registry entity m before p earlier) :
    (generateTraced settings registry entity).events.filter Event.isAssembled =
      before.map fun q =>
        assemblyEvent entity ((Assembler.ofEntity settings registry entity m).expected q) := by
  rw [← (h.leaves hm hu).eq_events hm, List.filter_append, List.filter_append,
    filter_isAssembled_openingTrace, filter_isAssembled_wrapperTraces,
    filter_moveTrace fun _ _ _ _ _ => rfl, List.nil_append, List.append_nil]

end Run

/-- **The trace mirrors the run.** What generation by one worker leaves is what the rules call for:
nothing if a state name is repeated; the wrappers before the first fault, and then the moves before
the fault; all wrappers, and behind them the unit, if there is one. A log that takes debugging
records keeps all of it. -/
theorem trace_mirrors_run (settings : Settings) (registry : Registry) {entity : Entity}
    {m : GroupMap} (hm : m.groups = entity.groups) :
    (∀ events, Leaves settings registry entity m events (generate settings registry entity) ↔
        events = (generateTraced settings registry entity).events) ∧
      (generateTraced settings registry entity).events.filter Event.isGenerated =
        closingTrace entity m (generate settings registry entity) ∧
      (m.allStates.Nodup → ∀ before p earlier, FirstFault registry entity m before p earlier →
        (generateTraced settings registry entity).events =
            openingTrace m ++ before.flatMap (wrapperTrace settings registry entity m) ++
              moveTrace m registry entity.name earlier p ∧
          ((generateTraced settings registry entity).events.filter Event.isAssembled).length =
            before.length) ∧
      (m.allStates.Nodup →
        (∀ p ∈ Permutation.enumerate m.stateLists, ∀ c ∈ entity.capabilities,
          Resolvable m registry c p) →
        ∀ p ∈ Permutation.enumerate m.stateLists, ∀ q ∈ Permutation.enumerate m.stateLists, p ≠ q →
        p.typeName settings.nameSuffix = q.typeName settings.nameSuffix →
        (generateTraced settings registry entity).events =
          openingTrace m ++
            (Permutation.enumerate m.stateLists).flatMap
              (wrapperTrace settings registry entity m)) ∧
      ∀ (log : Log) (handler : Handler), log.effectiveLevel ≤ Record.eventLevel →
        handler.level.value ≤ Record.eventLevel →
        ((generateTraced settings registry entity).events.map Record.ofEvent).filter
          (log.takes handler) =
          (generateTraced settings registry entity).events.map Record.ofEvent := by
  refine ⟨fun _ => leaves_iff hm, ((leaves_iff hm).mpr rfl).filter_isGenerated,
    fun hu before p earlier h => ⟨((h.leaves hm hu).eq_events hm).symm, ?_⟩,
    fun hu hr p hp q hq hne hname =>
      ((leaves_of_collision hm hu hr hp hq hne hname).eq_events hm).symm,
    fun _ _ hlog hhandler => Log.filter_takes_ofEvent hlog hhandler _⟩
  rw [h.filter_isAssembled hm hu, List.length_map]

/-- A lamp with a level that cannot be raised. -/
def jammedLamp : Entity :=
  { lamp with
    capabilities := lamp.capabilities.map fun c =>
      if c.name = "raise" then { c with transitions := [TransitionRule.always "Nowhere"] } else c }

/-- While the lamp is off nothing is wrong; on the low level it can be pressed, and not raised. -/
theorem jammedLamp_firstFault :
    FirstFault Registry.builtin jammedLamp lampGroups [⟨["Off", "Low"]⟩, ⟨["Off", "High"]⟩]
      ⟨["On", "Low"]⟩ (jammedLamp.capabilities.take 1) := by
  have hresolves : ∀ p ∈ Permutation.enumerate lampGroups.stateLists, ∀ c ∈ jammedLamp.capabilities,
      (Except.isOk
        ((Assembler.ofEntity {} Registry.builtin jammedLamp lampGroups).resolver.resolve c p) =
        true ↔ (c.name = "raise" → p ≠ ⟨["On", "Low"]⟩)) := by
    decide
  have hiff : ∀ p ∈ Permutation.enumerate lampGroups.stateLists, ∀ c ∈ jammedLamp.capabilities,
      (Resolvable lampGroups Registry.builtin c p ↔ (c.name = "raise" → p ≠ ⟨["On", "Low"]⟩)) := by
    intro p hp c hc
    rw [← hresolves p hp c hc, ← exists_resolve_ok_iff {} jammedLamp hp]
    cases (Assembler.ofEntity {} Registry.builtin jammedLamp lampGroups).resolver.resolve c p <;>
      simp [Except.isOk, Except.toBool]
  have hfirst : ∀ q ∈ [(⟨["Off", "Low"]⟩ : Permutation), ⟨["Off", "High"]⟩],
      q ∈ Permutation.enumerate lampGroups.stateLists ∧ q ≠ ⟨["On", "Low"]⟩ := by
    decide
  have hpress : ∀ d ∈ jammedLamp.capabilities.take 1, d.name ≠ "raise" := by decide
  refine ⟨⟨[⟨["On", "High"]⟩], rfl⟩, fun q hq d hd => ?_, fun d hd => ?_, _, _, rfl, fun hr => ?_⟩
  · exact (hiff q (hfirst q hq).1 d hd).mpr fun _ => (hfirst q hq).2
  · exact (hiff _ (by decide) d (List.mem_of_mem_take hd)).mpr fun h => absurd h (hpress d hd)
  · exact (hiff _ (by decide) _ (by decide)).mp hr rfl rfl

/-- The log as it is set up to show everything. -/
def debugLog : Log := (Log.configure {} { level := .text "debug" }).1

/-- The run of the jammed lamp ends in its third permutation, behind the move of its first
capability. -/
theorem trace_mirrors_run_jammedLamp :
    lampGroups.groups = jammedLamp.groups ∧
      Leaves {} Registry.builtin jammedLamp lampGroups
        [.validated 2 4, .enumerating [2, 2],
          .moved "Lamp" "press" ["Off", "Low"] ["On", "Low"] ["On"],
          .assembled "Lamp" "OffLowState" 1 ["Off", "Low"],
          .moved "Lamp" "press" ["Off", "High"] ["On", "High"] ["On"],
          .assembled "Lamp" "OffHighState" 1 ["Off", "High"],
          .moved "Lamp" "press" ["On", "Low"] ["Off", "Low"] ["Off"]]
        (generate {} Registry.builtin jammedLamp) ∧
      ((generateTraced {} Registry.builtin jammedLamp).events.filter Event.isAssembled).length = 2 ∧
      ∀ handler ∈ debugLog.handlers,
        ((generateTraced {} Registry.builtin jammedLamp).events.map Record.ofEvent).filter
            (debugLog.takes handler) =
          (generateTraced {} Registry.builtin jammedLamp).events.map Record.ofEvent := by
  have hm : lampGroups.groups = jammedLamp.groups := rfl
  obtain ⟨hleaves, -, hfault, -, hlog⟩ := trace_mirrors_run {} Registry.builtin hm
  refine ⟨hm, (hleaves _).mpr rfl, (hfault (by decide) _ _ _ jammedLamp_firstFault).2,
    fun handler hh => ?_⟩
  obtain rfl : handler = ⟨.number 10, .readable false⟩ := List.mem_singleton.mp hh
  exact hlog _ _ (by decide) (by decide)

end Typestate
