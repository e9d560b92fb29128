import Typestate.Proofs.Expansion
import Typestate.Proofs.Fault

/-! # How generation ends

Generation looks for faults in a fixed order: repeated states first, then the permutations one by
one and in each the capabilities one by one, then names that several permutations share. It ends
with the first fault, or with the unit if there is none.

* `Ends`: the four ways to end; `Ends.unique`: an entity has one of them only.
* `ends_generateBy`: whatever the schedule, generation ends in one of these ways.
* `generateBy_eq_sequential`: a pool of workers comes to what one worker comes to. -/

namespace Typestate

open Rules

/-- **The first fault of an entity**, or its unit. -/
inductive Ends (settings : Settings) (registry : Registry) (entity : Entity) (m : GroupMap) :
    Except Failure CompilationUnit → Prop where
  /-- Some state name is repeated. -/
  | repeated : ¬ m.allStates.Nodup →
      Ends settings registry entity m
        (.error (.report (GroupMap.duplicateReport (some entity.name) m.duplicateStates)))
  /-- Some capability fails in some permutation, and nothing does before it. -/
  | failing {before after : List Permutation} {p : Permutation} {earlier later : List Capability}
      {c : Capability} {e : Failure} : m.allStates.Nodup →
      Permutation.enumerate m.stateLists = before ++ p :: after →
      (∀ q ∈ before, ∀ d ∈ entity.capabilities, ∃ x,
        (Assembler.ofEntity settings registry entity m).resolver.resolve d q = .ok x) →
      entity.capabilities = earlier ++ c :: later →
      (∀ d ∈ earlier, ∃ x,
        (Assembler.ofEntity settings registry entity m).resolver.resolve d p = .ok x) →
      (Assembler.ofEntity settings registry entity m).resolver.resolve c p = .error e →
      Ends settings registry entity m (.error e)
  /-- Nothing fails, and two permutations have one name. -/
  | collision {p q : Permutation} : m.allStates.Nodup →
      (∀ p ∈ Permutation.enumerate m.stateLists, ∀ c ∈ entity.capabilities, ∃ x,
        (Assembler.ofEntity settings registry entity m).resolver.resolve c p = .ok x) →
      p ∈ Permutation.enumerate m.stateLists → q ∈ Permutation.enumerate m.stateLists → p ≠ q →
      p.typeName settings.nameSuffix = q.typeName settings.nameSuffix →
      Ends settings registry entity m
        (.error (.report (CompilationUnit.collisionReport entity (CompilationUnit.collisions
          ((Permutation.enumerate m.stateLists).map
            (Assembler.ofEntity settings registry entity m).expected)))))
  /-- Nothing is wrong. -/
  | unit {u : CompilationUnit} : Expands settings registry entity m u →
      Ends settings registry entity m (.ok u)

/-- **The codes that generation ends with.** Any other one is raised by a relation. -/
theorem Ends.code {settings : Settings} {registry : Registry} {entity : Entity} {m : GroupMap}
    {e : Failure} (h : Ends settings registry entity m (.error e)) {code : Code}
    (hcode : e.code? = some code) :
    code ∈ [.duplicateState, .conflictingAvailability, .invalidRelation, .unknownTarget,
      .ambiguousTransition, .nameCollision] ∨ registry.Raises code := by
  cases h with
  | repeated =>
    obtain rfl : Code.duplicateState = code := Option.some.inj hcode
    exact .inl (by simp)
  | failing _ hperms _ _ _ hc =>
    have hfails := Resolver.fails_of_enumerated _ hperms hc
    refine (hfails.code _ hcode).imp_left fun h => ?_
    simp only [List.mem_cons, List.not_mem_nil, or_false] at h ⊢
    tauto
  | collision =>
    obtain rfl : Code.nameCollision = code := Option.some.inj hcode
    exact .inl (by simp)

/-! ### Reports name their entity -/

/-- The entity is put into reports that name none; a failure of the resolver names it already. -/
theorem Resolver.Fails.mapSite_withEntity {r : Resolver} {name : String} (hr : r.entity = some name)
    {c : Capability} {p : Permutation} {e : Failure} (h : r.Fails c p e) :
    e.mapSite (Site.withEntity name) = e := by
  have hfailure : ∀ code message states,
      (r.failure code message c p states).mapSite (Site.withEntity name) =
        r.failure code message c p states := fun code message states => by
    simp [Resolver.failure, Failure.mapSite, Report.inconsistent, Draft.report, Site.withEntity, hr]
  cases h with
  | conflict => exact hfailure _ _ _
  | unknown => exact hfailure _ _ _
  | ambiguous => exact hfailure _ _ _
  | condition _ hholds =>
    obtain ⟨d, -, rfl⟩ := (r.holds_eq_error_iff).mp hholds
    cases d with
    | report report =>
      -- whatever the relation left out or left empty, `filled` has put a name there
      by_cases hf : report.family = .inconsistency
      · have hnamed : ∃ own, orName report.site.entity r.entity = some own := by
          rw [hr]
          unfold orName
          split
          · split <;> exact ⟨_, rfl⟩
          · exact ⟨_, rfl⟩
        obtain ⟨own, hown⟩ := hnamed
        simp [Failure.mapSite, hf, Site.filled, Site.withEntity, hown]
      · simp [Failure.mapSite, hf]
    | _ => rfl

/-! ### The four ways to end -/

namespace Assembler

variable (a : Assembler)

theorem exists_assemble_ok_iff {p : Permutation} :
    (∃ w, a.assemble p = .ok w) ↔
      ∀ c ∈ a.entity.capabilities, ∃ x, a.resolver.resolve c p = .ok x := by
  rw [← Outcome.exists_mapM_ok_iff]
  simp only [assemble, assembleOnly, resolveAll_eq_mapM, Outcome.bind_eq_ok]
  constructor
  · rintro ⟨_, xs, hxs, -⟩
    exact ⟨xs, hxs⟩
  · rintro ⟨xs, hxs⟩
    exact ⟨_, xs, hxs, rfl⟩

/-- **All permutations can be assembled exactly if no capability fails.** -/
theorem exists_mapM_assemble_ok_iff {ps : List Permutation} :
    (∃ ws, ps.mapM a.assemble = .ok ws) ↔
      ∀ p ∈ ps, ∀ c ∈ a.entity.capabilities, ∃ x, a.resolver.resolve c p = .ok x := by
  simp only [Outcome.exists_mapM_ok_iff, exists_assemble_ok_iff]

theorem assemble_eq_error_iff {p : Permutation} {e : Failure} :
    a.assemble p = .error e ↔ ∃ earlier c later, a.entity.capabilities = earlier ++ c :: later ∧
      (∀ d ∈ earlier, ∃ x, a.resolver.resolve d p = .ok x) ∧ a.resolver.resolve c p = .error e := by
  rw [assemble, assembleOnly, resolveAll_eq_mapM, Outcome.bind_eq_error, Outcome.mapM_eq_error]
  simp

/-- **Assembling all permutations fails with the first capability that fails in the first
permutation in which one does.** -/
theorem mapM_assemble_eq_error_iff {ps : List Permutation} {e : Failure} :
    ps.mapM a.assemble = .error e ↔ ∃ before p after, ps = before ++ p :: after ∧
      (∀ q ∈ before, ∀ d ∈ a.entity.capabilities, ∃ x, a.resolver.resolve d q = .ok x) ∧
      ∃ earlier c later, a.entity.capabilities = earlier ++ c :: later ∧
        (∀ d ∈ earlier, ∃ x, a.resolver.resolve d p = .ok x) ∧
        a.resolver.resolve c p = .error e := by
  simp only [Outcome.mapM_eq_error, exists_assemble_ok_iff, assemble_eq_error_iff]

end Assembler

section Stages

variable {settings : Settings} {registry : Registry} {entity : Entity} {m : GroupMap} {d : Failure}

theorem ends_of_validate_error (h : m.validate (some entity.name) = .error d) :
    Ends settings registry entity m (.error (d.mapSite (Site.withEntity entity.name))) := by
  unfold GroupMap.validate at h
  split at h
  · cases h
  · next hne =>
    cases h
    refine .repeated fun hu => hne ?_
    rw [GroupMap.duplicateStates, Names.repeated_eq_nil_iff.mpr hu]
    rfl

theorem ends_of_assemble_error (hu : m.allStates.Nodup)
    (h : (Permutation.enumerate m.stateLists).mapM
      (Assembler.ofEntity settings registry entity m).assemble = .error d) :
    Ends settings registry entity m (.error (d.mapSite (Site.withEntity entity.name))) := by
  obtain ⟨before, p, after, hperms, hbefore, earlier, c, later, hcaps, hearlier, hc⟩ :=
    (Assembler.mapM_assemble_eq_error_iff _).mp h
  have hfails := Resolver.fails_of_enumerated _ hperms hc
  rw [hfails.mapSite_withEntity rfl]
  exact .failing hu hperms hbefore hcaps hearlier hc

theorem ends_of_make_error (hu : m.allStates.Nodup) {wrappers : List Wrapper}
    (hws : (Permutation.enumerate m.stateLists).mapM
      (Assembler.ofEntity settings registry entity m).assemble = .ok wrappers)
    (h : CompilationUnit.make entity wrappers settings.nameSuffix = .error d) :
    Ends settings registry entity m (.error (d.mapSite (Site.withEntity entity.name))) := by
  have hok := (Assembler.exists_mapM_assemble_ok_iff
    (Assembler.ofEntity settings registry entity m)).mp ⟨wrappers, hws⟩
  obtain ⟨-, rfl⟩ := (Assembler.mapM_assemble_eq_ok_iff
    (Assembler.ofEntity settings registry entity m)).mp hws
  unfold CompilationUnit.make at h
  split at h
  · cases h
  · next hn =>
    cases h
    change ¬ (List.map _ (List.map _ (Permutation.enumerate m.stateLists))).Nodup at hn
    -- no permutation is enumerated twice, so a repeated name belongs to two of them
    rw [List.map_map, List.nodup_map_iff_inj_on (GroupMap.nodup_permutations hu)] at hn
    push Not at hn
    obtain ⟨p, hp, q, hq, hname, hne⟩ := hn
    exact .collision hu hok hp hq hne hname

/-- **The check for successors without a wrapper finds nothing.** -/
theorem checkReferences_eq_ok (hm : m.groups = entity.groups) (hu : m.allStates.Nodup)
    {wrappers : List Wrapper}
    (hws : (Permutation.enumerate m.stateLists).mapM
      (Assembler.ofEntity settings registry entity m).assemble = .ok wrappers)
    {u : CompilationUnit} (h : CompilationUnit.make entity wrappers settings.nameSuffix = .ok u) :
    checkReferences u = .ok u := by
  obtain ⟨hentity, rfl, hsuffix⟩ := CompilationUnit.make_eq_ok_iff.mp h
  obtain ⟨hr, hws⟩ := (Assembler.mapM_assemble_eq_ok_iff
    (Assembler.ofEntity settings registry entity m)).mp hws
  have he : Expands settings registry entity m u := ⟨hm, hu, hr, hentity, hsuffix, hws⟩
  exact checkReferences_eq_ok_iff.mpr ⟨he.unresolved_eq_nil, rfl⟩

end Stages

/-- **Whatever the schedule, generation ends with the first fault, or with the unit.** -/
theorem ends_generateBy (schedule : Schedule) (settings : Settings) (registry : Registry)
    {entity : Entity} {m : GroupMap} (hm : m.groups = entity.groups) :
    Ends settings registry entity m (generateBy schedule settings registry entity) := by
  have hgroups : GroupMap.ofGroups entity.groups = .ok m := GroupMap.ofGroups_eq_ok_iff.mpr hm
  cases hout : generateBy schedule settings registry entity with
  | ok u =>
    rw [generateBy, Outcome.mapError_eq_ok, expand_eq_ok_iff] at hout
    obtain ⟨m', h⟩ := hout
    have hm' : m' = m := Except.ok.inj
      ((GroupMap.ofGroups_eq_ok_iff.mpr h.groups).symm.trans hgroups)
    exact .unit (hm' ▸ h)
  | error e =>
    obtain ⟨d, hd, rfl⟩ := Outcome.mapError_eq_error.mp hout
    simp only [expand, Outcome.bind_eq_error, assembleAll_eq_mapM, hgroups, reduceCtorEq,
      Except.ok.injEq, exists_eq_left', false_or] at hd
    rcases hd with hd | ⟨_, hvalid, hd⟩
    · exact ends_of_validate_error hd
    have hu := GroupMap.validate_eq_ok_iff.mp hvalid
    rcases hd with hd | ⟨wrappers, hws, hd⟩
    · exact ends_of_assemble_error hu hd
    rcases hd with hd | ⟨u, hmake, hd⟩
    · exact ends_of_make_error hu hws hd
    · rw [checkReferences_eq_ok hm hu hws hmake] at hd
      cases hd

theorem ends_generate (settings : Settings) (registry : Registry) {entity : Entity}
    (hnames : (entity.groups.map (·.name)).Nodup) :
    Ends settings registry entity ⟨entity.groups, hnames⟩ (generate settings registry entity) :=
  ends_generateBy Schedule.inOrder settings registry rfl

/-! ### One way to end -/

section Unique

variable {settings : Settings} {registry : Registry} {entity : Entity} {m : GroupMap}
  {o o' : Except Failure CompilationUnit}

/-- The stages of generation, without the steps that turn out to change nothing. -/
def stages (settings : Settings) (registry : Registry) (entity : Entity) (m : GroupMap) :
    Except Failure CompilationUnit := do
  m.validate (some entity.name)
  let wrappers ← (Permutation.enumerate m.stateLists).mapM
    (Assembler.ofEntity settings registry entity m).assemble
  CompilationUnit.make entity wrappers settings.nameSuffix

theorem stages_of_nodup (hu : m.allStates.Nodup) :
    stages settings registry entity m =
      (Permutation.enumerate m.stateLists).mapM
        (Assembler.ofEntity settings registry entity m).assemble >>= fun wrappers =>
          CompilationUnit.make entity wrappers settings.nameSuffix := by
  have hvalid : m.validate (some entity.name) = .ok () := GroupMap.validate_eq_ok_iff.mpr hu
  rw [stages, hvalid]
  rfl

/-- **Each way to end is what the stages come to.** -/
theorem Ends.stages_eq (h : Ends settings registry entity m o) :
    stages settings registry entity m = o := by
  cases h with
  | repeated hn =>
    have hne : m.duplicateStates ≠ [] := fun h => hn (Names.repeated_eq_nil_iff.mp h)
    have hinvalid : m.validate (some entity.name) =
        .error (.report (GroupMap.duplicateReport (some entity.name) m.duplicateStates)) :=
      if_neg (by simpa using hne)
    rw [stages, hinvalid]
    rfl
  | failing hu hperms hbefore hcaps hearlier hc =>
    have hfirst := (Assembler.mapM_assemble_eq_error_iff _).mpr
      ⟨_, _, _, hperms, hbefore, _, _, _, hcaps, hearlier, hc⟩
    rw [stages_of_nodup hu, hfirst]
    rfl
  | @collision p q hu hok hp hq hne hname =>
    obtain ⟨ws, hws⟩ := (Assembler.exists_mapM_assemble_ok_iff
      (Assembler.ofEntity settings registry entity m)).mpr hok
    obtain ⟨-, rfl⟩ := (Assembler.mapM_assemble_eq_ok_iff
      (Assembler.ofEntity settings registry entity m)).mp hws
    rw [stages_of_nodup hu, hws]
    refine dif_neg fun hnodup => hne ?_
    rw [List.map_map] at hnodup
    exact List.inj_on_of_nodup_map hnodup hp hq hname
  | unit he =>
    have hws := (Assembler.mapM_assemble_eq_ok_iff
      (Assembler.ofEntity settings registry entity m)).mpr ⟨he.resolvable, he.wrappers_eq⟩
    rw [stages_of_nodup he.unique]
    exact Outcome.bind_eq_ok.mpr
      ⟨_, hws, CompilationUnit.make_eq_ok_iff.mpr ⟨he.entity_eq, rfl, he.suffix_eq⟩⟩

/-- **There is no choice between the ways to end.** -/
theorem Ends.unique (h : Ends settings registry entity m o)
    (h' : Ends settings registry entity m o') : o = o' := h.stages_eq.symm.trans h'.stages_eq

end Unique

/-! ### The schedule -/

/-- **A pool of workers comes to what one worker comes to.** Whatever the number of workers and the
order in which they take up and end the permutations, what they keep is read as the wrappers of the
permutations one after another; the outcome is the one of a single worker, and it is the only one in
which generation can end. -/
theorem generateBy_eq_sequential (schedule : Schedule) (settings : Settings) (registry : Registry)
    {entity : Entity} (hnames : (entity.groups.map (·.name)).Nodup) :
    generateBy schedule settings registry entity =
        generate { settings with maxWorkers := 1 } registry entity ∧
      (∀ a ps steps kept,
        (Pool.work settings.maxWorkers a.assemble ps steps).map Pool.Slot.kept? = kept.map some →
        Pool.collect kept = assembleAll schedule 1 a ps) ∧
      ∀ o, Ends settings registry entity ⟨entity.groups, hnames⟩ o ↔
        o = generateBy schedule settings registry entity := by
  have hends := generateBy_eq schedule settings registry entity ▸
    ends_generate settings registry hnames
  refine ⟨?_, fun a ps steps kept hkept => ?_,
    fun o => ⟨fun h => h.unique hends, fun h => h ▸ hends⟩⟩
  · simp only [generate, generateBy, expand, assembleAll_eq_mapM]
    rfl
  · rw [Pool.collect_kept hkept, assembleAll_eq_mapM]

/-- The last task first. -/
def Schedule.backwards : Schedule := fun n => (List.range n).reverse.flatMap Pool.turn

/-- A lamp that fails while it is on: raising it leads nowhere, and at the high level so does
pressing it. -/
def brokenLamp : Entity :=
  { lamp with
    capabilities := lamp.capabilities.map fun c =>
      { c with transitions := [⟨"Nowhere", Condition.of
          (if c.name = "press" then ["On", "High"] else ["On"]) (.builtin .and)⟩] } }

/-- Two workers with four tasks, who are mostly both busy. -/
def Pool.interleaved : List Pool.Step :=
  [.start 3, .start 1, .finish 3, .start 0, .finish 1, .start 2, .finish 2, .finish 0]

/-- What assembles the wrappers of the broken lamp. -/
def brokenAssembler : Assembler :=
  Assembler.ofEntity { maxWorkers := 2 } Registry.builtin brokenLamp ⟨brokenLamp.groups, by decide⟩

/-- The permutations of the broken lamp. -/
def brokenPermutations : List Permutation :=
  Permutation.enumerate (GroupMap.stateLists ⟨brokenLamp.groups, by decide⟩)

/-- Two workers that begin with the last permutation of the broken lamp report the third one. When
all four permutations are done, the results that are kept are read as those of one worker. -/
theorem generateBy_eq_sequential_lamp :
    (brokenLamp.groups.map (·.name)).Nodup ∧
      (Pool.work 2 brokenAssembler.assemble brokenPermutations Pool.interleaved).map
          Pool.Slot.kept? = (brokenPermutations.map brokenAssembler.assemble).map some ∧
      Pool.collect (brokenPermutations.map brokenAssembler.assemble) =
        assembleAll Schedule.backwards 1 brokenAssembler brokenPermutations ∧
      generateBy Schedule.backwards { maxWorkers := 2 } Registry.builtin brokenLamp =
        generate { maxWorkers := 1 } Registry.builtin brokenLamp ∧
      ∃ r, generateBy Schedule.backwards { maxWorkers := 2 } Registry.builtin brokenLamp =
          .error (.report r) ∧
        r.code = .unknownTarget ∧ r.site.capability = some "raise" ∧
        r.site.permutation = some ["On", "Low"] := by
  have hnames : (brokenLamp.groups.map (·.name)).Nodup := by decide
  obtain ⟨h, hcollect, -⟩ :=
    generateBy_eq_sequential Schedule.backwards { maxWorkers := 2 } Registry.builtin hnames
  have hkept : (Pool.work 2 brokenAssembler.assemble brokenPermutations Pool.interleaved).map
      Pool.Slot.kept? = (brokenPermutations.map brokenAssembler.assemble).map some := rfl
  refine ⟨hnames, hkept, hcollect _ _ _ _ hkept, h, ?_⟩
  rw [h]
  exact ⟨_, rfl, rfl, rfl, rfl⟩

end Typestate
