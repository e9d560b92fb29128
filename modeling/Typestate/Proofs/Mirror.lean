import Mathlib.Logic.Function.Basic
import Typestate.Proofs.Builtin

/-! # Resolution in a mirror

Two resolvers can say the same thing about different states, at different positions or in different
words. A mirror tells how the one looks in the other. If the look-ups agree, and the verdicts of
single conditions do, then so does everything that is put together from these.

* `Mirror`: the image of a state and of a permutation, and the images of a condition. `Mirror.Rule`,
  `Mirror.Image`: the images of a rule and of a capability; `Mirror.Shows`: the image of a result.
* `Mirrors`: what two resolvers have to agree on; failures are related as the use requires.
* `Mirrors.byGroup`, `Mirrors.moveToTargets`, `Mirrors.heldTargets`, `Mirrors.isAvailable`: the two
  agree at each stage.
* `Mirrors.resolve`: the one resolver succeeds with the image of what the other one succeeds with,
  or they fail together.
* `Registry.corresponds_evaluate_builtin`: what the verdicts of the built-in relations depend on. -/

namespace Typestate

open Outcome (Corresponds)

/-- How a resolver looks in another one. -/
structure Mirror where
  state : String → String
  permutation : Permutation → Permutation
  condition : Condition → Condition → Prop

namespace Mirror

variable (μ : Mirror)

/-- The second rule is an image of the first. -/
structure Rule (rule rule' : TransitionRule) : Prop where
  target : rule'.target = μ.state rule.target
  condition : μ.condition rule.condition rule'.condition

/-- The second capability is an image of the first, as far as resolution reads it. -/
structure Image (c c' : Capability) : Prop where
  name : c'.name = c.name
  returns : c'.returns = c.returns
  availableForAll : c'.availableForAll = c.availableForAll
  availability : List.Forall₂ μ.condition c.availability c'.availability
  transitions : List.Forall₂ μ.Rule c.transitions c'.transitions

/-- The second result is the image of the first; the wrappers are named after the successors. -/
inductive Shows (suffix : String) : Result → Result → Prop where
  | value (type : String) : Shows suffix (.value type) (.value type)
  | transition (successor : Permutation) (targets : List String) :
      Shows suffix (.transition successor (successor.typeName suffix) targets)
        (.transition (μ.permutation successor) ((μ.permutation successor).typeName suffix)
          (targets.map μ.state))

/-- The two capabilities are available together, and the second result is the image of the first. -/
structure Resolves (suffix : String) (c c' : Capability) (x x' : Resolved) : Prop where
  capability : x.capability = c
  capability' : x'.capability = c'
  result : Option.Rel (μ.Shows suffix) x.result x'.result

/-- The image of the targets of a group. -/
def entry (e : String × List String) : String × List String := (e.1, e.2.map μ.state)

variable {μ}

/-- The image of a result, where it is given by a function. -/
theorem Resolves.eq {suffix : String} {c c' : Capability} {x x' : Resolved} {f : Result → Result}
    (h : μ.Resolves suffix c c' x x') (hf : ∀ y y', μ.Shows suffix y y' → y' = f y) :
    x' = ⟨c', x.result.map f⟩ := by
  obtain ⟨capability, result⟩ := x
  obtain ⟨capability', result'⟩ := x'
  obtain ⟨-, rfl, hresult⟩ := h
  cases hresult with
  | none => rfl
  | some hshows =>
    obtain rfl := hf _ _ hshows
    rfl

end Mirror

/-- The second resolver agrees with the first on groups, positions and single conditions, and `F`
relates what they fail with. -/
structure Mirrors (μ : Mirror) (F : Failure → Failure → Prop) (r r' : Resolver) : Prop where
  suffix : r'.suffix = r.suffix
  injective : Function.Injective μ.state
  group : ∀ s, r'.groups.groupOf? (μ.state s) = r.groups.groupOf? s
  size : ∀ {p : Permutation}, p.states.length = r.groups.groups.length →
    (μ.permutation p).states.length = r'.groups.groups.length
  put : ∀ {p : Permutation} (s : String), p.states.length = r.groups.groups.length →
    r'.groups.put (μ.permutation p) (μ.state s) = μ.permutation (r.groups.put p s)
  holds : ∀ {c c' : Capability} {condition condition' : Condition} {p : Permutation},
    c'.name = c.name → p.states.length = r.groups.groups.length → μ.condition condition condition' →
      Corresponds Eq F (r.holds condition c p) (r'.holds condition' c' (μ.permutation p))
  conflict : ∀ {c c' : Capability} {p : Permutation}, c'.name = c.name →
    F (r.conflict c p) (r'.conflict c' (μ.permutation p))
  unknown : ∀ {c c' : Capability} {p : Permutation} {states : List String}, c'.name = c.name →
    F (r.unknownTargets c p states) (r'.unknownTargets c' (μ.permutation p) (states.map μ.state))
  ambiguous : ∀ {c c' : Capability} {p : Permutation} {entries : List (String × List String)},
    c'.name = c.name →
      F (r.ambiguousTargets c p entries)
        (r'.ambiguousTargets c' (μ.permutation p) (entries.map μ.entry))

/-! ### Names -/

namespace Names

theorem distinct_map {f : String → String} (hf : Function.Injective f) (names : List String) :
    distinct (names.map f) = (distinct names).map f := by
  induction names with
  | nil => rfl
  | cons s rest ih =>
    rw [List.map_cons, distinct, ih, distinct, List.map_cons, List.filter_map]
    congr 2
    refine List.filter_congr fun t _ => ?_
    simp [hf.eq_iff]

theorem collect_map {α β : Type} (f : α → β) (items : List (String × α)) :
    collect (items.map fun item => (item.1, f item.2)) =
      (collect items).map fun e => (e.1, e.2.map f) := by
  have hlabels : (items.map fun item => (item.1, f item.2)).map (·.1) = items.map (·.1) := by
    rw [List.map_map]
    rfl
  unfold collect
  rw [hlabels, List.map_map]
  refine List.map_congr_left fun label _ => ?_
  rw [List.filter_map, List.map_map, Function.comp_apply, List.map_map]
  rfl

end Names

namespace Mirrors

variable {μ : Mirror} {F : Failure → Failure → Prop} {r r' : Resolver} (h : Mirrors μ F r r')
include h

/-! ### Targets -/

theorem declares (s : String) : r'.groups.declares (μ.state s) = r.groups.declares s := by
  rw [← GroupMap.groupOf?_isSome, ← GroupMap.groupOf?_isSome, h.group]

theorem filter_undeclared (targets : List String) :
    ((targets.map μ.state).filter fun t => !r'.groups.declares t) =
      (targets.filter fun t => !r.groups.declares t).map μ.state := by
  rw [List.filter_map]
  congr 1
  exact List.filter_congr fun t _ => by simp only [Function.comp_apply, h.declares]

/-- **The same groups have targets, and each has the images of its own.** -/
theorem byGroup (targets : List String) :
    r'.byGroup (targets.map μ.state) = (r.byGroup targets).map μ.entry := by
  have hitems : ((targets.map μ.state).filterMap fun t => (r'.groups.groupOf? t).map (·, t)) =
      (targets.filterMap fun t => (r.groups.groupOf? t).map (·, t)).map
        fun item => (item.1, μ.state item.2) := by
    rw [List.filterMap_map, List.map_filterMap]
    refine List.filterMap_congr fun t _ => ?_
    simp only [Function.comp_apply, h.group, Option.map_map]
    rfl
  rw [Resolver.byGroup, hitems, Names.collect_map]
  rfl

theorem filter_contested (targets : List String) :
    ((r'.byGroup (targets.map μ.state)).filter fun e => 1 < e.2.length) =
      ((r.byGroup targets).filter fun e => 1 < e.2.length).map μ.entry := by
  rw [h.byGroup, List.filter_map]
  congr 1
  exact List.filter_congr fun e _ => by simp [Mirror.entry]

theorem foldl_put {p : Permutation} (hp : p.states.length = r.groups.groups.length)
    (targets : List String) :
    (targets.map μ.state).foldl r'.groups.put (μ.permutation p) =
      μ.permutation (targets.foldl r.groups.put p) := by
  induction targets generalizing p with
  | nil => rfl
  | cons t rest ih =>
    rw [List.map_cons, List.foldl_cons, List.foldl_cons, h.put t hp]
    exact ih (by rw [GroupMap.size_put, hp])

theorem agree {targets : List String} (hn : targets.Nodup) :
    r'.groups.Agree (targets.map μ.state) ↔ r.groups.Agree targets := by
  rw [← r'.ambiguous_isEmpty_iff (hn.map h.injective), h.filter_contested, List.isEmpty_map,
    r.ambiguous_isEmpty_iff hn]

/-- **Both move to the images of the targets, or both refuse to.** -/
theorem moveToTargets {c c' : Capability} (hc : c'.name = c.name) {p : Permutation}
    (hp : p.states.length = r.groups.groups.length) {targets : List String} (hn : targets.Nodup) :
    Corresponds (fun q q' => q' = μ.permutation q) F (r.moveToTargets c p targets)
      (r'.moveToTargets c' (μ.permutation p) (targets.map μ.state)) := by
  simp only [Resolver.moveToTargets, h.filter_undeclared, h.filter_contested, List.isEmpty_map]
  cases hunknown : (targets.filter fun t => !r.groups.declares t).isEmpty with
  | false => exact .error (h.unknown hc)
  | true =>
    cases hambiguous : ((r.byGroup targets).filter fun e => 1 < e.2.length).isEmpty with
    | false => exact .error (h.ambiguous hc)
    | true =>
      have hd := r.unknown_isEmpty_iff.mp hunknown
      have hd' : ∀ t ∈ targets.map μ.state, r'.groups.declares t = true := by
        intro u hu
        obtain ⟨t, ht, rfl⟩ := List.mem_map.mp hu
        rw [h.declares, hd t ht]
      have ha := (r.ambiguous_isEmpty_iff hn).mp hambiguous
      simp only [Bool.not_true, Bool.false_eq_true, if_false]
      -- checked targets are put at their places on either side, and no look-up fails
      rw [r.moveTo_byGroup hp hd ha, r'.moveTo_byGroup (h.size hp) hd' ((h.agree hn).mpr ha)]
      exact .ok (h.foldl_put hp targets)

/-! ### Conditions -/

variable {c c' : Capability} {p : Permutation}

/-- **Conditions are tested in the same order**, so the same one is the first to fail. -/
theorem verdicts (hc : c'.name = c.name) (hp : p.states.length = r.groups.groups.length)
    {conditions conditions' : List Condition}
    (hcs : List.Forall₂ μ.condition conditions conditions') :
    Corresponds Eq F (r.verdicts c p conditions)
      (r'.verdicts c' (μ.permutation p) conditions') := by
  induction hcs with
  | nil => exact .ok rfl
  | cons hhead _ ih =>
    refine (h.holds hc hp hhead).bind fun verdict verdict' heq => ?_
    subst heq
    refine ih.bind fun others others' heq => ?_
    subst heq
    exact .ok rfl

theorem isAvailable (hc : μ.Image c c') (hp : p.states.length = r.groups.groups.length) :
    Corresponds Eq F (r.isAvailable c p) (r'.isAvailable c' (μ.permutation p)) := by
  have hempty : c'.availability.isEmpty = c.availability.isEmpty := by
    rw [Bool.eq_iff_iff, List.isEmpty_iff_length_eq_zero, List.isEmpty_iff_length_eq_zero,
      hc.availability.length_eq]
  unfold Resolver.isAvailable
  rw [hc.availableForAll, hempty]
  split
  · split
    · exact .ok rfl
    · exact .error (h.conflict hc.name)
  · refine (h.verdicts hc.name hp hc.availability).bind fun verdicts verdicts' heq => ?_
    subst heq
    exact .ok rfl

theorem heldTargets (hc : c'.name = c.name) (hp : p.states.length = r.groups.groups.length)
    {rules rules' : List TransitionRule} (hrules : List.Forall₂ μ.Rule rules rules') :
    Corresponds (fun held held' => held' = held.map μ.state) F (r.heldTargets c p rules)
      (r'.heldTargets c' (μ.permutation p) rules') := by
  induction hrules with
  | nil => exact .ok rfl
  | cons hrule _ ih =>
    refine (h.holds hc hp hrule.condition).bind fun verdict verdict' heq => ?_
    subst heq
    refine ih.bind fun others others' heq => ?_
    subst heq
    refine .ok ?_
    rw [hrule.target]
    cases verdict <;> rfl

/-! ### Resolution -/

theorem successor (hc : μ.Image c c') (hp : p.states.length = r.groups.groups.length) :
    Corresponds (fun x x' => x' = (μ.permutation x.1, x.2.map μ.state)) F (r.successor c p)
      (r'.successor c' (μ.permutation p)) := by
  refine (h.heldTargets hc.name hp hc.transitions).bind fun held held' heq => ?_
  subst heq
  rw [Names.distinct_map h.injective]
  refine (h.moveToTargets hc.name hp (Names.nodup_distinct held)).bind fun q q' heq => ?_
  subst heq
  exact .ok rfl

theorem result (hc : μ.Image c c') (hp : p.states.length = r.groups.groups.length) :
    Corresponds (μ.Shows r.suffix) F (r.result c p) (r'.result c' (μ.permutation p)) := by
  unfold Resolver.result
  rw [hc.returns]
  cases c.returns with
  | some type => exact .ok (.value type)
  | none =>
    refine (h.successor hc hp).bind fun reached reached' heq => ?_
    subst heq
    rw [h.suffix]
    exact .ok (.transition reached.1 reached.2)

/-- **The image of a capability is resolved to the image of its result**, or both fail. -/
theorem resolve (hc : μ.Image c c') (hp : p.states.length = r.groups.groups.length) :
    Corresponds (μ.Resolves r.suffix c c') F (r.resolve c p) (r'.resolve c' (μ.permutation p)) := by
  refine (h.isAvailable hc hp).bind fun available available' heq => ?_
  subst heq
  cases available with
  | false => exact .ok ⟨rfl, rfl, .none⟩
  | true => exact (h.result hc hp).bind fun x x' hx => .ok ⟨rfl, rfl, .some hx⟩

end Mirrors

/-! ### Verdicts of the built-in relations -/

section Verdicts

variable {m m' : GroupMap} {permutation permutation' wanted wanted' : List String}
  {G : StateGroup → StateGroup → Prop} {F : Failure → Failure → Prop}
  (hcheck : Option.Rel G (Relation.contradiction? m wanted) (Relation.contradiction? m' wanted'))
  (hmet : ∀ kind : RelationKind, kind.Met wanted permutation ↔ kind.Met wanted' permutation')
  (hreport : ∀ g g', G g g' → F (.report (Relation.contradictionReport permutation wanted g))
    (.report (Relation.contradictionReport permutation' wanted' g')))
include hcheck hmet hreport

/-- **A kind judges alike what gives it the same to judge**: a clash to report on both sides or on
none, and the wanted states in the same relation to the permutation. -/
theorem RelationKind.corresponds_holds (kind : RelationKind) :
    Corresponds Eq F (kind.relation.holds m permutation wanted)
      (kind.relation.holds m' permutation' wanted') := by
  cases kind with
  | and =>
    have hverdict : wanted.all (· ∈ permutation) = wanted'.all (· ∈ permutation') := by
      rw [Bool.eq_iff_iff]
      simpa [Met] using hmet .and
    simp only [relation, Relation.conjunction]
    generalize Relation.contradiction? m wanted = found at hcheck ⊢
    generalize Relation.contradiction? m' wanted' = found' at hcheck ⊢
    cases hcheck with
    | none => exact .ok hverdict
    | some hg => exact .error (hreport _ _ hg)
  | or =>
    refine .ok (decide_eq_decide.mpr ?_)
    rw [Relation.countMatches_pos_iff, Relation.countMatches_pos_iff]
    exact hmet .or
  | xor =>
    refine .ok (decide_eq_decide.mpr ?_)
    rw [Relation.countMatches_eq_one_iff, Relation.countMatches_eq_one_iff]
    exact hmet .xor

theorem Registry.corresponds_evaluate_builtin {key : String}
    (hunbound : ∀ message, F (.report (identifierReport key message none))
      (.report (identifierReport key message none))) :
    Corresponds Eq F (Registry.builtin.evaluate key m permutation wanted)
      (Registry.builtin.evaluate key m' permutation' wanted') := by
  simp only [evaluate, getKey, find?_builtin]
  cases RelationKind.ofKey? key with
  | none => exact .error (hunbound _)
  | some kind => exact kind.corresponds_holds hcheck hmet hreport

end Verdicts

end Typestate
