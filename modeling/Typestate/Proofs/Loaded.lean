import Typestate.Proofs.Acceptance
import Typestate.Proofs.Criterion
import Typestate.Proofs.References

/-! # Loaded descriptions

The models refuse empty names, the map of groups refuses repeated ones. The schema has looked for
both, so that with the built-in relations a description that was loaded is generated, or reported as
inconsistent.

* `Entity.built`: the entity made again by the models' own checks; `built_of_wellNamed`: nothing is
  refused where the schema accepts.
* `Report.Concerns`: the report of an inconsistency of an entity; `Ends.concerns`: generation with
  the built-in relations fails with such a report only.
* `loaded_generates_or_reports`: what was loaded can be generated, or is reported. -/

namespace Typestate

/-! ### The models' own checks -/

/-- The entity made from its groups and capabilities by the checks of the models. -/
def Entity.built (e : Entity) : Except Failure Entity := do
  let groups ← e.groups.mapM fun g => StateGroup.make g.name g.states
  let capabilities ← e.capabilities.mapM Capability.make
  Entity.make { e with groups := groups, capabilities := capabilities }

namespace Description

/-- **The models refuse nothing that the schema accepts.** -/
theorem built_of_wellNamed {e : Entity} (h : WellNamed e) : e.built = .ok e := by
  have hgroups : (e.groups.mapM fun g => StateGroup.make g.name g.states) = .ok e.groups :=
    Outcome.mapM_eq_ok_self fun g hg => if_neg (by simpa using h.groups.1 g hg)
  have hcapabilities : e.capabilities.mapM Capability.make = .ok e.capabilities :=
    Outcome.mapM_eq_ok_self fun c hc => if_neg (by simpa using h.capabilities.1 c hc)
  have hname : e.make = .ok e := if_neg (by simpa using h.name)
  rw [Entity.built, hgroups, Outcome.bind_eq_ok]
  refine ⟨_, rfl, ?_⟩
  rw [hcapabilities, Outcome.bind_eq_ok]
  exact ⟨_, rfl, hname⟩

end Description

/-! ### What is reported -/

/-- The codes of inconsistencies that generation finds. -/
def Code.inconsistencies : List Code :=
  [.duplicateState, .invalidRelation, .contradictoryCondition, .conflictingAvailability,
   .unknownTarget, .ambiguousTransition, .nameCollision]

/-- The report of an inconsistency of the entity of a name. -/
structure Report.Concerns (r : Report) (name : String) : Prop where
  family : r.family = .inconsistency
  entity : r.site.entity = some name
  code : r.code ∈ Code.inconsistencies

/-- **With the built-in relations generation fails with the report of an inconsistency of the
entity**, and with nothing else. -/
theorem Ends.concerns {settings : Settings} {entity : Entity} {m : GroupMap} {e : Failure}
    (h : Ends settings Registry.builtin entity m (.error e)) :
    ∃ r, e = .report r ∧ r.Concerns entity.name := by
  obtain ⟨r, rfl, hfamily⟩ := h.inconsistent
  refine ⟨r, rfl, hfamily, ?_, ?_⟩
  · generalize ho : Except.error (Failure.report r) = o at h
    cases h with
    | repeated => cases ho; rfl
    | collision => cases ho; rfl
    | unit => cases ho
    | failing _ hperms _ _ _ hc =>
      obtain ⟨own, hown, hentity, -⟩ := (Resolver.fails_of_enumerated _ hperms hc).site rfl
      cases ho
      cases hown
      exact hentity
  · rcases h.code rfl with hcode | hraises
    · revert hcode
      cases r.code <;> decide
    · rw [Registry.code_of_raises_builtin hraises]
      decide

/-- **What was loaded is generated, or reported as inconsistent.** The models accept what the schema
accepts. With the built-in relations, any settings and any schedule, generation gives a unit, or it
reports an inconsistency under the name that stands in the data; it fails in no other way. -/
theorem loaded_generates_or_reports {origin : Option String} {d : Data} {entity : Entity}
    (h : Description.ofData origin d = .ok entity) (schedule : Schedule) (settings : Settings) :
    entity.built = .ok entity ∧
      (∃ name, d.valueAt? "name" = some name ∧ Schema.text name = .valid entity.name) ∧
      ((∃ unit, generateBy schedule settings Registry.builtin entity = .ok unit) ∨
        ∃ r, generateBy schedule settings Registry.builtin entity = .error (.report r) ∧
          r.Concerns entity.name) := by
  have hvalid := Description.ofData_eq_ok_iff.mp h
  have hnamed := Description.wellNamed_of_entity hvalid
  refine ⟨Description.built_of_wellNamed hnamed, ?_, ?_⟩
  · obtain ⟨entries, rfl, hname, -⟩ := Description.entity_eq_valid_iff.mp hvalid
    obtain ⟨name, hfind, htext⟩ := Schema.required_eq_valid_iff.mp hname
    exact ⟨name, hfind, (Schema.nonEmptyText_eq_valid_iff.mp htext).1⟩
  · have hends := ends_generateBy (m := ⟨entity.groups, hnamed.groups.2⟩) schedule settings
      Registry.builtin rfl
    cases hout : generateBy schedule settings Registry.builtin entity with
    | ok unit => exact .inl ⟨unit, rfl⟩
    | error e =>
      rw [hout] at hends
      obtain ⟨r, rfl, hr⟩ := hends.concerns
      exact .inr ⟨r, rfl, hr⟩

/-! ### The lamp as data -/

/-- The lamp, with the given states of its switch. -/
def lampData (power : List String) : Data :=
  Data.ofPairs
    [("name", .text "Lamp"), ("type_parameters", Data.texts ["T"]),
     ("groups", .list
       [Data.ofPairs [("name", .text "Power"), ("states", Data.texts power)],
        Data.ofPairs [("name", .text "Level"), ("states", Data.texts ["Low", "High"])]]),
     ("capabilities", .list
       [Data.ofPairs
         [("name", .text "press"), ("available_for_all", .bool true),
          ("transitions", .list
            [Data.ofPairs [("target", .text "On"), ("when", Data.texts ["Off"])],
             Data.ofPairs [("target", .text "Off"), ("when", Data.texts ["On"])]])],
        Data.ofPairs
         [("name", .text "raise"),
          ("parameters", .list [Data.ofPairs [("name", .text "by"), ("type", .text "T")]]),
          ("available_for", .list
            [Data.ofPairs [("states", Data.texts ["On", "Low"]), ("relation", .text "AND")]]),
          ("transitions", .list [Data.ofPairs [("target", .text "High")]])],
        Data.ofPairs
         [("name", .text "level"), ("returns", .text "T"),
          ("available_for", .list [Data.texts ["On"]])]])]

/-- The lamp is loaded and generated; a lamp whose switch is on twice is loaded and reported. -/
theorem loaded_generates_or_reports_lamp :
    Description.ofData none (lampData ["Off", "On"]) = .ok lamp ∧ lamp.built = .ok lamp ∧
      ∃ twice r, Description.ofData none (lampData ["On", "On"]) = .ok twice ∧
        generateBy Schedule.inOrder {} Registry.builtin twice = .error (.report r) ∧
        r.Concerns "Lamp" := by
  have hlamp : Description.ofData none (lampData ["Off", "On"]) = .ok lamp := rfl
  have htwice : Description.ofData none (lampData ["On", "On"]) =
      .ok { lamp with groups := [⟨"Power", ["On", "On"]⟩, ⟨"Level", ["Low", "High"]⟩] } := rfl
  obtain ⟨hbuilt, -, -⟩ := loaded_generates_or_reports hlamp Schedule.inOrder {}
  obtain ⟨-, -, ⟨unit, hunit⟩ | ⟨r, hr, hconcerns⟩⟩ :=
    loaded_generates_or_reports htwice Schedule.inOrder {}
  · cases hunit
  · exact ⟨hlamp, hbuilt, _, r, htwice, hr, hconcerns⟩

end Typestate
