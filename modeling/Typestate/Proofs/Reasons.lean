import Typestate.Proofs.Issues
import Typestate.Proofs.Settings

/-! # Why settings are refused

The check of a single value finds one reason against it at most. So what is said about settings is
what is said about the values that are given for them, at most one issue for each of them, in order.

* `Schema.Checked.IsSingle`: the outcome is a value or one reason, as in all checks of single
  values.
* `fault?`, `faults`: what is wrong with a value of a setting, and with the values of all of them
  (`issues_check`).
* `Reports`: an outcome is the one that values have (`reports_ofArguments`). -/

namespace Typestate

open Schema Schema.Checked

/-! ### Checks that give one reason -/

namespace Schema.Checked

variable {α β : Type} {x : Checked α}

/-- The outcome is a value, or one reason why there is none. -/
inductive IsSingle : Checked α → Prop where
  | valid (a : α) : IsSingle (.valid a)
  | fault (reason : Reason) : IsSingle (.fault reason)

/-- The first reason why there is no value. -/
def reason? (x : Checked α) : Option Reason := x.issues.head?.map Issue.reason

theorem IsSingle.issues_eq (h : x.IsSingle) :
    x.issues = (x.reason?.map fun reason => ⟨[], reason⟩).toList := by
  cases h <;> rfl

theorem IsSingle.andThen {f : α → Checked β} (h : x.IsSingle) (hf : ∀ a, (f a).IsSingle) :
    (x.andThen f).IsSingle := by
  cases h with
  | valid a => exact hf a
  | fault reason => exact .fault reason

/-! Nothing is refused without a reason. -/

theorem IsSingle.under_ne_invalid_nil (h : x.IsSingle) (step : Step) :
    x.under step ≠ .invalid [] := by
  cases h <;> exact fun h => by cases h

theorem seq_ne_invalid_nil {f : Checked (α → β)} (hf : f ≠ .invalid []) (hx : x ≠ .invalid []) :
    f <*> x ≠ .invalid [] := fun h => by
  have hissues : f.issues = [] ∧ x.issues = [] := by
    rw [← List.append_eq_nil_iff, ← issues_seq, h]
    rfl
  cases f with
  | invalid issues => exact hf (congrArg _ hissues.1)
  | valid g =>
    cases x with
    | invalid issues => exact hx (congrArg _ hissues.2)
    | valid a => cases h

theorem fmap_ne_invalid_nil {f : α → β} (hx : x ≠ .invalid []) : f <$> x ≠ .invalid [] := by
  cases x with
  | valid a => exact fun h => by cases h
  | invalid issues => exact fun h => hx (congrArg _ (Checked.invalid.inj h))

end Schema.Checked

section Single

variable (d : Data) (s : String) (i : Int)

theorem isSingle_text : (text d).IsSingle := by
  fun_cases text d <;> constructor

theorem isSingle_truthOfInt : (truthOfInt i).IsSingle := by
  fun_cases truthOfInt i <;> constructor

theorem isSingle_truthOfText : (truthOfText s).IsSingle := by
  fun_cases truthOfText s <;> constructor

theorem isSingle_truth : (truth d).IsSingle := by
  fun_cases truth d <;> first
    | constructor
    | exact isSingle_truthOfText _
    | exact isSingle_truthOfInt _

theorem isSingle_wholeOfText : (wholeOfText s).IsSingle := by
  fun_cases wholeOfText s <;> constructor

theorem isSingle_whole : (whole d).IsSingle := by
  fun_cases whole d <;> first
    | constructor
    | exact isSingle_wholeOfText _
    | split <;> [split <;> constructor; constructor]

theorem isSingle_wholeFrom : (wholeFrom i d).IsSingle :=
  (isSingle_whole d).andThen fun j => by split <;> constructor

end Single

namespace Settings

theorem isSingle_identifier (d : Data) : (identifier d).IsSingle :=
  (isSingle_text d).andThen fun s => by split <;> constructor

theorem isSingle_logLevelName (d : Data) : (logLevelName d).IsSingle := by
  fun_cases logLevelName d <;> first
    | constructor
    | exact isSingle_text _
    | unfold numberedLevelName; split <;> constructor

/-! ### Values that do not fit -/

/-- What is wrong with a value of a setting. -/
def fault? : Field → Data → Option Reason
  | .maxWorkers, d => (wholeFrom 1 d).reason?
  | .logLevel, d => (logLevelName d).reason?
  | .logJson, d => (truth d).reason?
  | _, d => (identifier d).reason?

/-- What is wrong with the values of the settings, one setting after another. -/
def faults (values : Field → Option Data) : List Issue :=
  Field.all.filterMap fun f =>
    ((values f).bind (fault? f)).map fun reason => ⟨[.key f.key], reason⟩

theorem mem_all (f : Field) : f ∈ Field.all := by
  cases f <;> decide

/-- An issue about a setting says what is wrong with its value. -/
theorem mem_faults {values : Field → Option Data} {f : Field} {reason : Reason} :
    ⟨[.key f.key], reason⟩ ∈ faults values ↔ (values f).bind (fault? f) = some reason := by
  simp only [faults, List.mem_filterMap, Option.map_eq_some_iff, Issue.mk.injEq, List.cons.injEq,
    Step.key.injEq, and_true]
  constructor
  · rintro ⟨g, -, r, hr, hkey, rfl⟩
    obtain rfl := Field.key_injective hkey
    exact hr
  · exact fun hr => ⟨f, mem_all f, reason, hr, rfl, rfl⟩

section ValueOf

variable {α : Type} {check : Data → Checked α} (hcheck : ∀ d, (check d).IsSingle)
  (find : Field → Option Data) (f : Field) (default : α)

include hcheck

theorem issues_valueOf :
    (valueOf find f default check).issues = (((find f).bind fun d => (check d).reason?).map
      fun reason => ⟨[.key f.key], reason⟩).toList := by
  unfold valueOf
  cases find f with
  | none => rfl
  | some d =>
    change ((check d).under (.key f.key)).issues = ((check d).reason?.map _).toList
    rw [issues_under, (hcheck d).issues_eq]
    cases (check d).reason? <;> rfl

theorem valueOf_ne_invalid_nil : valueOf find f default check ≠ .invalid [] := by
  unfold valueOf
  cases find f with
  | none => exact fun h => by cases h
  | some d => exact (hcheck d).under_ne_invalid_nil _

end ValueOf

/-- **Everything that is wrong with the settings is wrong with one of the values.** -/
theorem issues_check (find : Field → Option Data) : (check find).issues = faults find := by
  simp only [check, issues_seq, issues_fmap, issues_valueOf isSingle_identifier,
    issues_valueOf (isSingle_wholeFrom · 1), issues_valueOf isSingle_logLevelName,
    issues_valueOf isSingle_truth, faults, Field.all, List.filterMap_eq_flatMap_toList,
    List.flatMap_cons, List.flatMap_nil, List.append_nil, List.append_assoc]
  rfl

theorem check_ne_invalid_nil (find : Field → Option Data) : check find ≠ .invalid [] :=
  have hidentifier := fun f => valueOf_ne_invalid_nil isSingle_identifier find f
  seq_ne_invalid_nil (seq_ne_invalid_nil (seq_ne_invalid_nil (seq_ne_invalid_nil (seq_ne_invalid_nil
    (fmap_ne_invalid_nil (hidentifier _ _)) (hidentifier _ _)) (hidentifier _ _))
    (valueOf_ne_invalid_nil (isSingle_wholeFrom · 1) _ _ _))
    (valueOf_ne_invalid_nil isSingle_logLevelName _ _ _))
    (valueOf_ne_invalid_nil isSingle_truth _ _ _)

/-- The outcome is that of the values: there are settings exactly if nothing is wrong with any of
them, and otherwise all that is wrong is reported. -/
structure Reports (values : Field → Option Data) (outcome : Except Failure Settings) : Prop where
  ok_iff : (∃ s, outcome = .ok s) ↔ ∀ f d, values f = some d → fault? f d = none
  error_iff : ∀ failure, outcome = .error failure ↔
    faults values ≠ [] ∧ failure = .schema (faults values)

theorem faults_eq_nil_iff {values : Field → Option Data} :
    faults values = [] ↔ ∀ f d, values f = some d → fault? f d = none := by
  simp only [faults, List.filterMap_eq_nil_iff, Option.map_eq_none_iff, Option.bind_eq_none_iff]
  exact ⟨fun h f => h f (mem_all f), fun h f _ => h f⟩

/-- **Arguments are reported about value by value.** -/
theorem reports_ofArguments (around : Surroundings) (arguments : List (String × Data)) :
    Reports (find around arguments) (ofArguments around arguments) := by
  have hissues := issues_check (find around arguments)
  have hne := check_ne_invalid_nil (find around arguments)
  unfold ofArguments
  cases hcheck : check (find around arguments) with
  | valid s =>
    rw [hcheck] at hissues
    refine ⟨iff_of_true ⟨s, rfl⟩ (faults_eq_nil_iff.mp hissues.symm), fun failure => ?_⟩
    exact iff_of_false (fun h => by cases h) fun h => h.1 hissues.symm
  | invalid issues =>
    rw [hcheck] at hissues hne
    obtain rfl : issues = _ := hissues
    have hfaults : faults (find around arguments) ≠ [] := fun h => hne (congrArg _ h)
    refine ⟨iff_of_false (fun ⟨s, h⟩ => by cases h) fun h => hfaults (faults_eq_nil_iff.mpr h),
      fun failure => ?_⟩
    simp [hfaults, eq_comm]

/-- The outcome depends on the values that are found alone. -/
theorem ofArguments_eq_of_find {around around' : Surroundings}
    {arguments others : List (String × Data)} (h : find around arguments = find around' others) :
    ofArguments around arguments = ofArguments around' others := by
  unfold ofArguments
  rw [h]

/-- Outcomes that are the same report the same. -/
theorem Reports.faults_eq {values others : Field → Option Data} {outcome : Except Failure Settings}
    (h : Reports values outcome) (h' : Reports others outcome) : faults values = faults others := by
  cases outcome with
  | ok s =>
    rw [faults_eq_nil_iff.mpr (h.ok_iff.mp ⟨s, rfl⟩), faults_eq_nil_iff.mpr (h'.ok_iff.mp ⟨s, rfl⟩)]
  | error failure =>
    have hschema := ((h.error_iff failure).mp rfl).2.symm.trans ((h'.error_iff failure).mp rfl).2
    exact Failure.schema.inj hschema

theorem Reports.bind_fault?_eq {values others : Field → Option Data}
    {outcome : Except Failure Settings}
    (h : Reports values outcome) (h' : Reports others outcome) (f : Field) :
    (values f).bind (fault? f) = (others f).bind (fault? f) :=
  Option.ext fun reason => by rw [← mem_faults, ← mem_faults, h.faults_eq h']

end Settings
end Typestate
