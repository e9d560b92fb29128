import Typestate.Proofs.Shape
import Typestate.Settings.Sources

/-! # Settings given again

Settings that were accepted fit: the names can be parts of identifiers, and there is at least one
worker. So whether they are accepted again, from their own values, is decided by the log level
alone. A text has to name one of the five levels; a number, a truth value or bytes are taken for
what they are, and the level that comes out need not be one of the five.

* `Fits`: the values that are accepted, but for the level (`fits_of_check`).
* `layered`: values as arguments (`findArgument_layered`). `arguments`: the settings as arguments;
  they are found again whatever is set around (`find_arguments`).
* `MeansLevel`: what is given for the level means one of the five.
* `accepted_again`: when the level is one of the five, and what comes of the settings given
  again. -/

namespace Typestate.Settings

open Schema Schema.Checked

/-! ### What is accepted -/

theorem identifier_eq_valid_iff {d : Data} {s : String} :
    identifier d = .valid s ↔ d.text? = some s ∧ Text.isIdentifierTail s = true := by
  rw [← Description.text_eq_valid_iff]
  exact andThen_ite_eq_valid_iff

section ValueOf

variable {α : Type} {find : Field → Option Data} {f : Field} {default a : α}
    {check : Data → Checked α}

theorem valueOf_eq_valid_iff :
    valueOf find f default check = .valid a ↔
      (find f = none ∧ a = default) ∨ ∃ d, find f = some d ∧ check d = .valid a := by
  unfold valueOf
  split
  · next h => simp [under_eq_valid_iff, h]
  · next h => simp [h, eq_comm]

/-- What is true of the default and of every value that is accepted. -/
theorem of_valueOf {P : α → Prop} (h : valueOf find f default check = .valid a)
    (hdefault : P default) (hcheck : ∀ d a, check d = .valid a → P a) : P a := by
  rcases valueOf_eq_valid_iff.mp h with ⟨-, rfl⟩ | ⟨d, -, hd⟩
  · exact hdefault
  · exact hcheck d a hd

theorem valueOf_of_some {d : Data} (h : find f = some d) :
    valueOf find f default check = (check d).under (.key f.key) := by
  simp only [valueOf, h]

end ValueOf

/-- **The settings are accepted value by value.** -/
theorem check_eq_valid_iff {find : Field → Option Data} {s : Settings} :
    check find = .valid s ↔
      valueOf find .nameSuffix "State" identifier = .valid s.nameSuffix ∧
      valueOf find .fieldName "_wrapped" identifier = .valid s.fieldName ∧
      valueOf find .argumentName "stateful_object" identifier = .valid s.argumentName ∧
      valueOf find .maxWorkers 1 (wholeFrom 1) = .valid s.maxWorkers ∧
      valueOf find .logLevel "WARNING" logLevelName = .valid s.logLevel ∧
      valueOf find .logJson false truth = .valid s.logJson := by
  simp only [check, seq_eq_valid_iff, fmap_eq_valid_iff]
  constructor
  · rintro ⟨_, json, ⟨_, level, ⟨_, workers, ⟨_, argument,
      ⟨_, field, ⟨suffix, hsuffix, rfl⟩, hfield, rfl⟩, hargument, rfl⟩, hworkers, rfl⟩,
      hlevel, rfl⟩, hjson, rfl⟩
    exact ⟨hsuffix, hfield, hargument, hworkers, hlevel, hjson⟩
  · rintro ⟨hsuffix, hfield, hargument, hworkers, hlevel, hjson⟩
    exact ⟨_, _, ⟨_, _, ⟨_, _, ⟨_, _,
      ⟨_, _, ⟨_, hsuffix, rfl⟩, hfield, rfl⟩, hargument, rfl⟩, hworkers, rfl⟩,
      hlevel, rfl⟩, hjson, rfl⟩

theorem ofArguments_eq_ok_iff {around : Surroundings} {arguments : List (String × Data)}
    {s : Settings} :
    ofArguments around arguments = .ok s ↔ check (find around arguments) = .valid s := by
  unfold ofArguments
  split <;> simp_all

/-- The settings fit, whatever their level is. -/
structure Fits (s : Settings) : Prop where
  nameSuffix : Text.isIdentifierTail s.nameSuffix = true
  fieldName : Text.isIdentifierTail s.fieldName = true
  argumentName : Text.isIdentifierTail s.argumentName = true
  maxWorkers : 1 ≤ s.maxWorkers

/-- **Settings that are accepted fit.** -/
theorem fits_of_check {find : Field → Option Data} {s : Settings} (h : check find = .valid s) :
    s.Fits := by
  obtain ⟨hsuffix, hfield, hargument, hworkers, -⟩ := check_eq_valid_iff.mp h
  have htail : ∀ {f : Field} {default name : String}, Text.isIdentifierTail default = true →
      valueOf find f default identifier = .valid name → Text.isIdentifierTail name = true :=
    fun {_ _ name} hdefault hname => of_valueOf (P := fun t => Text.isIdentifierTail t = true) hname
      hdefault fun _ _ ht => (identifier_eq_valid_iff.mp ht).2
  exact ⟨htail (by decide) hsuffix, htail (by decide) hfield, htail (by decide) hargument,
    of_valueOf (P := fun i => 1 ≤ i) hworkers (by decide) fun _ _ hi =>
      (wholeFrom_eq_valid_iff.mp hi).2⟩

/-! ### Levels -/

/-- What is given for the level means one of the five levels: nothing means the default, a text
means the level that it names in any case, a number the level that has it, and bytes the level whose
name they encode in capitals. -/
inductive MeansLevel : Option Data → String → Prop where
  | default : MeansLevel none "WARNING"
  | word {s : String} : Text.upper s ∈ levelNames → MeansLevel (some (.text s)) (Text.upper s)
  | number {entry : String × Int} : entry ∈ Level.standard → entry.1 ∈ levelNames →
      MeansLevel (some (.int entry.2)) entry.1
  | bytes {content : List UInt8} {level : String} : level ∈ levelNames →
      decoded? content = some level → MeansLevel (some (.bytes content)) level

theorem MeansLevel.mem {given : Option Data} {level : String} (h : MeansLevel given level) :
    level ∈ levelNames := by
  cases h with
  | default => decide
  | word h => exact h
  | number _ h => exact h
  | bytes h _ => exact h

/-- None of the levels begins like the name of a level without a name. -/
theorem head_ne_of_mem_levelNames {level : String} (h : level ∈ levelNames) :
    level.toList.head? ≠ some 'L' := by
  revert level
  decide

theorem unnamed_not_mem (shown : String) : Level.unnamed shown ∉ levelNames :=
  fun h => head_ne_of_mem_levelNames h (by simp [Level.unnamed])

theorem upper_of_mem_levelNames {level : String} (h : level ∈ levelNames) :
    Text.upper level = level := by
  revert level
  decide

/-- A number that has one of the five names has it among the standard levels. -/
theorem mem_standard_of_name {i : Int} (h : Level.name i ∈ levelNames) :
    (Level.name i, i) ∈ Level.standard := by
  unfold Level.name Level.standardName? at h ⊢
  cases hfind : Level.standard.find? fun entry => entry.2 == i with
  | none =>
    rw [hfind] at h
    exact absurd h (unnamed_not_mem _)
  | some entry =>
    obtain rfl : entry.2 = i := by simpa using List.find?_some hfind
    exact List.mem_of_find?_eq_some hfind

theorem numberedLevelName_eq_valid {i : Int} {level : String}
    (h : numberedLevelName i = .valid level) : level = Level.name i := by
  unfold numberedLevelName at h
  split at h
  · cases h
    rfl
  · cases h

/-- **A level that is accepted is one of the five exactly if that is what is meant.** -/
theorem mem_levelNames_iff_of_accepted {d : Data} {level : String}
    (h : logLevelName d = .valid level) :
    level ∈ levelNames ↔ MeansLevel (some d) level := by
  refine ⟨fun hmem => ?_, MeansLevel.mem⟩
  cases d with
  | int i =>
    obtain rfl := numberedLevelName_eq_valid h
    exact .number (mem_standard_of_name hmem) hmem
  | bool b =>
    cases h
    cases b with
    | false => exact absurd hmem (by decide)
    | true => exact absurd hmem (unnamed_not_mem _)
  | text s =>
    simp only [logLevelName] at h
    split at h
    · cases h
      exact .word hmem
    · cases h
  | bytes content =>
    have htext : text (.bytes content) = .valid level := h
    exact .bytes hmem (Description.text_eq_valid_iff.mp htext)
  | _ => cases h

/-! ### Arguments -/

theorem Field.lower_key (f : Field) : Text.lower f.key = f.key := by
  cases f <;> decide

/-- Values as arguments, in the order of the settings. -/
def layered (values : Field → Option Data) : List (String × Data) :=
  Field.all.filterMap fun f => (values f).map fun d => (f.key, d)

/-- **An argument is found for each setting that has a value.** -/
theorem findArgument_layered (values : Field → Option Data) (f : Field) :
    findArgument (layered values) f = values f := by
  have hnames : ∀ g, ((values g).map fun d => (g.key, d)).any (fun e => Text.lower e.1 == f.key) =
      (decide (g = f) && (values f).isSome) := fun g => by
    rw [Option.any_map]
    by_cases hg : g = f
    · subst hg
      cases values g <;> simp [Field.lower_key]
    · have hkey : g.key ≠ f.key := fun h => hg (Field.key_injective h)
      cases values g <;> simp [Field.lower_key, hg, hkey]
  unfold findArgument layered
  simp only [List.find?_filterMap, hnames]
  cases hvalue : values f with
  | none => rw [List.find?_eq_none.mpr (by simp), Option.bind_none, Option.map_none]
  | some d =>
    have hall : (Field.all.find? fun g => decide (g = f)) = some f := by cases f <;> decide
    simp [hall, hvalue]

/-! ### Values given again -/

/-- The value of a setting, as it is. -/
def value (s : Settings) : Field → Data
  | .nameSuffix => .text s.nameSuffix
  | .fieldName => .text s.fieldName
  | .argumentName => .text s.argumentName
  | .maxWorkers => .int s.maxWorkers
  | .logLevel => .text s.logLevel
  | .logJson => .bool s.logJson

/-- The settings as arguments. -/
def arguments (s : Settings) : List (String × Data) := Field.all.map fun f => (f.key, s.value f)

variable (s : Settings)

theorem findArgument_arguments (f : Field) : findArgument s.arguments f = some (s.value f) := by
  have harguments : s.arguments = layered fun f => some (s.value f) := rfl
  rw [harguments, findArgument_layered]

theorem find_arguments (around : Surroundings) (f : Field) :
    find around s.arguments f = some (s.value f) :=
  find_of_argument (s.findArgument_arguments f) around

variable {s}

/-- **Values that fit are accepted again,** and the level is looked at as a text. -/
theorem check_find_arguments (h : s.Fits) (around : Surroundings) :
    check (find around s.arguments) =
      (fun level => { s with logLevel := level }) <$>
        (logLevelName (.text s.logLevel)).under (.key Field.logLevel.key) := by
  have hidentifier : ∀ t, Text.isIdentifierTail t = true → identifier (.text t) = .valid t :=
    fun t ht => identifier_eq_valid_iff.mpr ⟨rfl, ht⟩
  have hworkers : wholeFrom 1 (.int s.maxWorkers) = .valid s.maxWorkers :=
    wholeFrom_eq_valid_iff.mpr ⟨rfl, h.maxWorkers⟩
  simp only [check, valueOf_of_some (s.find_arguments around _), value, hidentifier _ h.nameSuffix,
    hidentifier _ h.fieldName, hidentifier _ h.argumentName, hworkers]
  cases (logLevelName (.text s.logLevel)).under (.key Field.logLevel.key) <;> rfl

/-- The failure of settings with an unknown level. -/
def levelFailure (level : String) : Failure :=
  .schema [⟨[.key Field.logLevel.key], .rejected
    ("Invalid log level: " ++ level ++ ". Valid: " ++ Text.quotedList levelNames)⟩]

/-- **What comes of settings that fit when they are given again.** -/
theorem ofArguments_arguments (h : s.Fits) (around : Surroundings) :
    ofArguments around s.arguments =
      if Text.upper s.logLevel ∈ levelNames then .ok { s with logLevel := Text.upper s.logLevel }
      else .error (levelFailure s.logLevel) := by
  unfold ofArguments
  rw [check_find_arguments h around]
  by_cases hmem : Text.upper s.logLevel ∈ levelNames
  · have hlevel : logLevelName (.text s.logLevel) = .valid (Text.upper s.logLevel) :=
      if_pos (List.contains_iff_mem.mpr hmem)
    rw [hlevel, if_pos hmem]
    rfl
  · have hlevel : logLevelName (.text s.logLevel) = unknownLevel s.logLevel :=
      if_neg fun hc => hmem (List.contains_iff_mem.mp hc)
    rw [hlevel, if_neg hmem]
    rfl

/-- **Settings are accepted again, and stay the same, exactly if their level is one of the five,**
which is so exactly if what was given for the level means one of them. Otherwise the level is
refused, unless it becomes one of the five in capitals. -/
theorem accepted_again {around : Surroundings} {given : List (String × Data)}
    (h : ofArguments around given = .ok s) :
    (s.logLevel ∈ levelNames ↔ MeansLevel (find around given .logLevel) s.logLevel) ∧
    ∀ around', (ofArguments around' s.arguments = .ok s ↔ s.logLevel ∈ levelNames) ∧
      ofArguments around' s.arguments =
        if Text.upper s.logLevel ∈ levelNames then .ok { s with logLevel := Text.upper s.logLevel }
        else .error (levelFailure s.logLevel) := by
  have hcheck := ofArguments_eq_ok_iff.mp h
  obtain ⟨-, -, -, -, hlevel, -⟩ := check_eq_valid_iff.mp hcheck
  refine ⟨?_, fun around' => ⟨?_, ofArguments_arguments (fits_of_check hcheck) around'⟩⟩
  · rcases valueOf_eq_valid_iff.mp hlevel with ⟨hnone, hdefault⟩ | ⟨d, hd, haccepted⟩
    · rw [hnone, hdefault]
      exact iff_of_true (by decide) .default
    · rw [hd]
      exact mem_levelNames_iff_of_accepted haccepted
  · rw [ofArguments_arguments (fits_of_check hcheck) around']
    constructor
    · intro hsame
      split at hsame
      · next hmem =>
        have heq : Text.upper s.logLevel = s.logLevel := congrArg logLevel (Except.ok.inj hsame)
        exact heq ▸ hmem
      · cases hsame
    · intro hmem
      rw [upper_of_mem_levelNames hmem, if_pos hmem]

/-- A level by its name in small letters becomes that level, for good. -/
theorem accepted_again_debug :
    ofArguments {} [("LOG_LEVEL", .text "debug"), ("max_workers", .text "2")] =
      .ok { maxWorkers := 2, logLevel := "DEBUG" } ∧
    ofArguments { bindings := [("STATEGEN_LOG_LEVEL", "loud")] }
      (arguments { maxWorkers := 2, logLevel := "DEBUG" }) =
        .ok { maxWorkers := 2, logLevel := "DEBUG" } := by
  have hgiven : ofArguments {} [("LOG_LEVEL", .text "debug"), ("max_workers", .text "2")] =
      .ok { maxWorkers := 2, logLevel := "DEBUG" } := rfl
  exact ⟨hgiven, ((accepted_again hgiven).2 _).1.mpr (by decide)⟩

/-- Number 15 is accepted for the level, which is none of the five then, and which is refused when
it is given again. -/
theorem unknown_level_fifteen :
    ∃ s, ofArguments {} [("log_level", .int 15)] = .ok s ∧ s.logLevel ∉ levelNames ∧
      ∀ s', ofArguments {} s.arguments ≠ .ok s' := by
  have haccepted :
      check (find {} [("log_level", .int 15)]) = .valid { logLevel := "Level 15" } := rfl
  refine ⟨{ logLevel := "Level 15" }, ofArguments_eq_ok_iff.mpr haccepted, by decide,
    fun s' h => ?_⟩
  rw [ofArguments_arguments (fits_of_check haccepted), if_neg (by decide)] at h
  cases h

end Typestate.Settings
