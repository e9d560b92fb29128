import Mathlib.Data.List.Find
import Typestate.Proofs.Reasons

/-! # Settings in layers

The variables in capitals are laid over the settings file, key by key, and what neither of them
gives has its default. The keys of the file become names of arguments, though, and for each setting
the first argument with its name, in any case, counts. A key that spells a setting in another way
therefore stands in front of the variable.

* `foremost?`: the entry of a file that counts for a setting, and what becomes of it when variables
  are laid over the entries (`foremost?_overlaid`).
* `effective`: the value of a setting, layer by layer. `given`: the value that counts, which is the
  effective one unless the setting is spelled in another way (`find_overlaid`).
* `Holds`, `Named`, `Spelled`: the files that are read as settings, and those that spell them as
  they are spelled.
* `file_settings_layered`: what a file gives, and that the layers are kept exactly if the file is
  `Spelled`. -/

namespace Typestate

/-- No file of variables, and no variable for a setting that is not in capitals. -/
structure Surroundings.IsPlain (around : Surroundings) : Prop where
  dotenv : around.dotenv = none
  capitals : ∀ e ∈ around.bindings, ∀ f : Settings.Field,
    Text.lower e.1 = Text.lower f.variableName → e.1 = f.variableName

theorem Data.sameKey_text_iff {key : Data} {name : String} :
    key.sameKey (.text name) = true ↔ key = .text name := by
  cases key with
  | float x => cases h : x.toInt? <;> simp [Data.sameKey, Data.numericValue?, h]
  | _ => simp [Data.sameKey, Data.numericValue?]

namespace Settings

/-! ### The entry that counts -/

/-- A key gives an argument the name of a setting, in any case. -/
def gives (key : Data) (f : Field) : Bool := (argumentName? key).any (Text.lower · == f.key)

/-- The entry that counts for a setting. -/
def foremost? (entries : List (Data × Data)) (f : Field) : Option (Data × Data) :=
  entries.find? fun e => gives e.1 f

theorem gives_key_iff {f g : Field} : gives (.text g.key) f = true ↔ g = f := by
  simp only [gives, argumentName?, Option.any_some, Field.lower_key, beq_iff_eq]
  exact ⟨Field.key_injective, fun h => h ▸ rfl⟩

theorem gives_of_sameKey {key : Data} {f : Field} (h : key.sameKey (.text f.key) = true) :
    gives key f = true := by
  rw [Data.sameKey_text_iff.mp h, gives_key_iff]

/-- A value laid over the entry that counts: it takes its place if the key is spelled like the
setting, and is not seen behind it otherwise. -/
def covered (f : Field) (value : Data) (entry : Option (Data × Data)) : Data × Data :=
  match entry with
  | some e => if e.1.sameKey (.text f.key) then (e.1, value) else e
  | none => (.text f.key, value)

section Insert

variable (f : Field) (value : Data) (entries : List (Data × Data))

theorem foremost?_insertEntry_self :
    foremost? (Data.insertEntry (.text f.key) value entries) f =
      some (covered f value (foremost? entries f)) := by
  induction entries with
  | nil => simp [Data.insertEntry, foremost?, covered, gives_key_iff]
  | cons e rest ih =>
    obtain ⟨key, v⟩ := e
    by_cases hkey : key.sameKey (.text f.key) = true
    · simp [Data.insertEntry, foremost?, covered, hkey, gives_of_sameKey hkey]
    · by_cases hgives : gives key f = true
      · simp [Data.insertEntry, foremost?, covered, hkey, hgives]
      · simpa [Data.insertEntry, foremost?, hkey, hgives] using ih

theorem foremost?_insertEntry_of_ne {g : Field} (h : g ≠ f) :
    foremost? (Data.insertEntry (.text g.key) value entries) f = foremost? entries f := by
  have hg : gives (.text g.key) f = false := by simpa using mt gives_key_iff.mp h
  induction entries with
  | nil => simp [Data.insertEntry, foremost?, hg]
  | cons e rest ih =>
    obtain ⟨key, v⟩ := e
    by_cases hkey : key.sameKey (.text g.key) = true
    · have hgives : gives key f = false := by rw [Data.sameKey_text_iff.mp hkey, hg]
      simp [Data.insertEntry, foremost?, hkey, hgives]
    · by_cases hgives : gives key f = true
      · simp [Data.insertEntry, foremost?, hkey, hgives]
      · simpa [Data.insertEntry, foremost?, hkey, hgives] using ih

end Insert

/-- The entries with the variable of one setting laid over them. -/
def laid (bindings : List (String × String)) (entries : List (Data × Data)) (f : Field) :
    List (Data × Data) :=
  match override? bindings f with
  | some value => Data.insertEntry (.text f.key) (.text value) entries
  | none => entries

section Overlaid

variable (bindings : List (String × String)) (entries : List (Data × Data)) (f : Field)

theorem foremost?_laid_self :
    foremost? (laid bindings entries f) f =
      match override? bindings f with
      | some value => some (covered f (.text value) (foremost? entries f))
      | none => foremost? entries f := by
  unfold laid
  split
  · exact foremost?_insertEntry_self f _ entries
  · rfl

/-- The variables of other settings do not matter. -/
theorem foremost?_foldl_laid {fields : List Field} (h : f ∉ fields) :
    foremost? (fields.foldl (laid bindings) entries) f = foremost? entries f := by
  induction fields generalizing entries with
  | nil => rfl
  | cons g rest ih =>
    have hg : g ≠ f := fun hg => h (hg ▸ List.mem_cons_self)
    rw [List.foldl_cons, ih _ fun hrest => h (List.mem_cons_of_mem g hrest)]
    unfold laid
    split
    · exact foremost?_insertEntry_of_ne f _ entries hg
    · rfl

theorem overlaid_eq_foldl :
    overlaid bindings entries = Field.all.foldl (laid bindings) entries := by
  rw [overlaid, overrides, List.foldl_filterMap]
  congr 1
  funext entries g
  unfold laid
  cases override? bindings g <;> rfl

/-- **What counts among the entries when the variables are laid over them.** -/
theorem foremost?_overlaid :
    foremost? (overlaid bindings entries) f =
      match override? bindings f with
      | some value => some (covered f (.text value) (foremost? entries f))
      | none => foremost? entries f := by
  obtain ⟨before, after, hall⟩ := List.append_of_mem (mem_all f)
  have hnodup : (before ++ f :: after).Nodup := hall ▸ by decide
  obtain ⟨-, hafter, hbefore⟩ := List.nodup_append.mp hnodup
  rw [overlaid_eq_foldl, hall, List.foldl_append, List.foldl_cons,
    foremost?_foldl_laid bindings _ f (List.nodup_cons.mp hafter).1, foremost?_laid_self,
    foremost?_foldl_laid bindings entries f fun h => hbefore f h f List.mem_cons_self rfl]

/-- The value of a setting, layer by layer: that of the variable if it is set, otherwise that of the
file if the key is there. -/
def effective : Option Data := (override? bindings f).map .text <|> Data.find? f.key entries

/-- The value that counts for a setting if its key is spelled in another way. -/
def misspelled? (entries : List (Data × Data)) (f : Field) : Option Data :=
  ((foremost? entries f).filter fun e => !e.1.sameKey (.text f.key)).map Prod.snd

/-- The value that counts for a setting. -/
def given : Option Data := misspelled? entries f <|> effective bindings entries f

/-- The key is looked up like the name of an argument, unless it is spelled in another way. -/
theorem find?_key (h : misspelled? entries f = none) :
    Data.find? f.key entries = (foremost? entries f).map Prod.snd := by
  induction entries with
  | nil => rfl
  | cons e rest ih =>
    obtain ⟨key, v⟩ := e
    by_cases hkey : key.sameKey (.text f.key) = true
    · simp [Data.find?, foremost?, hkey, gives_of_sameKey hkey]
    · by_cases hgives : gives key f = true
      · simp [misspelled?, foremost?, hkey, hgives] at h
      · have hrest : misspelled? rest f = none := by simpa [misspelled?, foremost?, hgives] using h
        simpa [Data.find?, foremost?, hkey, hgives] using ih hrest

theorem value_foremost?_of_misspelled? {d : Data} (h : misspelled? entries f = some d) :
    (foremost? entries f).map Prod.snd = some d := by
  obtain ⟨e, he, rfl⟩ := Option.map_eq_some_iff.mp h
  rw [(Option.filter_eq_some_iff.mp he).1, Option.map_some]

theorem snd_covered (value : Data) :
    (covered f value (foremost? entries f)).2 = (misspelled? entries f).getD value := by
  unfold covered misspelled?
  cases foremost? entries f with
  | none => rfl
  | some e => by_cases hkey : e.1.sameKey (.text f.key) = true <;> simp [hkey, Option.filter]

/-- **What is given for a setting by a file with the variables laid over it.** -/
theorem value_foremost?_overlaid :
    (foremost? (overlaid bindings entries) f).map Prod.snd = given bindings entries f := by
  rw [foremost?_overlaid, given, effective]
  cases override? bindings f with
  | some value =>
    simp only [Option.map_some, snd_covered]
    cases misspelled? entries f <;> rfl
  | none =>
    cases hspelled : misspelled? entries f with
    | some d => exact value_foremost?_of_misspelled? entries f hspelled
    | none => simp [find?_key entries f hspelled]

end Overlaid

/-! ### Arguments -/

namespace LookUp

/-- The arguments that say how values are looked up, and so are no values themselves. -/
def optionNames : List String :=
  ["_env_file", "_env_prefix", "_case_sensitive", "_env_ignore_empty", "_env_parse_none_str",
    "_env_prefix_target", "_env_file_encoding", "_env_nested_delimiter", "_env_nested_max_split",
    "_env_parse_enums", "_nested_model_default_partial_update", "_secrets_dir", "_build_sources",
    "_cli_prog_name", "_cli_parse_args", "_cli_settings_source", "_cli_parse_none_str",
    "_cli_hide_none_type", "_cli_avoid_json", "_cli_enforce_required",
    "_cli_use_class_docs_for_groups", "_cli_exit_on_error", "_cli_prefix", "_cli_flag_prefix_char",
    "_cli_implicit_flags", "_cli_ignore_unknown_args", "_cli_kebab_case", "_cli_shortcuts",
    "__pydantic_self__"]

theorem withOption_of_not_mem {name : String} (h : name ∉ optionNames) (l : LookUp) (value : Data) :
    l.withOption name value = l := by
  fun_cases withOption l name value <;> simp_all [optionNames]

theorem ofArguments_of_not_mem {arguments : List (String × Data)}
    (h : ∀ a ∈ arguments, a.1 ∉ optionNames) : ofArguments arguments = {} := by
  unfold ofArguments
  induction arguments with
  | nil => rfl
  | cons a rest ih =>
    obtain ⟨ha, hrest⟩ := List.forall_mem_cons.mp h
    rw [List.foldl_cons, withOption_of_not_mem ha, ih hrest]

theorem key_not_mem_optionNames (f : Field) : f.key ∉ optionNames := by
  cases f <;> decide

end LookUp

/-- The keys are texts, and none of them says how values are looked up. -/
def Named (entries : List (Data × Data)) : Prop :=
  ∀ e ∈ entries, ∃ name, argumentName? e.1 = some name ∧ name ∉ LookUp.optionNames

namespace Named

variable {entries : List (Data × Data)}

theorem insertEntry (h : Named entries) (f : Field) (value : Data) :
    Named (Data.insertEntry (.text f.key) value entries) := by
  have hkey : ∃ name, argumentName? (.text f.key) = some name ∧ name ∉ LookUp.optionNames :=
    ⟨f.key, rfl, LookUp.key_not_mem_optionNames f⟩
  induction entries with
  | nil => exact List.forall_mem_singleton.mpr hkey
  | cons e rest ih =>
    obtain ⟨he, hrest⟩ := List.forall_mem_cons.mp h
    unfold Data.insertEntry
    split
    · exact List.forall_mem_cons.mpr ⟨he, hrest⟩
    · exact List.forall_mem_cons.mpr ⟨he, ih hrest⟩

theorem overlaid (h : Named entries) (bindings : List (String × String)) :
    Named (overlaid bindings entries) := by
  unfold Settings.overlaid
  induction overrides bindings generalizing entries with
  | nil => exact h
  | cons o rest ih => exact ih (h.insertEntry o.1 _)

/-- **Named entries are arguments,** and the entry that counts is the argument that is found. -/
theorem exists_arguments (h : Named entries) :
    ∃ arguments, asArguments? entries = some arguments ∧
      (∀ a ∈ arguments, a.1 ∉ LookUp.optionNames) ∧
      ∀ f, findArgument arguments f = (foremost? entries f).map Prod.snd := by
  induction entries with
  | nil => exact ⟨[], rfl, by simp, fun f => rfl⟩
  | cons e rest ih =>
    obtain ⟨⟨name, hname, hoption⟩, hrest⟩ := List.forall_mem_cons.mp h
    obtain ⟨arguments, harguments, hoptions, hfind⟩ := ih hrest
    refine ⟨(name, e.2) :: arguments, ?_, List.forall_mem_cons.mpr ⟨hoption, hoptions⟩, fun f => ?_⟩
    · unfold asArguments? at harguments ⊢
      simp [hname, harguments]
    · have hgives : gives e.1 f = (Text.lower name == f.key) := by simp [gives, hname]
      unfold findArgument foremost? at hfind ⊢
      rw [List.find?_cons, List.find?_cons, hgives]
      cases Text.lower name == f.key with
      | true => rfl
      | false => exact hfind f

end Named

theorem Field.lower_variableName (f : Field) :
    Text.lower f.variableName = "stategen_" ++ f.key := by
  cases f <;> decide +kernel

theorem Field.lower_prefixed (f : Field) :
    Text.lower (variablePrefix ++ f.key) = "stategen_" ++ f.key := by
  cases f <;> decide +kernel

/-- In plain surroundings the variable that is looked up is the one in capitals. -/
theorem findVariable_of_isPlain {around : Surroundings} (h : around.IsPlain) (f : Field) :
    findVariable {} around.bindings f = override? around.bindings f := by
  refine congrArg (Option.map Prod.snd) (List.find?_congr fun e he => ?_)
  have hvariable : LookUp.isVariable {} f e.1 = (e.1 == f.variableName) := by
    change (Text.lower e.1 == Text.lower (variablePrefix ++ f.key)) = _
    rw [Field.lower_prefixed, ← Field.lower_variableName, Bool.eq_iff_iff, beq_iff_eq, beq_iff_eq]
    exact ⟨h.capitals e (List.mem_reverse.mp he) f, fun heq => heq ▸ rfl⟩
  rw [hvariable]
  exact Bool.and_true _

/-- **The values that a file gives are found,** and the surroundings add nothing to them. -/
theorem find_overlaid {around : Surroundings} (h : around.IsPlain) {entries : List (Data × Data)}
    (hnamed : Named entries) :
    ∃ arguments, asArguments? (overlaid around.bindings entries) = some arguments ∧
      find around arguments = given around.bindings entries := by
  obtain ⟨arguments, harguments, hoptions, hfind⟩ :=
    (hnamed.overlaid around.bindings).exists_arguments
  refine ⟨arguments, harguments, funext fun f => ?_⟩
  have hfile : findInFile {} around f = none := by simp [findInFile, h.dotenv]
  rw [find, LookUp.ofArguments_of_not_mem hoptions, hfind, value_foremost?_overlaid, hfile,
    findVariable_of_isPlain h]
  -- A variable that is set is among what is given already.
  unfold given effective
  cases misspelled? entries f with
  | some d => rfl
  | none => cases override? around.bindings f <;> simp

/-- **Without anything around, the values are all that is found.** -/
theorem find_layered (values : Field → Option Data) : find {} (layered values) = values := by
  funext f
  have hoptions : ∀ a ∈ layered values, a.1 ∉ LookUp.optionNames := fun a ha => by
    obtain ⟨g, -, hg⟩ := List.mem_filterMap.mp ha
    obtain ⟨d, -, rfl⟩ := Option.map_eq_some_iff.mp hg
    exact LookUp.key_not_mem_optionNames g
  simp [find, LookUp.ofArguments_of_not_mem hoptions, findArgument_layered, findVariable,
    findInFile]

/-! ### Settings files -/

/-- The settings file has the entries: it is a mapping with them, or it has none and is absent or
stands for nothing. -/
inductive Holds : Yaml.File → List (Data × Data) → Prop where
  | absent : Holds .absent []
  | void {file : Yaml.File} {d : Data} : file.read = .ok d → d.isVoid = true → Holds file []
  | map {file : Yaml.File} {entries : List (Data × Data)} :
      file.read = .ok (.map entries) → Holds file entries

theorem ofFile_of_holds {file : Yaml.File} {entries : List (Data × Data)} (h : Holds file entries)
    (around : Surroundings) (path : String) :
    ofFile around path file = ofEntries around entries := by
  cases h with
  | absent => rfl
  | void hread hvoid => simp [ofFile, hread, ofData, hvoid]
  | map hread =>
    simp only [ofFile, hread, ofData]
    split
    · next hvoid => rw [List.isEmpty_iff.mp hvoid]
    · rfl

/-- The settings are spelled as they are, at least in those entries that count for them. -/
def Spelled (entries : List (Data × Data)) : Prop :=
  ∀ f e, foremost? entries f = some e → e.1 = .text f.key

theorem spelled_iff {entries : List (Data × Data)} :
    Spelled entries ↔ ∀ f, misspelled? entries f = none := by
  refine forall_congr' fun f => ?_
  simp only [misspelled?, Option.map_eq_none_iff, Option.filter_eq_none_iff,
    ← Data.sameKey_text_iff]
  simp

section Layered

variable {file : Yaml.File} {entries : List (Data × Data)}

/-- **What a file gives is what counts.** -/
theorem ofFile_eq (hfile : Holds file entries) (hnamed : Named entries) {around : Surroundings}
    (haround : around.IsPlain) (path : String) :
    ofFile around path file = ofArguments {} (layered (given around.bindings entries)) := by
  obtain ⟨arguments, harguments, hfind⟩ := find_overlaid haround hnamed
  rw [ofFile_of_holds hfile, ofEntries, harguments]
  exact ofArguments_eq_of_find (hfind.trans (find_layered _).symm)

theorem reports_layered (values : Field → Option Data) :
    Reports values (ofArguments {} (layered values)) := by
  have h := reports_ofArguments {} (layered values)
  rwa [find_layered] at h

theorem given_eq_effective (h : Spelled entries) (bindings : List (String × String)) :
    given bindings entries = effective bindings entries := by
  funext f
  simp [given, spelled_iff.mp h f]

/-! Every setting has texts that fit and texts that do not, so a variable makes a difference. -/

theorem Field.lower_variableName_injective {f g : Field}
    (h : Text.lower f.variableName = Text.lower g.variableName) : f = g := by
  rw [Field.lower_variableName, Field.lower_variableName] at h
  exact Field.key_injective ((String.append_right_inj "stategen_").mp h)

theorem isPlain_variable (f : Field) (value : String) :
    Surroundings.IsPlain { bindings := [(f.variableName, value)] } where
  dotenv := rfl
  capitals := List.forall_mem_singleton.mpr fun _ hg =>
    congrArg Field.variableName (Field.lower_variableName_injective hg)

theorem override?_variable (f : Field) (value : String) :
    override? [(f.variableName, value)] f = some value := by
  rw [override?, List.reverse_singleton, List.find?_cons, beq_self_eq_true]
  rfl

theorem exists_fitting_text (f : Field) : ∃ value, fault? f (.text value) = none := by
  cases f with
  | logLevel => exact ⟨"INFO", by decide +kernel⟩
  | _ => exact ⟨"1", by decide +kernel⟩

theorem fault?_empty_text (f : Field) : fault? f (.text "") ≠ none := by
  cases f <;> decide +kernel

/-- **A setting that is spelled in another way hides its variable.** -/
theorem exists_ofFile_ne (hfile : Holds file entries) (hnamed : Named entries) {f : Field}
    {d : Data} (h : misspelled? entries f = some d) :
    ∃ around : Surroundings, around.IsPlain ∧ ∀ path,
      ofFile around path file ≠ ofArguments {} (layered (effective around.bindings entries)) := by
  by_contra hall
  push Not at hall
  -- The value under the other spelling would be as good, and as bad, as any text of the variable.
  have hsame : ∀ value, fault? f d = fault? f (.text value) := fun value => by
    obtain ⟨path, heq⟩ := hall _ (isPlain_variable f value)
    rw [ofFile_eq hfile hnamed (isPlain_variable f value)] at heq
    have hgiven : given [(f.variableName, value)] entries f = some d := by
      rw [given, h]
      rfl
    have heffective : effective [(f.variableName, value)] entries f = some (.text value) := by
      rw [effective, override?_variable]
      rfl
    have hfault := (reports_layered _).bind_fault?_eq (heq ▸ reports_layered _) f
    rw [hgiven, heffective] at hfault
    exact hfault.symm
  obtain ⟨value, hvalue⟩ := exists_fitting_text f
  exact fault?_empty_text f ((hsame "").symm.trans ((hsame value).trans hvalue))

/-! Entries for other names do not matter. -/

/-- The entries for settings. -/
def known (entries : List (Data × Data)) : List (Data × Data) :=
  entries.filter fun e => Field.all.any (gives e.1)

theorem foremost?_known (entries : List (Data × Data)) (f : Field) :
    foremost? (known entries) f = foremost? entries f := by
  unfold foremost? known
  rw [List.find?_filter]
  refine List.find?_congr fun e _ => ?_
  have hknown : gives e.1 f = true → Field.all.any (gives e.1) = true := fun h =>
    List.any_eq_true.mpr ⟨f, mem_all f, h⟩
  cases hgives : gives e.1 f with
  | true => simp [hknown hgives]
  | false => simp

theorem given_eq_of_known {others : List (Data × Data)} (h : known others = known entries)
    (bindings : List (String × String)) : given bindings others = given bindings entries := by
  funext f
  rw [← value_foremost?_overlaid, ← value_foremost?_overlaid, foremost?_overlaid,
    foremost?_overlaid, ← foremost?_known others, ← foremost?_known entries, h]

/-- **Settings in layers.** The variables count more than the file, and the file more than the
defaults, exactly if the file spells its settings as they are spelled.

Whatever the spelling, a file gives what `given` says, and all that is wrong with these values is
reported. So it is the variable alone that is reported about if it is set, unless its setting is
spelled in another way, and keys that are no settings do not matter. -/
theorem file_settings_layered (hfile : Holds file entries) (hnamed : Named entries) :
    (Spelled entries ↔ ∀ around : Surroundings, around.IsPlain → ∀ path,
      ofFile around path file = ofArguments {} (layered (effective around.bindings entries))) ∧
    ∀ around : Surroundings, around.IsPlain → ∀ path,
      ofFile around path file = ofArguments {} (layered (given around.bindings entries)) ∧
      Reports (given around.bindings entries) (ofFile around path file) ∧
      (Spelled entries → given around.bindings entries = effective around.bindings entries) ∧
      (∀ f value, override? around.bindings f = some value → misspelled? entries f = none →
        ∀ reason, ⟨[.key f.key], reason⟩ ∈ faults (given around.bindings entries) ↔
          fault? f (.text value) = some reason) ∧
      ∀ other others, Holds other others → Named others → known others = known entries →
        ofFile around path other = ofFile around path file := by
  have hlayered : ∀ around : Surroundings, around.IsPlain → ∀ path,
      ofFile around path file = ofArguments {} (layered (given around.bindings entries)) :=
    fun around haround path => ofFile_eq hfile hnamed haround path
  refine ⟨⟨fun hspelled around haround path => ?_, fun h => spelled_iff.mpr fun f => ?_⟩,
    fun around haround path => ⟨hlayered around haround path, ?_,
      fun hspelled => given_eq_effective hspelled around.bindings,
      fun f value hvalue hf reason => ?_, fun other others hother hothers hknown => ?_⟩⟩
  · rw [hlayered around haround path, given_eq_effective hspelled]
  · by_contra hf
    obtain ⟨d, hd⟩ := Option.ne_none_iff_exists'.mp hf
    obtain ⟨around, haround, hne⟩ := exists_ofFile_ne hfile hnamed hd
    exact hne "" (h around haround "")
  · rw [hlayered around haround path]
    exact reports_layered _
  · rw [mem_faults, given, effective, hf, hvalue]
    rfl
  · rw [hlayered around haround path, ofFile_eq hother hothers haround, given_eq_of_known hknown]

end Layered

/-! ### Files of texts -/

/-- Texts under texts as entries. -/
def textEntries (pairs : List (String × String)) : List (Data × Data) :=
  pairs.map fun p => (.text p.1, .text p.2)

/-- The texts under texts, if there is nothing else. -/
def textPairs? : List (Data × Data) → Option (List (String × String))
  | [] => some []
  | (.text key, .text value) :: rest => (textPairs? rest).map ((key, value) :: ·)
  | _ => none

theorem eq_textEntries {entries : List (Data × Data)} {pairs : List (String × String)}
    (h : textPairs? entries = some pairs) : entries = textEntries pairs := by
  fun_induction textPairs? entries generalizing pairs with
  | case1 =>
    cases h
    rfl
  | case2 key value rest ih =>
    obtain ⟨others, hothers, rfl⟩ := Option.map_eq_some_iff.mp h
    rw [ih hothers]
    rfl
  | case3 => cases h

/-- The texts that a file has under texts, if it has nothing else. -/
def fileTexts? (file : Yaml.File) : Option (List (String × String)) :=
  match file.read with
  | .ok (.map entries) => textPairs? entries
  | _ => none

theorem holds_of_fileTexts? {file : Yaml.File} {pairs : List (String × String)}
    (h : fileTexts? file = some pairs) : Holds file (textEntries pairs) := by
  unfold fileTexts? at h
  split at h
  · next entries hread => exact .map (eq_textEntries h ▸ hread)
  · cases h

theorem named_textEntries {pairs : List (String × String)}
    (h : ∀ p ∈ pairs, p.1 ∉ LookUp.optionNames) : Named (textEntries pairs) :=
  List.forall_mem_map.mpr fun p hp => ⟨p.1, rfl, h p hp⟩

/-- A bad level in the file does not matter if there is a variable for it, and a key that is no
setting does not either. -/
theorem file_settings_layered_level :
    let file : Yaml.File := .bytes "log_level: loud\nspeed: high\n".toUTF8.toList
    let entries := textEntries [("log_level", "loud"), ("speed", "high")]
    let around : Surroundings := { bindings := [("STATEGEN_LOG_LEVEL", "debug")] }
    Holds file entries ∧ Named entries ∧ Spelled entries ∧ around.IsPlain ∧
      ofFile around "settings.yaml" file = .ok { logLevel := "DEBUG" } := by
  intro file entries around
  have hholds : Holds file entries := holds_of_fileTexts? (by decide +kernel)
  have hnamed : Named entries := named_textEntries (by decide)
  have hname : Field.variableName .logLevel = "STATEGEN_LOG_LEVEL" := by decide +kernel
  have hplain : around.IsPlain := by
    simpa only [hname] using isPlain_variable .logLevel "debug"
  have hspelled : Spelled entries := spelled_iff.mpr fun f => by cases f <;> rfl
  obtain ⟨hofFile, -⟩ := (file_settings_layered hholds hnamed).2 around hplain "settings.yaml"
  exact ⟨hholds, hnamed, hspelled, hplain, hofFile.trans rfl⟩

/-- A suffix in the file counts more than the variable for it if its key is in capitals. -/
theorem misspelled_name_suffix :
    let file : Yaml.File := .bytes "NAME_SUFFIX: Low".toUTF8.toList
    let entries := textEntries [("NAME_SUFFIX", "Low")]
    let around : Surroundings := { bindings := [("STATEGEN_NAME_SUFFIX", "Up")] }
    Holds file entries ∧ Named entries ∧ around.IsPlain ∧
      ofArguments {} (layered (effective around.bindings entries)) = .ok { nameSuffix := "Up" } ∧
      ofFile around "settings.yaml" file = .ok { nameSuffix := "Low" } := by
  intro file entries around
  have hholds : Holds file entries := holds_of_fileTexts? (by decide +kernel)
  have hnamed : Named entries := named_textEntries (by decide)
  have hname : Field.variableName .nameSuffix = "STATEGEN_NAME_SUFFIX" := by decide +kernel
  have hplain : around.IsPlain := by
    simpa only [hname] using isPlain_variable .nameSuffix "Up"
  exact ⟨hholds, hnamed, hplain, rfl, (ofFile_eq hholds hnamed hplain "settings.yaml").trans rfl⟩

end Settings
end Typestate
