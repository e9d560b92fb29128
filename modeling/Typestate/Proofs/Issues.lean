import Typestate.Proofs.Acceptance

/-! # Where issues come from

What a check reports about lists and records is what it reports about the items and about the values
of the keys, one after another, each seen from one step further out. What is wrong with one item
therefore stays in its place in the report.

* `Schema.itemIssues`, `Schema.recordIssues`: the issues of a list and of a record, part by part.
* `Issue.IsWithin`: the issue is about what is at a path, or about something in it.
* `Schema.Confined`: two reports that only differ by what is at a path, and by what is said about
  some paths as a whole. Confinement is kept from an item to its list (`Confined.item`) and from a
  value to its record (`Confined.field`), which is all that an induction over a path needs. -/

namespace Typestate.Schema

open Checked

/-! ### The issues of joined checks -/

namespace Checked

variable {α β : Type}

theorem issues_fmap (f : α → β) (x : Checked α) : (f <$> x).issues = x.issues := issues_map f x

theorem issues_seqLeft (x : Checked α) (y : Checked β) :
    (x <* y).issues = x.issues ++ y.issues := by
  change ((Function.const β <$> x) <*> y).issues = _
  rw [issues_seq, issues_fmap]

/-- A check that needs a value adds its issues, and adds none if there is no value. -/
theorem exists_issues_andThen (x : Checked α) (f : α → Checked β) :
    ∃ more, (x.andThen f).issues = x.issues ++ more ∧ (more = [] ∨ ∃ a, more = (f a).issues) := by
  cases x with
  | valid a => exact ⟨(f a).issues, rfl, .inr ⟨a, rfl⟩⟩
  | invalid issues => exact ⟨[], (List.append_nil issues).symm, .inl rfl⟩

end Checked

/-! ### Lists -/

/-- What there is to say about items, the first of which is at a position. -/
def itemIssues (check : Data → List Issue) (position : Nat) (items : List Data) : List Issue :=
  (items.zipIdx position).flatMap fun x => (check x.1).map (Issue.under (.index x.2))

variable {α : Type}

/-- **A list is reported about item by item.** -/
theorem issues_itemsFrom (check : Data → Checked α) (position : Nat) (items : List Data) :
    (itemsFrom check position items).issues =
      itemIssues (fun d => (check d).issues) position items := by
  induction items generalizing position with
  | nil => rfl
  | cons d rest ih =>
    rw [itemsFrom, issues_map, issues_both, issues_under, ih, itemIssues, itemIssues,
      List.zipIdx_cons, List.flatMap_cons]

theorem issues_listOf {check : Data → Checked α} {d : Data} {items : List Data}
    (h : d.items? = some items) :
    (listOf check d).issues = itemIssues (fun d => (check d).issues) 0 items := by
  rw [listOf, h]
  exact issues_itemsFrom check 0 items

/-- An item between others. -/
theorem itemIssues_middle (check : Data → List Issue) (position : Nat) (before after : List Data)
    (d : Data) :
    itemIssues check position (before ++ d :: after) =
      itemIssues check position before ++
        (check d).map (Issue.under (.index (position + before.length : Nat))) ++
        itemIssues check (position + before.length + 1) after := by
  rw [itemIssues, List.zipIdx_append, List.flatMap_append, List.zipIdx_cons, List.flatMap_cons,
    ← List.append_assoc]
  rfl

/-- What is reported about items is about one of their positions. -/
theorem path_of_mem_itemIssues {check : Data → List Issue} {position : Nat} {items : List Data}
    {i : Issue} (h : i ∈ itemIssues check position items) :
    ∃ k rest, position ≤ k ∧ k < position + items.length ∧ i.path = .index (k : Nat) :: rest := by
  obtain ⟨x, hx, hi⟩ := List.mem_flatMap.mp h
  obtain ⟨j, -, rfl⟩ := List.mem_map.mp hi
  obtain ⟨hlow, hhigh, -⟩ := List.mem_zipIdx hx
  exact ⟨x.2, j.path, hlow, hhigh, rfl⟩

/-! ### Records -/

/-- What there is to say about the value of a key that has to be there. -/
def aboutRequired (check : Data → Checked α) (value : Option Data) : List Issue :=
  match value with
  | some d => (check d).issues
  | none => [⟨[], .missing⟩]

/-- What there is to say about the value of a key that may be missing. -/
def aboutOptional (check : Data → Checked α) (value : Option Data) : List Issue :=
  match value with
  | some d => (check d).issues
  | none => []

theorem issues_required (name : String) (check : Data → Checked α) (entries : List (Data × Data)) :
    (required name check entries).issues =
      (aboutRequired check (Data.find? name entries)).map (Issue.under (.key name)) := by
  unfold required aboutRequired
  cases Data.find? name entries with
  | none => exact issues_under _ _
  | some d => exact issues_under _ _

theorem issues_optional (name : String) (default : α) (check : Data → Checked α)
    (entries : List (Data × Data)) :
    (optional name default check entries).issues =
      (aboutOptional check (Data.find? name entries)).map (Issue.under (.key name)) := by
  unfold optional aboutOptional
  cases Data.find? name entries with
  | none => rfl
  | some d => exact issues_under _ _

/-- What there is to say about the values of the keys, one key after another. -/
def fieldIssues (fields : List (String × (Option Data → List Issue)))
    (entries : List (Data × Data)) : List Issue :=
  fields.flatMap fun f => (f.2 (Data.find? f.1 entries)).map (Issue.under (.key f.1))

/-- **What there is to say about a record**: about the values of its keys, and then about keys that
it should not have. A key with halves of surrogate pairs leaves nothing else to say. -/
def recordIssues (fields : List (String × (Option Data → List Issue)))
    (entries : List (Data × Data)) : List Issue :=
  if hasHalvedKey entries then [⟨[], .undecodable⟩]
  else fieldIssues fields entries ++ (onlyKeys (fields.map (·.1)) entries).issues

/-- A mapping is looked into if no key has halves of surrogate pairs. -/
theorem issues_entriesOf_andThen (record : String) (entries : List (Data × Data))
    (f : List (Data × Data) → Checked α) :
    ((entriesOf record (.map entries)).andThen f).issues =
      if hasHalvedKey entries then [⟨[], .undecodable⟩] else (f entries).issues := by
  rw [entriesOf]
  split <;> rfl

/-- What is said about a key is not about anything in its value. -/
theorem path_of_mem_onlyKeys {known : List String} {entries : List (Data × Data)} {i : Issue}
    (h : i ∈ (onlyKeys known entries).issues) : ∃ step, i.path = [step] := by
  rw [issues_onlyKeys] at h
  obtain ⟨e, -, hkey⟩ := List.mem_filterMap.mp h
  unfold keyIssue? at hkey
  split at hkey
  · split at hkey
    · cases hkey
    · cases hkey
      exact ⟨_, rfl⟩
  · cases hkey
    exact ⟨_, rfl⟩

/-! ### Confinement -/

/-- The issue is about what is at the path, or about something in it. -/
def Issue.IsWithin (path : List Step) (i : Issue) : Prop := path <+: i.path

instance (path : List Step) (i : Issue) : Decidable (i.IsWithin path) :=
  inferInstanceAs (Decidable (path <+: i.path))

/-- The issue seen from where the path begins. -/
def Issue.below (path : List Step) (i : Issue) : Issue := { i with path := path ++ i.path }

theorem Issue.isWithin_under {step other : Step} {path : List Step} {i : Issue} :
    (i.under step).IsWithin (other :: path) ↔ other = step ∧ i.IsWithin path :=
  List.cons_prefix_cons

/-- An issue that is found in another direction. -/
theorem Issue.not_isWithin_of_ne {step other : Step} {path rest : List Step} {i : Issue}
    (hpath : i.path = other :: rest) (h : step ≠ other) :
    ¬ i.IsWithin (step :: path) := fun hwithin => by
  rw [Issue.IsWithin, hpath, List.cons_prefix_cons] at hwithin
  exact h hwithin.1

/-- **Two reports that only differ by what is at the path.** Apart from what is reported about one
of the `shared` paths, they have the same issues elsewhere, in the same order. What is reported
within the path is what the first of them owns there. -/
structure Confined (path : List Step) (shared : List (List Step)) (own xs ys : List Issue) :
    Prop where
  elsewhere : (xs.filter fun i => ¬ i.IsWithin path ∧ i.path ∉ shared) =
    ys.filter fun i => ¬ i.IsWithin path ∧ i.path ∉ shared
  within : (xs.filter fun i => i.IsWithin path) = own.map (Issue.below path)

namespace Confined

variable {path : List Step} {shared : List (List Step)} {own xs ys : List Issue}

/-- Whatever is reported about the whole is reported within it. -/
theorem whole (own ys : List Issue) : Confined [] [] own own ys := by
  constructor
  · simp [Issue.IsWithin]
  · have hbelow : Issue.below [] = id := rfl
    simp [Issue.IsWithin, hbelow]

/-- Reports seen from one step further out. -/
theorem under (h : Confined path shared own xs ys) (step : Step) :
    Confined (step :: path) (shared.map (step :: ·)) own (xs.map (Issue.under step))
      (ys.map (Issue.under step)) := by
  have hwithin : (fun i : Issue => decide (i.IsWithin (step :: path))) ∘ Issue.under step =
      fun i => decide (i.IsWithin path) := by
    funext i
    simp [Issue.isWithin_under]
  have helsewhere : (fun i : Issue => decide (¬ i.IsWithin (step :: path) ∧
        i.path ∉ shared.map (step :: ·))) ∘ Issue.under step =
      fun i => decide (¬ i.IsWithin path ∧ i.path ∉ shared) := by
    funext i
    have hshared : (i.under step).path ∈ shared.map (step :: ·) ↔ i.path ∈ shared := by
      simp [Issue.path_under]
    simp only [Function.comp_apply, Issue.isWithin_under, true_and, hshared]
  constructor
  · rw [List.filter_map, List.filter_map, helsewhere, h.elsewhere]
  · rw [List.filter_map, hwithin, h.within, List.map_map]
    rfl

/-- One report in which nothing is within the path. -/
theorem of_not_isWithin {is : List Issue} (h : ∀ i ∈ is, ¬ i.IsWithin path) :
    Confined path shared [] is is where
  elsewhere := rfl
  within := List.filter_eq_nil_iff.mpr fun i hi => by simpa using h i hi

/-- The same issues around both reports, none of which is within the path. -/
theorem frame (h : Confined path shared own xs ys) {before after : List Issue}
    (hbefore : ∀ i ∈ before, ¬ i.IsWithin path) (hafter : ∀ i ∈ after, ¬ i.IsWithin path) :
    Confined path shared own (before ++ xs ++ after) (before ++ ys ++ after) := by
  have hnil : ∀ is : List Issue, (∀ i ∈ is, ¬ i.IsWithin path) →
      (is.filter fun i => i.IsWithin path) = [] := fun is his =>
    List.filter_eq_nil_iff.mpr fun i hi => by simpa using his i hi
  constructor
  · simp only [List.filter_append, h.elsewhere]
  · simp only [List.filter_append, hnil before hbefore, hnil after hafter, h.within,
      List.nil_append, List.append_nil]

/-- **What is reported about other parts is the same.** -/
theorem filter_eq (h : Confined path shared own xs ys) {p : Issue → Prop} [DecidablePred p]
    (hp : ∀ i, p i → ¬ i.IsWithin path ∧ i.path ∉ shared) :
    (xs.filter fun i => p i) = ys.filter fun i => p i := by
  have hfilter : ∀ is : List Issue, (is.filter fun i => p i) =
      (is.filter fun i => ¬ i.IsWithin path ∧ i.path ∉ shared).filter fun i => p i := fun is => by
    rw [List.filter_filter]
    refine List.filter_congr fun i _ => ?_
    by_cases hi : p i
    · simp [hi, hp i hi]
    · simp [hi]
  rw [hfilter xs, hfilter ys, h.elsewhere]

/-- Further issues about the whole, of which the path leads to a part. -/
theorem share (h : Confined path [] own xs ys) (hpath : path ≠ []) {more others : List Issue}
    (hmore : ∀ i ∈ more, i.path = []) (hothers : ∀ i ∈ others, i.path = []) :
    Confined path [[]] own (xs ++ more) (ys ++ others) := by
  have hwhole : ∀ is : List Issue, (∀ i ∈ is, i.path = []) →
      (is.filter fun i => ¬ i.IsWithin path ∧ i.path ∉ [[]]) = [] ∧
        (is.filter fun i => i.IsWithin path) = [] := fun is his => by
    simp only [List.filter_eq_nil_iff, decide_eq_true_eq]
    refine ⟨fun i hi hnot => ?_, fun i hi hwithin => ?_⟩
    · exact hnot.2 (by simp [his i hi])
    · exact hpath (List.prefix_nil.mp (his i hi ▸ hwithin))
  constructor
  · rw [List.filter_append, List.filter_append, (hwhole more hmore).1, (hwhole others hothers).1,
      h.filter_eq fun i hi => ⟨hi.1, List.not_mem_nil⟩]
  · rw [List.filter_append, (hwhole more hmore).2, h.within, List.append_nil]

/-- **From an item to its list.** -/
theorem item {check : Data → Checked α} {v w d d' : Data} {before after : List Data}
    (h : Confined path shared own (check v).issues (check w).issues)
    (hd : d.items? = some (before ++ v :: after)) (hd' : d'.items? = some (before ++ w :: after)) :
    Confined (.index before.length :: path) (shared.map (.index before.length :: ·)) own
      (listOf check d).issues (listOf check d').issues := by
  rw [issues_listOf hd, issues_listOf hd', itemIssues_middle, itemIssues_middle, Nat.zero_add]
  refine (h.under _).frame (fun i hi => ?_) fun i hi => ?_
  · obtain ⟨k, rest, -, hk, hpath⟩ := path_of_mem_itemIssues hi
    exact Issue.not_isWithin_of_ne hpath fun hstep => by
      have := Step.index.inj hstep
      omega
  · obtain ⟨k, rest, hk, -, hpath⟩ := path_of_mem_itemIssues hi
    exact Issue.not_isWithin_of_ne hpath fun hstep => by
      have := Step.index.inj hstep
      omega

end Confined

/-! ### From a value to its record -/

/-- A key that is not the one between the entries is found beside it, whatever its value. -/
theorem find?_middle_of_ne {name other : String} (h : other ≠ name)
    (before after : List (Data × Data)) (v w : Data) :
    Data.find? other (before ++ (.text name, v) :: after) =
      Data.find? other (before ++ (.text name, w) :: after) := by
  induction before with
  | nil => simp [Data.find?, Data.sameKey_text, Ne.symm h]
  | cons e rest ih =>
    obtain ⟨k, u⟩ := e
    simp only [List.cons_append, Data.find?, ih]

theorem find?_middle_self {name : String} {before : List (Data × Data)}
    (h : Data.find? name before = none) (after : List (Data × Data)) (v : Data) :
    Data.find? name (before ++ (.text name, v) :: after) = some v := by
  induction before with
  | nil => simp [Data.find?, Data.sameKey_text]
  | cons e rest ih =>
    obtain ⟨k, u⟩ := e
    rw [Data.find?] at h
    split at h
    · cases h
    · next hk => rw [List.cons_append, Data.find?, if_neg hk, ih h]

/-- What is said about the keys is the same whatever the value of one of them is. -/
theorem onlyKeys_middle (known : List String) (name : String) (before after : List (Data × Data))
    (v w : Data) :
    (onlyKeys known (before ++ (.text name, v) :: after)).issues =
      (onlyKeys known (before ++ (.text name, w) :: after)).issues := by
  simp only [issues_onlyKeys, List.filterMap_append, List.filterMap_cons]

/-- Whether a key has halves of surrogate pairs does not depend on any value. -/
theorem hasHalvedKey_middle (name : String) (before after : List (Data × Data)) (v w : Data) :
    hasHalvedKey (before ++ (.text name, v) :: after) =
      hasHalvedKey (before ++ (.text name, w) :: after) := by
  simp only [hasHalvedKey, List.any_append, List.any_cons]

/-- What is reported about the values of other keys is not within a path that begins with the key,
and is the same whatever the value of the key is. -/
theorem fieldIssues_of_ne {fields : List (String × (Option Data → List Issue))} {name : String}
    (h : name ∉ fields.map (·.1)) (before after : List (Data × Data)) (v w : Data) :
    fieldIssues fields (before ++ (.text name, v) :: after) =
        fieldIssues fields (before ++ (.text name, w) :: after) ∧
      ∀ path, ∀ i ∈ fieldIssues fields (before ++ (.text name, v) :: after),
        ¬ i.IsWithin (.key name :: path) := by
  have hne : ∀ f ∈ fields, f.1 ≠ name := fun f hf hname => h (List.mem_map.mpr ⟨f, hf, hname⟩)
  constructor
  · refine List.flatMap_congr fun f hf => ?_
    rw [find?_middle_of_ne (hne f hf)]
  · intro path i hi
    obtain ⟨f, hf, hi⟩ := List.mem_flatMap.mp hi
    obtain ⟨j, -, rfl⟩ := List.mem_map.mp hi
    exact Issue.not_isWithin_of_ne (Issue.path_under _ j) fun hstep =>
      hne f hf (Step.key.inj hstep).symm

/-- From a value to what is said about its record key by key. -/
theorem Confined.fields {fields : List (String × (Option Data → List Issue))} {name : String}
    {about : Option Data → List Issue} (hfield : (name, about) ∈ fields)
    (hfields : (fields.map (·.1)).Nodup) {before : List (Data × Data)}
    (hbefore : Data.find? name before = none) {path : List Step} {shared : List (List Step)}
    {own : List Issue} {v w : Data} (h : Confined path shared own (about (some v)) (about (some w)))
    (hpath : path ≠ []) (after : List (Data × Data)) :
    Confined (.key name :: path) (shared.map (.key name :: ·)) own
      (fieldIssues fields (before ++ (.text name, v) :: after) ++
        (onlyKeys (fields.map (·.1)) (before ++ (.text name, v) :: after)).issues)
      (fieldIssues fields (before ++ (.text name, w) :: after) ++
        (onlyKeys (fields.map (·.1)) (before ++ (.text name, w) :: after)).issues) := by
  obtain ⟨earlier, later, rfl⟩ := List.append_of_mem hfield
  rw [List.map_append, List.map_cons, List.nodup_append, List.nodup_cons] at hfields
  obtain ⟨-, ⟨hlater, -⟩, hdisjoint⟩ := hfields
  have hearlier : name ∉ earlier.map (·.1) := fun hmem => hdisjoint name hmem name (by simp) rfl
  obtain ⟨hearlier, hoff⟩ := fieldIssues_of_ne hearlier before after v w
  obtain ⟨hlater, hoff'⟩ := fieldIssues_of_ne hlater before after v w
  have hsplit : ∀ d, fieldIssues (earlier ++ (name, about) :: later)
        (before ++ (.text name, d) :: after) =
      fieldIssues earlier (before ++ (.text name, d) :: after) ++
        (about (some d)).map (Issue.under (.key name)) ++
        fieldIssues later (before ++ (.text name, d) :: after) := fun d => by
    rw [fieldIssues, List.flatMap_append, List.flatMap_cons, find?_middle_self hbefore,
      List.append_assoc]
    rfl
  rw [hsplit v, hsplit w, ← hearlier, ← hlater, onlyKeys_middle _ name before after w v,
    List.append_assoc, List.append_assoc _ _ (Checked.issues _)]
  refine (h.under _).frame (hoff path) fun i hi => ?_
  rcases List.mem_append.mp hi with hi | hi
  · exact hoff' path i hi
  · obtain ⟨step, hstep⟩ := path_of_mem_onlyKeys hi
    intro hwithin
    rw [Issue.IsWithin, hstep, List.cons_prefix_cons] at hwithin
    exact hpath (List.prefix_nil.mp hwithin.2)

/-- **From a value to its record.** A record that has a key with halves of surrogate pairs reports
nothing about what is in it. -/
theorem Confined.field {fields : List (String × (Option Data → List Issue))} {name : String}
    {about : Option Data → List Issue} (hfield : (name, about) ∈ fields)
    (hfields : (fields.map (·.1)).Nodup) {before : List (Data × Data)}
    (hbefore : Data.find? name before = none) {path : List Step} {shared : List (List Step)}
    {own : List Issue} {v w : Data} (h : Confined path shared own (about (some v)) (about (some w)))
    (hpath : path ≠ []) (after : List (Data × Data)) :
    Confined (.key name :: path) (shared.map (.key name :: ·))
      (if hasHalvedKey (before ++ (.text name, v) :: after) then [] else own)
      (recordIssues fields (before ++ (.text name, v) :: after))
      (recordIssues fields (before ++ (.text name, w) :: after)) := by
  rw [recordIssues, recordIssues, hasHalvedKey_middle name before after w v]
  split
  · refine .of_not_isWithin fun i hi hwithin => ?_
    obtain rfl := List.mem_singleton.mp hi
    exact List.cons_ne_nil _ _ (List.prefix_nil.mp hwithin)
  · exact h.fields hfield hfields hbefore hpath after

end Typestate.Schema
