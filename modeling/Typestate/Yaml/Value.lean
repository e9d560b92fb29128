import Typestate.Yaml.Node
import Typestate.Yaml.ScalarValue

/-! # The value of a document

* `Outcome`: the value of a node, and its faults. A document with several faults is refused for the
  one that is least deep, and among those for the first one. A collection is filled after its place
  is known, so what is wrong in it is one level deeper.
* `Meaning`: a node with the nodes that its aliases refer to, and its outcome. A mapping also has
  its entries after merging.
* `Node.meaning`: the meaning of a node, from those of the anchors.
* `Document.value`: the value of a document, or what is wrong with it. An alias inside the node
  that it refers to is followed `selfUses` times, which is deeper than any reader of the value
  looks. -/

namespace Typestate.Yaml

/-! ### Outcomes -/

/-- What is wrong in a node: the first fault on each level, if there is one. -/
abbrev Faults := List (Option Fault)

namespace Faults

/-- The first fault on each level of two nodes side by side. -/
def beside : Faults → Faults → Faults
  | [], levels => levels
  | levels, [] => levels
  | a :: rest, b :: rest' => (a <|> b) :: beside rest rest'

/-- The fault that counts. -/
def decisive (levels : Faults) : Option Fault := levels.findSome? id

end Faults

/-- The value of a node, what is wrong with it at once, and what is wrong in it. -/
structure Outcome where
  value : Data
  fault : Option Fault := none
  inner : Faults := []

namespace Outcome

/-- A node that is at fault. -/
def broken (fault : Fault) : Outcome := { value := .null, fault := some fault }

/-- A scalar. -/
def scalar (found : Except Fault Data) : Outcome :=
  match found with
  | .ok value => { value }
  | .error fault => broken fault

/-- The faults, from the outside in. -/
def faults (o : Outcome) : Faults := o.fault :: o.inner

/-- A collection cannot be a key. -/
def asKey (o : Outcome) : Outcome :=
  if o.fault.isSome || o.value.isKey then o else broken .malformed

/-- The faults of parts side by side. -/
def innerFaults (parts : List Outcome) : Faults :=
  parts.foldl (fun levels o => levels.beside o.faults) []

/-- A sequence. -/
def sequence (items : List Outcome) : Outcome :=
  { value := .list (items.map Outcome.value), inner := innerFaults items }

/-- A mapping; of equal keys the last one counts. -/
def mapping (entries : List (Outcome × Outcome)) : Outcome :=
  { value := .map (entries.foldl (fun found e => Data.insertEntry e.1.value e.2.value found) [])
    inner := innerFaults (entries.flatMap fun e => [e.1.asKey, e.2]) }

/-- A set of the keys of a mapping. -/
def set (entries : List (Outcome × Outcome)) : Outcome :=
  let whole := mapping entries
  { whole with value := match whole.value with
      | .map entries => .set (entries.map Prod.fst)
      | other => other }

/-- A sequence of pairs; an item that is no pair is at fault. -/
def pairs (items : List (Option (Outcome × Outcome))) : Outcome :=
  { value := .list (items.filterMap fun item => item.map fun e => .pair e.1.value e.2.value)
    inner := innerFaults (items.flatMap fun item =>
      match item with
      | some e => [e.1, e.2]
      | none => [broken .malformed]) }

/-- A node whose tag is not for nodes of its form. A collection of the tag stays empty, and what is
wrong is found when it is filled. A tag of scalars takes the text of the node, if it has one. -/
def misfit (tag : Tag) (text : Option String) : Outcome :=
  let empty (value : Data) : Outcome := { value, inner := [some .malformed] }
  match tag with
  | .sequence => empty (.list [])
  | .pairs => empty (.list [])
  | .mapping => empty (.map [])
  | .set => empty (.set [])
  | tag =>
    match text with
    | some text => scalar (scalarValue tag text)
    | none => broken .malformed

end Outcome

/-! ### Meanings -/

/-- A node with the nodes that its aliases refer to. -/
inductive Meaning where
  /-- A node that is not known yet. -/
  | pending
  | scalar (tag : Tag) (text : String)
  | sequence (tag : Tag) (items : List Meaning) (outcome : Outcome)
  /-- A mapping as it is written, its entries after merging, if its merges are mappings, and the
  text of its default value. -/
  | mapping (tag : Tag) (written : List (Meaning × Meaning)) (merged : List (Meaning × Meaning))
      (canMerge : Bool) (text : Option String) (outcome : Outcome)
deriving Inhabited

namespace Meaning

/-- The outcome of a node. -/
def outcome : Meaning → Outcome
  | .pending => { value := .null }
  | .scalar tag text => .misfit tag (some text)
  | .sequence _ _ outcome => outcome
  | .mapping _ _ _ _ _ outcome => outcome

/-- The tag of a node. -/
def tag : Meaning → Tag
  | .pending => .null
  | .scalar tag _ => tag
  | .sequence tag _ _ => tag
  | .mapping tag _ _ _ _ _ => tag

/-- The text that a tag of scalars takes: that of a scalar, or of the default value of a mapping. -/
def text : Meaning → Option String
  | .scalar _ text => some text
  | .mapping _ _ _ _ text _ => text
  | _ => none

/-- The only entry of a mapping that has one. -/
def onlyEntry? : Meaning → Option (Outcome × Outcome)
  | .mapping _ [(key, value)] _ _ _ _ => some (key.outcome, value.outcome)
  | _ => none

/-- The outcome of a sequence with a tag. -/
def sequenceOutcome (tag : Tag) (items : List Meaning) : Outcome :=
  match tag with
  | .sequence => .sequence (items.map outcome)
  | .pairs => .pairs (items.map onlyEntry?)
  | tag => .misfit tag none

/-- A sequence. -/
def ofItems (tag : Tag) (items : List Meaning) : Meaning :=
  .sequence tag items (sequenceOutcome tag items)

/-- The outcome of a mapping with a tag. -/
def mappingOutcome (tag : Tag) (merged : List (Meaning × Meaning)) (canMerge : Bool)
    (text : Option String) : Outcome :=
  let entries := merged.map fun e => (e.1.outcome, e.2.outcome)
  match tag with
  | .mapping => if canMerge then .mapping entries else .misfit .mapping none
  | .set => if canMerge then .set entries else .misfit .set none
  | .moment => if text.isSome then .broken (.mismatch .notSearchable) else .broken .malformed
  | tag => .misfit tag text

/-- A key of a mapping, where the mark of a default value is an ordinary text. -/
def asKey (key : Meaning) : Meaning :=
  if key.tag = .defaultKey then
    match key with
    | .pending => .pending
    | .scalar _ text => .scalar .text text
    | .sequence _ items _ => ofItems .text items
    | .mapping _ written merged canMerge text _ =>
      .mapping .text written merged canMerge text (mappingOutcome .text merged canMerge text)
  else key

/-- The entries that a node gives to a mapping that merges it. -/
def givenEntries? : Meaning → Option (List (Meaning × Meaning))
  | .pending => some []
  | .mapping _ _ merged canMerge _ _ => if canMerge then some merged else none
  | _ => none

/-- The entries that the value of a merge stands for; of several mappings the first one counts. -/
def mergedEntries? : Meaning → Option (List (Meaning × Meaning))
  | .sequence _ items _ => (items.mapM givenEntries?).map fun parts => parts.reverse.flatten
  | single => single.givenEntries?

/-- A mapping with its entries as they are written; its own entries count more than merged ones. -/
def ofEntries (tag : Tag) (written : List (Meaning × Meaning)) : Meaning :=
  let parts := written.partition fun e => e.1.tag = .merge
  let given := parts.1.mapM fun e => e.2.mergedEntries?
  let merged := (given.getD []).flatten ++ parts.2.map fun e => (e.1.asKey, e.2)
  let text := (written.find? fun e => e.1.tag = .defaultKey).bind fun e => e.2.text
  .mapping tag written merged given.isSome text (mappingOutcome tag merged given.isSome text)

end Meaning

/-! ### Documents -/

/-- The meanings of anchors. -/
abbrev Anchors := List (String × Meaning)

mutual

/-- The meaning of a node. -/
def Node.meaning (known : Anchors) : Node → Meaning
  | .alias name => (known.lookup name).getD .pending
  | .scalar tag text => .scalar tag text
  | .sequence tag items => .ofItems tag (Node.meanings known items)
  | .mapping tag entries => .ofEntries tag (Node.entryMeanings known entries)

/-- The meanings of several nodes. -/
def Node.meanings (known : Anchors) : List Node → List Meaning
  | [] => []
  | node :: rest => node.meaning known :: Node.meanings known rest

/-- The meanings of keys and values. -/
def Node.entryMeanings (known : Anchors) : List (Node × Node) → List (Meaning × Meaning)
  | [] => []
  | (key, value) :: rest =>
    (key.meaning known, value.meaning known) :: Node.entryMeanings known rest

end

/-- How often an alias inside its own node is followed. -/
def selfUses : Nat := 4

/-- The meanings of anchors, from what is known about them; each one sees those before it. -/
def Anchors.refined (anchors : List (String × Node)) (known : Anchors) : Anchors :=
  anchors.foldl (fun known a => (a.1, a.2.meaning known) :: known) known

/-- The meanings of anchors, found in some rounds. -/
def Anchors.found (anchors : List (String × Node)) : Nat → Anchors
  | 0 => []
  | rounds + 1 => refined anchors (found anchors rounds)

/-- **The value of a document.** -/
def Document.value (d : Document) : Except Fault Data :=
  let outcome := (d.root.meaning (Anchors.found d.anchors (selfUses + 1))).outcome
  match outcome.faults.decisive with
  | some fault => .error fault
  | none => .ok outcome.value

/-- A document that is a text denotes it. -/
theorem value_text (text : String) :
    Document.value ⟨.scalar .text text, []⟩ = .ok (.text text) := rfl

end Typestate.Yaml
