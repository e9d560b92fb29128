import Typestate.Yaml.Token
import Typestate.Yaml.Tag

/-! # The tree of a document

A `Node` is a scalar, a sequence, a mapping, or an alias that refers to another node. A `Document`
is a node and the nodes that its anchors name.

* `Source`: the tokens that are left, and what is known about tags and anchors.
* `Grammar.node`: one node from the tokens. Where a collection may leave a node out, it is null.
* `Document.ofTokens`: the document of a list of tokens; there may be only one.

An anchor is known from its node on, so an alias may stand inside the node that it refers to. -/

namespace Typestate.Yaml

/-- A part of a document. -/
inductive Node where
  | alias (name : String)
  | scalar (tag : Tag) (text : String)
  | sequence (tag : Tag) (items : List Node)
  | mapping (tag : Tag) (entries : List (Node × Node))
deriving Inhabited

/-- A node, and the nodes that anchors name, in the order of their ends. -/
structure Document where
  root : Node
  anchors : List (String × Node)

/-- What is in front of a reader of tokens. -/
structure Source where
  tokens : List Token
  /-- The expansions of tag handles. -/
  handles : List (String × String)
  /-- The anchors so far. -/
  names : List String
  /-- The nodes that are complete and have an anchor, last one first. -/
  anchors : List (String × Node)

/-- A step that takes tokens. -/
abbrev Grammar (α : Type) := Source → Except Fault (α × Source)

/-- A node that is left out. -/
def Node.absent : Node := .scalar .null ""

/-- What is wrong with tokens that do not continue the document. -/
def faultAt : List Token → Fault
  | .broken fault :: _ => fault
  | _ => .malformed

/-- The next token satisfies `p`. -/
def Source.isNext (s : Source) (p : Token → Bool) : Bool := s.tokens.head?.any p

/-- Behind the next token. -/
def Source.behind (s : Source) : Source := { s with tokens := s.tokens.tail }

/-- Behind the next token, if it is the given one. -/
def Source.drop? (s : Source) (t : Token) : Option Source :=
  if s.isNext (· == t) then some s.behind else none

namespace Grammar

/-! ### Anchors and tags -/

/-- The expansions that need no directive. -/
def standardHandles : List (String × String) := [("!", "!"), ("!!", Tag.standard)]

/-- The full name of a tag. -/
def tagName (handles : List (String × String)) (t : TagName) : Except Fault String :=
  match t.handle with
  | none => .ok t.suffix
  | some handle =>
    match handles.lookup handle with
    | some expansion => .ok (expansion ++ t.suffix)
    | none => .error .malformed

/-- What stands before a node: an anchor and a tag, in either order. -/
def properties : Grammar (Option String × Option TagName) := fun s =>
  match s.tokens with
  | .anchor name :: .tag tag :: rest => .ok ((some name, some tag), { s with tokens := rest })
  | .tag tag :: .anchor name :: rest => .ok ((some name, some tag), { s with tokens := rest })
  | .anchor _ :: .broken fault :: _ => .error fault
  | .tag _ :: .broken fault :: _ => .error fault
  | .anchor name :: rest => .ok ((some name, none), { s with tokens := rest })
  | .tag tag :: rest => .ok ((none, some tag), { s with tokens := rest })
  | _ => .ok ((none, none), s)

/-- The document is at fault before anything else is looked at. -/
def unbroken (s : Source) : Except Fault Unit :=
  match s.tokens with
  | .broken fault :: _ => .error fault
  | _ => .ok ()

/-- A new anchor becomes known. -/
def announce (anchor : Option String) (s : Source) : Except Fault Source :=
  match anchor with
  | none => .ok s
  | some name =>
    if s.names.contains name then .error .malformed else .ok { s with names := name :: s.names }

/-- The node of an anchor is complete. -/
def settle (anchor : Option String) (found : Node × Source) : Node × Source :=
  match anchor with
  | none => found
  | some name => (found.1, { found.2 with anchors := (name, found.1) :: found.2.anchors })

/-- The tag of a scalar: that of its text, if it is plain and has no tag or only a bare one. -/
def scalarTag (tag : Option String) (text : String) (style : Style) : Tag :=
  let found := match tag with
    | none => if style = .plain then Tag.ofText text else .text
    | some name => if name == "!" then Tag.ofText text else Tag.ofName name
  if style = .halved ∧ found = .text then .halved else found

/-- The tag of a collection. -/
def collectionTag (default : Tag) (tag : Option String) : Tag :=
  match tag with
  | none => default
  | some name => if name == "!" then default else Tag.ofName name

/-! ### Nodes -/

/-- Where a node stands; behind a key or a colon a sequence need not be indented. -/
inductive Place where
  | flow
  | block
  | blockValue
deriving DecidableEq

/-- Whether an entry is the first one of its flow collection. -/
inductive Opening where
  | first
  | later
deriving DecidableEq

/-- In front of an entry of a flow collection: a comma, unless it is the first one. -/
def comma (opening : Opening) (s : Source) : Except Fault Source :=
  match opening with
  | .first => .ok s
  | .later =>
    match s.drop? .comma with
    | some s => .ok s
    | none => .error (faultAt s.tokens)

/-- In an indented sequence an item is left out before these tokens. -/
def endsBlockEntry (t : Token) : Bool := t == .entry || t == .blockEnd

/-- In an indented mapping a key or value is left out before these tokens. -/
def endsBlockPart (t : Token) : Bool := t == .key || t == .value || t == .blockEnd

/-- In a sequence that is not indented an item is left out before these tokens. -/
def endsPlainEntry (t : Token) : Bool := t == .entry || endsBlockPart t

mutual

/-- One node. The number bounds the steps. -/
def node : Nat → Place → Grammar Node
  | 0, _, s => .error (faultAt s.tokens)
  | fuel + 1, place, s =>
    match s.tokens with
    | .alias name :: rest =>
      if s.names.contains name then .ok (.alias name, { s with tokens := rest })
      else .error .malformed
    | _ => do
      let ((anchor, tag), s) ← properties s
      let tag ← tag.mapM (tagName s.handles)
      unbroken s
      let s ← announce anchor s
      settle anchor <$> content fuel place (anchor.isSome || tag.isSome) tag s

/-- A node behind its anchor and tag. -/
def content : Nat → Place → Bool → Option String → Grammar Node
  | 0, _, _, _, s => .error (faultAt s.tokens)
  | fuel + 1, place, hasProperties, tag, s =>
    let rest := s.behind
    let sequence (items : List Node) : Node := .sequence (collectionTag .sequence tag) items
    let mapping (entries : List (Node × Node)) : Node :=
      .mapping (collectionTag .mapping tag) entries
    match s.tokens with
    | .scalar text style :: _ =>
      .ok (.scalar (scalarTag tag (String.ofList text) style) (String.ofList text), rest)
    | .flowSequence :: _ => Prod.map sequence id <$> flowItems fuel .first rest
    | .flowMapping :: _ => Prod.map mapping id <$> flowEntries fuel .first rest
    | t :: _ =>
      if place = .blockValue ∧ t = .entry then Prod.map sequence id <$> plainItems fuel s
      else if place ≠ .flow ∧ t = .blockSequence then Prod.map sequence id <$> blockItems fuel rest
      else if place ≠ .flow ∧ t = .blockMapping then Prod.map mapping id <$> blockEntries fuel rest
      else if hasProperties then
        .ok (.scalar (scalarTag tag "" (if tag = none then .plain else .marked)) "", s)
      else .error (faultAt s.tokens)
    | [] => .error .malformed

/-- A node that is left out if the next token satisfies `p`. -/
def nodeUnless : Nat → Place → (Token → Bool) → Grammar Node
  | 0, _, _, s => .error (faultAt s.tokens)
  | fuel + 1, place, p, s => if s.isNext p then .ok (.absent, s) else node fuel place s

/-- The items of an indented sequence, and its end. -/
def blockItems : Nat → Grammar (List Node)
  | 0, s => .error (faultAt s.tokens)
  | fuel + 1, s =>
    match s.tokens with
    | .entry :: _ => do
      let (item, s) ← nodeUnless fuel .block endsBlockEntry s.behind
      let (items, s) ← blockItems fuel s
      .ok (item :: items, s)
    | .blockEnd :: _ => .ok ([], s.behind)
    | tokens => .error (faultAt tokens)

/-- The items of a sequence that is not indented. -/
def plainItems : Nat → Grammar (List Node)
  | 0, s => .error (faultAt s.tokens)
  | fuel + 1, s =>
    match s.tokens with
    | .entry :: _ => do
      let (item, s) ← nodeUnless fuel .block endsPlainEntry s.behind
      let (items, s) ← plainItems fuel s
      .ok (item :: items, s)
    | _ => .ok ([], s)

/-- The entries of an indented mapping, and its end. -/
def blockEntries : Nat → Grammar (List (Node × Node))
  | 0, s => .error (faultAt s.tokens)
  | fuel + 1, s =>
    match s.tokens with
    | .key :: _ => do
      let (key, s) ← nodeUnless fuel .blockValue endsBlockPart s.behind
      let (value, s) ← valueOf fuel .blockValue endsBlockPart s
      let (entries, s) ← blockEntries fuel s
      .ok ((key, value) :: entries, s)
    | .blockEnd :: _ => .ok ([], s.behind)
    | tokens => .error (faultAt tokens)

/-- The value behind a key; without a colon it is left out. -/
def valueOf : Nat → Place → (Token → Bool) → Grammar Node
  | 0, _, _, s => .error (faultAt s.tokens)
  | fuel + 1, place, p, s =>
    match s.tokens with
    | .value :: _ => nodeUnless fuel place p s.behind
    | .broken fault :: _ => .error fault
    | _ => .ok (.absent, s)

/-- A key and its value in a flow collection that ends with `close`. -/
def flowPair : Nat → Token → Grammar (Node × Node)
  | 0, _, s => .error (faultAt s.tokens)
  | fuel + 1, close, s => do
    let (key, s) ← nodeUnless fuel .flow (fun t => t == .value || t == .comma || t == close) s
    let (value, s) ← valueOf fuel .flow (fun t => t == .comma || t == close) s
    .ok ((key, value), s)

/-- The items of a flow sequence, and its end. A pair among them is a mapping of its own. -/
def flowItems : Nat → Opening → Grammar (List Node)
  | 0, _, s => .error (faultAt s.tokens)
  | fuel + 1, opening, s =>
    if s.isNext (· == .flowSequenceEnd) then .ok ([], s.behind)
    else do
      let s ← comma opening s
      if s.isNext (· == .flowSequenceEnd) then .ok ([], s.behind)
      else
        let (item, s) ←
          if s.isNext (· == .key) then
            Prod.map (fun pair => Node.mapping .mapping [pair]) id <$>
              flowPair fuel .flowSequenceEnd s.behind
          else node fuel .flow s
        let (items, s) ← flowItems fuel .later s
        .ok (item :: items, s)

/-- The entries of a flow mapping, and its end. A node that is no key has no value. -/
def flowEntries : Nat → Opening → Grammar (List (Node × Node))
  | 0, _, s => .error (faultAt s.tokens)
  | fuel + 1, opening, s =>
    if s.isNext (· == .flowMappingEnd) then .ok ([], s.behind)
    else do
      let s ← comma opening s
      if s.isNext (· == .flowMappingEnd) then .ok ([], s.behind)
      else
        let (entry, s) ←
          if s.isNext (· == .key) then flowPair fuel .flowMappingEnd s.behind
          else Prod.map (fun key => (key, Node.absent)) id <$> node fuel .flow s
        let (entries, s) ← flowEntries fuel .later s
        .ok (entry :: entries, s)

end

/-! ### Documents -/

/-- The handles that directives declare. -/
def directives : List Token → Bool → List (String × String) →
    Except Fault (List (String × String) × List Token)
  | .directive (.version major) :: rest, hasVersion, handles =>
    if hasVersion || major != 1 then .error .malformed else directives rest true handles
  | .directive (.handle handle expansion) :: rest, hasVersion, handles =>
    if (handles.lookup handle).isSome then .error .malformed
    else directives rest hasVersion ((handle, expansion) :: handles)
  | .directive .other :: rest, hasVersion, handles => directives rest hasVersion handles
  | tokens, _, handles => .ok (handles ++ standardHandles, tokens)

/-- A document without content. -/
def endsContent (t : Token) : Bool :=
  match t with
  | .directive _ => true
  | .documentStart => true
  | .documentEnd => true
  | .streamEnd => true
  | _ => false

/-- The end of the only document. -/
def ending : List Token → Except Fault Unit
  | .documentEnd :: rest => ending rest
  | [.streamEnd] => .ok ()
  | tokens => .error (faultAt tokens)

/-- The content of a document, and the end. -/
def document (mayBeEmpty : Bool) (handles : List (String × String)) (tokens : List Token) :
    Except Fault Document := do
  let start : Source := ⟨tokens, handles, [], []⟩
  let fuel := 8 * (tokens.length + 1)
  let (root, s) ←
    if mayBeEmpty && start.isNext endsContent then .ok (.absent, start) else node fuel .block start
  ending s.tokens
  .ok ⟨root, s.anchors.reverse⟩

end Grammar

open Grammar in
/-- **The document of a list of tokens.** Directives need an explicit start; without any content
the document is null. -/
def Document.ofTokens (tokens : List Token) : Except Fault Document :=
  match tokens with
  | [.streamEnd] => .ok ⟨.absent, []⟩
  | .directive _ :: _ => do
    match ← directives tokens false [] with
    | (handles, .documentStart :: rest) => document true handles rest
    | (_, rest) => .error (faultAt rest)
  | .documentStart :: rest => document true standardHandles rest
  | tokens => document false standardHandles tokens

end Typestate.Yaml
