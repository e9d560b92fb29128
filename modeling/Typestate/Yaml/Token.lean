import Typestate.Failure

/-! # Tokens of a document

The lexical units of YAML 1.1. Block structure is made explicit: `blockSequence` and `blockMapping`
open a block collection where the indentation grows, `blockEnd` closes one.

A `Fault` says why a document cannot be read: it is malformed, or a scalar in it denotes no value,
or its bytes are no text; `Fault.failure` is the failure that it leads to. A list of tokens that
ends in `broken` comes from a document that is at fault behind them. -/

namespace Typestate.Yaml

/-- Why a document cannot be read. -/
inductive Fault where
  | malformed
  /-- The text ends inside a scalar. -/
  | ended
  | undecodable (fault : Text.Utf8.Fault)
  | refused (r : Refusal)
  | missing (m : Missing)
  | noPosition (a : Access)
  | beyond (e : Excess)
  | mismatch (m : Mismatch)
  | lacking (kind feature : String)
deriving DecidableEq

/-- The failure to read a document. -/
def Fault.failure : Fault → Failure
  | .malformed => .malformed
  | .ended => .malformed
  | .undecodable fault => .undecodable fault
  | .refused r => .refused r
  | .missing m => .missing m
  | .noPosition a => .noPosition a
  | .beyond e => .beyond e
  | .mismatch m => .mismatch m
  | .lacking kind feature => .lacking kind feature

/-- A line that says how to read the document behind it. -/
inductive Directive where
  | version (major : Nat)
  | handle (handle expansion : String)
  | other
deriving DecidableEq

/-- A tag as it is written: a handle, if there is one, and what follows it. -/
structure TagName where
  handle : Option String
  suffix : String
deriving DecidableEq

/-- How a scalar is written. -/
inductive Style where
  | plain
  /-- Quoted, or as a block. -/
  | marked
  /-- Quoted, with escapes for halves of surrogate pairs. -/
  | halved
deriving DecidableEq

/-- A lexical unit. -/
inductive Token where
  | directive (d : Directive)
  | documentStart
  | documentEnd
  | streamEnd
  | blockSequence
  | blockMapping
  | blockEnd
  | flowSequence
  | flowSequenceEnd
  | flowMapping
  | flowMappingEnd
  | entry
  | comma
  | key
  | value
  | alias (name : String)
  | anchor (name : String)
  | tag (name : TagName)
  | scalar (text : List Char) (style : Style)
  | broken (fault : Fault)
deriving DecidableEq

end Typestate.Yaml
