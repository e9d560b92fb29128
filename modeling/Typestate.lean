import Typestate.Text.LetterCase
import Typestate.Text.Blank
import Typestate.Text.Identifier
import Typestate.Text.Quoted
import Typestate.Number.Shortest
import Typestate.Number.Numeral
import Typestate.Data.Json
import Typestate.Text.Utf8
import Typestate.Description
import Typestate.Settings.Sources
import Typestate.Log.Setup
import Typestate.Proofs.Outcome
import Typestate.Proofs.Run
import Typestate.Proofs.Ending
import Typestate.Proofs.References
import Typestate.Proofs.Builtin
import Typestate.Proofs.Criterion
import Typestate.Proofs.Bindings
import Typestate.Proofs.Insertion
import Typestate.Proofs.Lookup
import Typestate.Proofs.Acceptance
import Typestate.Proofs.Loaded
import Typestate.Proofs.Yaml.Scan
import Typestate.Proofs.Yaml.Tokens
import Typestate.Proofs.Yaml.Tree
import Typestate.Proofs.Yaml.Value
import Typestate.Proofs.Loading
import Typestate.Proofs.Independence
import Typestate.Proofs.Record
import Typestate.Proofs.Shape
import Typestate.Proofs.Spelling
import Typestate.Proofs.Numbering
import Typestate.Proofs.Contradiction
import Typestate.Proofs.Successor
import Typestate.Proofs.Presentation
import Typestate.Proofs.NameTable
import Typestate.Proofs.Decoding
import Typestate.Proofs.Identifiers
import Typestate.Proofs.Issues
import Typestate.Proofs.Locality
import Typestate.Proofs.Availability
import Typestate.Proofs.Reordering
import Typestate.Proofs.Context
import Typestate.Proofs.Settings
import Typestate.Proofs.Declared
import Typestate.Proofs.Tables
import Typestate.Proofs.Counting
import Typestate.Proofs.Partial
import Typestate.Proofs.Layers
import Typestate.Proofs.Conjunction
import Typestate.Proofs.Mirror
import Typestate.Proofs.Renaming
import Typestate.Proofs.GroupOrder
import Typestate.Proofs.Respelling
import Typestate.Proofs.Replacement
import Typestate.Proofs.Handoff
import Typestate.Proofs.LogSetup
import Typestate.Proofs.Trace
