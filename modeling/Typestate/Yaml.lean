import Typestate.Yaml.Lexer
import Typestate.Yaml.Value

/-! # YAML documents

`Yaml.read` gives the value of a YAML 1.1 document: its tokens, their tree, and the value of the
tree. A document that is malformed has none, and neither has one with a scalar that has the form
of a date or number but denotes nothing. `Excerpt.value` gives the value of a document that may be
cut off; the cut only matters if the tokens come to it. -/

namespace Typestate.Yaml

/-- The value of a document as far as it can be read. -/
def Excerpt.value (document : Excerpt) : Except Fault Data := do
  (← Document.ofTokens (tokens document)).value

/-- **The value of a document.** -/
def read (document : List Char) : Except Fault Data := (Excerpt.ofText document).value

end Typestate.Yaml
