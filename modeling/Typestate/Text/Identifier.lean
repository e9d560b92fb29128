import Typestate.Text.IdentifierTable

/-! # Identifier tails

Names of generated types and members are glued to other names, so what they need is that every
character may continue an identifier; a digit in front is harmless. -/

namespace Typestate.Text

/-- Every character of the text may continue an identifier, and there is at least one. -/
def isIdentifierTail (s : String) : Bool :=
  !s.toList.isEmpty && s.toList.all fun c => memSpans identifierSpans c.toNat

theorem isIdentifierTail_empty : isIdentifierTail "" = false := by decide

end Typestate.Text
