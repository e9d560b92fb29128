import Typestate.Text.Span

/-! # Blank characters

* `isBlank`: the characters that Unicode counts as white space, and the four separators
  `U+001C` to `U+001F`; `isWhiteSpace` leaves these four out.
* `strip`: a text without the blanks at its two ends. -/

namespace Typestate.Text

/-- White space characters and the four separators. -/
def blankSpans : List Span :=
  [⟨0x9, 0xd⟩, ⟨0x1c, 0x20⟩, ⟨0x85, 0x85⟩, ⟨0xa0, 0xa0⟩, ⟨0x1680, 0x1680⟩, ⟨0x2000, 0x200a⟩,
   ⟨0x2028, 0x2029⟩, ⟨0x202f, 0x202f⟩, ⟨0x205f, 0x205f⟩, ⟨0x3000, 0x3000⟩]

/-- The character is white space or one of the four separators. -/
def isBlank (c : Char) : Bool := memSpans blankSpans c.toNat

/-- The character is white space. -/
def isWhiteSpace (c : Char) : Bool := isBlank c && !(0x1c ≤ c.toNat && c.toNat ≤ 0x1f)

/-- The characters without the blanks at the end. -/
def stripRight (cs : List Char) : List Char := (cs.reverse.dropWhile isBlank).reverse

/-- The characters without the blanks at both ends. -/
def stripChars (cs : List Char) : List Char := stripRight (cs.dropWhile isBlank)

/-- The text without the blanks at both ends. -/
def strip (s : String) : String := String.ofList (stripChars s.toList)

theorem dropWhile_isBlank_of_all {cs : List Char} (h : ∀ c ∈ cs, isBlank c = true) :
    cs.dropWhile isBlank = [] := by
  induction cs with
  | nil => rfl
  | cons c rest ih =>
    simp only [List.mem_cons, forall_eq_or_imp] at h
    simp [h.1, ih h.2]

/-- **A blank text has nothing left.** -/
theorem stripChars_of_all {cs : List Char} (h : ∀ c ∈ cs, isBlank c = true) :
    stripChars cs = [] := by
  simp [stripChars, stripRight, dropWhile_isBlank_of_all h]

end Typestate.Text
