import Typestate.Text.CaseTable

/-! # Lower and upper case

Full case conversion of Unicode text.

* `lower`: every character by its lower case, `İ` by `i` and a dot above, and a capital sigma by
  the final form `ς` where it ends a word: a cased character stands before it and none after it,
  case-ignorable characters not counted.
* `upper`: every character by its upper case, which may have up to three characters. -/

namespace Typestate.Text

/-- Characters that the final sigma rule looks through. -/
def isCaseIgnorable (c : Char) : Bool := memSpans caseIgnorableSpans c.toNat

/-- Characters that have a case. -/
def isCased (c : Char) : Bool := memSpans casedSpans c.toNat

/-- The lower case of a character by itself. -/
def lowerChar (c : Char) : List Char :=
  if c = 'İ' then ['i', '\u0307']
  else match runImage? lowerRuns c.toNat with
    | some n => [Char.ofNat n]
    | none => [c]

/-- The upper case of a character. -/
def upperChar (c : Char) : List Char :=
  match runImage? upperRuns c.toNat with
  | some n => [Char.ofNat n]
  | none => match upperExpansions.lookup c.toNat with
    | some ns => ns.map Char.ofNat
    | none => [c]

/-- The first character that is not case-ignorable is cased. -/
def startsCased : List Char → Bool
  | [] => false
  | c :: rest => if isCaseIgnorable c then startsCased rest else isCased c

/-- Lower case of the characters after a text; `afterCased` says whether the last character of
that text that is not case-ignorable is cased. -/
def lowerFrom (afterCased : Bool) : List Char → List Char
  | [] => []
  | c :: rest =>
    (if c = 'Σ' then [if afterCased && !startsCased rest then 'ς' else 'σ'] else lowerChar c) ++
      lowerFrom (if isCaseIgnorable c then afterCased else isCased c) rest

/-- The text in lower case. -/
def lower (s : String) : String := String.ofList (lowerFrom false s.toList)

/-- The text in upper case. -/
def upper (s : String) : String := String.ofList (s.toList.flatMap upperChar)

theorem toList_lower (s : String) : (lower s).toList = lowerFrom false s.toList := by
  simp [lower]

theorem toList_upper (s : String) : (upper s).toList = s.toList.flatMap upperChar := by
  simp [upper]

end Typestate.Text
