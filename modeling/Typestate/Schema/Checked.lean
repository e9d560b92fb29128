import Typestate.Schema.Issue
import Typestate.Number.Numeral
import Typestate.Text.Blank
import Typestate.Text.Utf8

/-! # Checking data against a schema

A check turns data into a value, or lists everything that is wrong with the data.

* `Checked`: the outcome. Independent checks are joined so that the issues of all are kept, in
  order; `andThen` is for a check that needs the value of another.
* `text`, `nonEmptyText`, `optionalText`, `listOf`, `truth`, `whole`: checks of single values.
  Bytes stand for the text that they encode. Truth values and whole numbers are also read from
  numbers and texts that clearly mean them, and sets and pairs count as lists.
* `required`, `optional`, `requiredEither`, `onlyKeys`: checks of the entries of a record. -/

namespace Typestate.Schema

/-- The outcome of a check. -/
inductive Checked (α : Type) where
  | valid (a : α)
  | invalid (issues : List Issue)

namespace Checked

variable {α β : Type}

/-- Both outcomes, with the issues of both. -/
def both (x : Checked α) (y : Checked β) : Checked (α × β) :=
  match x, y with
  | .valid a, .valid b => .valid (a, b)
  | .valid _, .invalid issues => .invalid issues
  | .invalid issues, .valid _ => .invalid issues
  | .invalid issues, .invalid more => .invalid (issues ++ more)

/-- The outcome with its value changed. -/
def map (f : α → β) : Checked α → Checked β
  | .valid a => .valid (f a)
  | .invalid issues => .invalid issues

/-- A check of the value, if there is one. -/
def andThen (x : Checked α) (f : α → Checked β) : Checked β :=
  match x with
  | .valid a => f a
  | .invalid issues => .invalid issues

/-- The outcome seen from one step further out. -/
def under (step : Step) : Checked α → Checked α
  | .valid a => .valid a
  | .invalid issues => .invalid (issues.map (Issue.under step))

/-- The issues of an outcome. -/
def issues : Checked α → List Issue
  | .valid _ => []
  | .invalid issues => issues

/-- One issue about the value itself. -/
def fault (reason : Reason) : Checked α := .invalid [⟨[], reason⟩]

instance : Functor Checked where
  map := map

instance : Applicative Checked where
  pure := valid
  seq f x := (f.both (x ())).map fun p => p.1 p.2

theorem issues_both (x : Checked α) (y : Checked β) : (x.both y).issues = x.issues ++ y.issues := by
  cases x <;> cases y <;> simp [both, issues]

theorem issues_map (f : α → β) (x : Checked α) : (x.map f).issues = x.issues := by
  cases x <;> rfl

theorem issues_under (step : Step) (x : Checked α) :
    (x.under step).issues = x.issues.map (Issue.under step) := by
  cases x <;> rfl

/-- **Joined checks keep the issues of both, in order.** -/
theorem issues_seq (f : Checked (α → β)) (x : Checked α) :
    (f <*> x).issues = f.issues ++ x.issues := by
  show ((f.both x).map _).issues = _
  rw [issues_map, issues_both]

end Checked

open Checked

/-! ### Single values -/

/-- The text that bytes encode. -/
def decoded? (content : List UInt8) : Option String :=
  (Text.Utf8.decode content).toOption.map String.ofList

/-- A text, or bytes that encode one. -/
def text : Data → Checked String
  | .text s => .valid s
  | .halved s => .valid s
  | .bytes content => match decoded? content with
    | some s => .valid s
    | none => fault .undecodable
  | _ => fault .notText

/-- A text of at least one character, without halves of surrogate pairs. -/
def nonEmptyText : Data → Checked String
  | .halved _ => fault .undecodable
  | d => (text d).andThen fun s => if s.isEmpty then fault .tooShort else .valid s

/-- A text, or nothing. -/
def optionalText : Data → Checked (Option String)
  | .null => .valid none
  | d => (text d).map some

/-- The checks of the items from a position on. -/
def itemsFrom {α : Type} (check : Data → Checked α) : Nat → List Data → Checked (List α)
  | _, [] => .valid []
  | i, d :: rest =>
    (((check d).under (.index i)).both (itemsFrom check (i + 1) rest)).map fun p => p.1 :: p.2

/-- A list whose items pass a check. -/
def listOf {α : Type} (check : Data → Checked α) (d : Data) : Checked (List α) :=
  match d.items? with
  | some items => itemsFrom check 0 items
  | none => fault .notList

/-- The character with an ASCII capital made small. -/
def smallLetter (c : Char) : Char := if 'A' ≤ c && c ≤ 'Z' then Char.ofNat (c.toNat + 32) else c

/-- The truth value that a word means. -/
def truthWord? (s : String) : Option Bool :=
  let word := String.ofList (s.toList.map smallLetter)
  if ["1", "on", "t", "true", "y", "yes"].contains word then some true
  else if ["0", "off", "f", "false", "n", "no"].contains word then some false
  else none

/-- The truth value that an integer means. -/
def truthOfInt (i : Int) : Checked Bool :=
  if i = 0 then .valid false else if i = 1 then .valid true else fault .unreadableBool

/-- A whole number of 64 bits; the least one is left out. -/
def isSmallWhole (i : Int) : Bool := -9223372036854775808 < i && i < 9223372036854775808

/-- The truth value that a text means. -/
def truthOfText (s : String) : Checked Bool :=
  match truthWord? s with
  | some b => .valid b
  | none => fault .unreadableBool

/-- A truth value, or a number or word that means one. -/
def truth : Data → Checked Bool
  | .bool b => .valid b
  | .text s => truthOfText s
  | .halved _ => fault .undecodable
  | .bytes content => match decoded? content with
    | some s => truthOfText s
    | none => fault .unreadableBool
  | .int i => if isPathInt i then truthOfInt i else fault .notBool
  | .float x => match x.toInt? with
    | some i => if isSmallWhole i then truthOfInt i else fault .notBool
    | none => fault .notBool
  | _ => fault .notBool

/-- The digits without the zeros in front; underscores may stand between those zeros, and a minus
sign behind them. One digit is left. -/
def dropLeadingZeros : List Char → Option (List Char)
  | [] => none
  | '0' :: rest =>
    match rest.dropWhile fun c => c == '0' || c == '_' with
    | [] => some [rest.getLast?.getD '0']
    | '.' :: fraction =>
      some
        (((('0' :: rest).take (rest.length - fraction.length)).getLast?.getD '0') ::
          '.' :: fraction)
    | c :: more => if Numeral.isDigit c || c == '-' then some (c :: more) else none
  | c :: rest => if Numeral.isDigit c then some (c :: rest) else none

/-- The digits without a point followed by zeros, at least one, and nothing else. -/
def dropZeroFraction (cs : List Char) : List Char :=
  match cs.dropWhile (· != '.') with
  | _ :: c :: fraction => if (c :: fraction).all (· == '0') then cs.takeWhile (· != '.') else cs
  | _ => cs

/-- Two underscores stand side by side. -/
def hasDoubleUnderscore : List Char → Bool
  | '_' :: '_' :: _ => true
  | _ :: rest => hasDoubleUnderscore rest
  | [] => false

/-- The digits without single underscores between them. -/
def dropUnderscores (cs : List Char) : List Char :=
  if cs.head? == some '_' || cs.getLast? == some '_' || hasDoubleUnderscore cs then cs
  else cs.filter (· != '_')

/-- The number that digits denote, written without needless zeros. -/
def plainWhole? (cs : List Char) : Option Nat :=
  match cs with
  | '0' :: _ :: _ => none
  | _ => if cs.all Numeral.isDigit then Numeral.ofDigits? 10 cs else none

/-- The number that a sign, and the digits behind it without needless zeros, denote. The minus sign
may also stand behind the needless zeros. -/
def signedWhole? (isNegative : Bool) : List Char → Option Int
  | '-' :: rest => if isNegative then none else (plainWhole? rest).map fun n => -(n : Int)
  | digits => (plainWhole? digits).map fun n => if isNegative then -(n : Int) else n

/-- The whole number that a text means. -/
def wholeOfText (s : String) : Checked Int :=
  let trimmed :=
    (((s.toList.dropWhile Text.isWhiteSpace).reverse).dropWhile Text.isWhiteSpace).reverse
  let parts := Numeral.splitSign trimmed
  match dropLeadingZeros parts.2 with
  | none => fault .unreadableInt
  | some cs =>
    let digits := dropUnderscores (dropZeroFraction cs)
    if Numeral.mostDigits < digits.length then fault .hugeInt
    else match signedWhole? parts.1 digits with
      | some i => .valid i
      | none => fault .unreadableInt

/-- A whole number, or a truth value, number or text that means one. -/
def whole : Data → Checked Int
  | .int i => .valid i
  | .bool b => .valid (if b then 1 else 0)
  | .text s => wholeOfText s
  | .halved _ => fault .undecodable
  | .bytes content => match decoded? content with
    | some s => wholeOfText s
    | none => fault .unreadableInt
  | .float x => match x with
    | .finite .. => match x.toInt? with
      | some i => if isSmallWhole i then .valid i else fault .hugeInt
      | none => fault .fractionalInt
    | _ => fault .notFinite
  | _ => fault .notInt

/-- A whole number that is not less than another. -/
def wholeFrom (least : Int) (d : Data) : Checked Int :=
  (whole d).andThen fun i => if least ≤ i then .valid i else fault (.tooSmall least)

/-! ### Records -/

/-- Some key of a mapping has halves of surrogate pairs. -/
def hasHalvedKey (entries : List (Data × Data)) : Bool := entries.any fun e => e.1.isHalved

/-- The entries of a mapping. If a key has halves of surrogate pairs, then that is all that is said
about the mapping. -/
def entriesOf (record : String) : Data → Checked (List (Data × Data))
  | .map entries => if hasHalvedKey entries then fault .undecodable else .valid entries
  | _ => fault (.notRecord record)

/-- The value of a key that has to be there. -/
def required {α : Type} (name : String) (check : Data → Checked α) (entries : List (Data × Data)) :
    Checked α :=
  match Data.find? name entries with
  | some d => (check d).under (.key name)
  | none => (fault .missing).under (.key name)

/-- The value of a key, or a default. -/
def optional {α : Type} (name : String) (default : α) (check : Data → Checked α)
    (entries : List (Data × Data)) : Checked α :=
  match Data.find? name entries with
  | some d => (check d).under (.key name)
  | none => .valid default

/-- The first of two keys that is there. -/
def eitherKey (name other : String) (entries : List (Data × Data)) : String :=
  if (Data.find? name entries).isSome then name else other

/-- The value of the first of two keys that is there. Issues with the value name the key that it
has; if neither key is there, then the first one is missing. -/
def requiredEither {α : Type} (name other : String) (check : Data → Checked α)
    (entries : List (Data × Data)) : Checked α :=
  match Data.find? (eitherKey name other entries) entries with
  | some d => (check d).under (.key (eitherKey name other entries))
  | none => (fault .missing).under (.key name)

/-- The issue about a key that is none of the known ones. No key has halves of surrogate pairs here:
`entriesOf` does not let such entries through. -/
def keyIssue? (known : List String) (key : Data) : Option Issue :=
  match key with
  | .text s => if s ∈ known then none else some ⟨[.key s], .unexpected⟩
  | d => some ⟨[Step.ofKey d], .keyNotText⟩

/-- Every key is one of the known ones. -/
def onlyKeys (known : List String) (entries : List (Data × Data)) : Checked Unit :=
  match entries.filterMap fun e => keyIssue? known e.1 with
  | [] => .valid ()
  | issues => .invalid issues

/-- **The keys are all known exactly if nothing is said about them.** -/
theorem issues_onlyKeys (known : List String) (entries : List (Data × Data)) :
    (onlyKeys known entries).issues = entries.filterMap fun e => keyIssue? known e.1 := by
  unfold onlyKeys
  split
  · next h => simp [Checked.issues, h]
  · rfl

end Typestate.Schema
