import Typestate.Number.Numeral

/-! # Bytes as text

Base64: four characters for three bytes. A reader leaves out the characters that are not of its
alphabet.

* `sextet?`: the six bits that a character stands for.
* `decode`: the bytes that a text stands for, if no character is missing at its end. Enough equals
  signs stand for what is missing and end the text. -/

namespace Typestate.Text.Base64

/-- The six bits that a character stands for. -/
def sextet? (c : Char) : Option Nat :=
  if 'A' ≤ c ∧ c ≤ 'Z' then some (c.toNat - 'A'.toNat)
  else if 'a' ≤ c ∧ c ≤ 'z' then some (c.toNat - 'a'.toNat + 26)
  else if Numeral.isDigit c then some (c.toNat - '0'.toNat + 52)
  else if c = '+' then some 62
  else if c = '/' then some 63
  else none

/-- The whole bytes at the start of a run of sextets. -/
def bytesOf : List Nat → List UInt8
  | a :: b :: rest => UInt8.ofNat (a * 4 + b / 16) ::
    match rest with
    | [] => []
    | c :: rest => UInt8.ofNat (b % 16 * 16 + c / 4) ::
      match rest with
      | [] => []
      | d :: _ => [UInt8.ofNat (c % 4 * 64 + d)]
  | _ => []

/-- The bytes of a text behind fewer than four sextets and some equals signs. -/
def decodeFrom (held : List Nat) (signs : Nat) : List Char → Option (List UInt8)
  | [] => if held.isEmpty then some [] else none
  | c :: rest =>
    if c = '=' then
      if held.length < 2 then decodeFrom held signs rest
      else if held.length + signs < 3 then decodeFrom held (signs + 1) rest
      else some (bytesOf held)
    else
      match sextet? c with
      | none => decodeFrom held signs rest
      | some bits =>
        if held.length < 3 then decodeFrom (held ++ [bits]) 0 rest
        else (decodeFrom [] 0 rest).map (bytesOf (held ++ [bits]) ++ ·)

/-- The bytes that a text stands for. -/
def decode (cs : List Char) : Option (List UInt8) := decodeFrom [] 0 cs

/-- The character has a meaning. -/
def isMeant (c : Char) : Bool := c = '=' || (sextet? c).isSome

theorem decodeFrom_filter (cs : List Char) (held : List Nat) (signs : Nat) :
    decodeFrom held signs (cs.filter isMeant) = decodeFrom held signs cs := by
  induction cs generalizing held signs with
  | nil => rfl
  | cons c rest ih =>
    by_cases h : c = '='
    · simp [isMeant, h, decodeFrom, ih]
    · cases hs : sextet? c <;> simp [isMeant, h, hs, decodeFrom, ih]

/-- **Only the characters with a meaning count.** -/
theorem decode_filter (cs : List Char) : decode (cs.filter isMeant) = decode cs :=
  decodeFrom_filter cs [] 0

end Typestate.Text.Base64
