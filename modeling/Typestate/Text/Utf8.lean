import Typestate.Text.Quoted

/-! # UTF-8

Reading bytes as UTF-8 text, one byte after the other.

* `Begun`: a character of which some bytes are read: how many are missing, its bits so far, and the
  range of the next byte, which shuts out overlong forms, surrogates and code points above
  `U+10FFFF`.
* `Decoder`: where a reader of bytes stands. `Decoder.read` takes one byte more, or says which bytes
  are no character and where they are.
* `decode`: the text that bytes encode.
* `foldlM_read_of_ok`: what bytes stand for depends on the character that is begun before them, but
  not on where they are or on the text before them. -/

namespace Typestate.Text.Utf8

/-- Why bytes are not a character. -/
inductive FaultKind where
  | start
  | continuation
  | truncated
deriving DecidableEq

/-- Bytes that are not a character: the first of them, its position and their number. -/
structure Fault where
  byte : UInt8
  position : Nat
  length : Nat
  kind : FaultKind
deriving DecidableEq

/-- A character of which some bytes are read. -/
structure Begun where
  first : UInt8
  /-- The number of bytes read. -/
  count : Nat
  /-- The number of bytes that are missing. -/
  missing : Nat
  /-- The least byte that can be next. -/
  low : Nat
  /-- The greatest byte that can be next. -/
  high : Nat
  /-- The bits read. -/
  bits : Nat

/-- The character that a byte begins. -/
def Begun.ofByte? (b : UInt8) : Option Begun :=
  let n := b.toNat
  if n < 0x80 then some ⟨b, 1, 0, 0, 0, n⟩
  else if n < 0xC2 then none
  else if n < 0xE0 then some ⟨b, 1, 1, 0x80, 0xBF, n - 0xC0⟩
  else if n < 0xF0 then
    some ⟨b, 1, 2, if n = 0xE0 then 0xA0 else 0x80, if n = 0xED then 0x9F else 0xBF, n - 0xE0⟩
  else if n < 0xF5 then
    some ⟨b, 1, 3, if n = 0xF0 then 0x90 else 0x80, if n = 0xF4 then 0x8F else 0xBF, n - 0xF0⟩
  else none

/-- The character with one byte more. -/
def Begun.add? (c : Begun) (b : UInt8) : Option Begun :=
  if c.low ≤ b.toNat ∧ b.toNat ≤ c.high then
    some ⟨c.first, c.count + 1, c.missing - 1, 0x80, 0xBF, c.bits * 64 + (b.toNat - 0x80)⟩
  else none

/-- Where a reader of bytes stands. -/
structure Decoder where
  /-- The position of the next byte. -/
  position : Nat
  /-- The character that is not complete. -/
  begun : Option Begun
  /-- The characters read, last one first. -/
  text : List Char

namespace Decoder

/-- A reader that has read nothing. -/
def start : Decoder := ⟨0, none, []⟩

/-- A reader behind a byte that belongs to a character. -/
def accept (d : Decoder) (c : Begun) : Decoder :=
  if c.missing = 0 then ⟨d.position + 1, none, Char.ofNat c.bits :: d.text⟩
  else ⟨d.position + 1, some c, d.text⟩

/-- One byte more. -/
def read (d : Decoder) (b : UInt8) : Except Fault Decoder :=
  match d.begun with
  | none =>
    match Begun.ofByte? b with
    | some c => .ok (d.accept c)
    | none => .error ⟨b, d.position, 1, .start⟩
  | some c =>
    match c.add? b with
    | some c => .ok (d.accept c)
    | none => .error ⟨c.first, d.position - c.count, c.count, .continuation⟩

/-- The text read; the last character must be complete. -/
def finish (d : Decoder) : Except Fault (List Char) :=
  match d.begun with
  | none => .ok d.text.reverse
  | some c => .error ⟨c.first, d.position - c.count, c.count, .truncated⟩

end Decoder

/-- The characters that the bytes encode. -/
def decode (bytes : List UInt8) : Except Fault (List Char) := do
  (← bytes.foldlM Decoder.read Decoder.start).finish

/-- The reason, in words. -/
def FaultKind.message : FaultKind → String
  | .start => "invalid start byte"
  | .continuation => "invalid continuation byte"
  | .truncated => "unexpected end of data"

/-- Where the fault is and why. -/
def Fault.message (f : Fault) : String :=
  let place :=
    if f.length = 1 then
      "byte 0x" ++ String.ofList (hexDigits 2 f.byte.toNat) ++ " in position " ++
        toString f.position
    else
      "bytes in position " ++ toString f.position ++ "-" ++ toString (f.position + f.length - 1)
  "'utf-8' codec can't decode " ++ place ++ ": " ++ f.kind.message

theorem decode_nil : decode [] = .ok [] := rfl

/-- **What a byte stands for does not depend on what is before its character.** -/
theorem read_of_ok {d e : Decoder} {b : UInt8} (h : d.read b = .ok e) :
    ∃ cs : List Char, e.text = cs.reverse ++ d.text ∧ cs.length ≤ 1 ∧
      ∀ position text, Decoder.read ⟨position, d.begun, text⟩ b =
        .ok ⟨position + 1, e.begun, cs.reverse ++ text⟩ := by
  have key : ∀ c : Begun, d.accept c = e → ∃ cs : List Char, e.text = cs.reverse ++ d.text ∧
      cs.length ≤ 1 ∧ ∀ position text, Decoder.accept ⟨position, d.begun, text⟩ c =
        ⟨position + 1, e.begun, cs.reverse ++ text⟩ := by
    rintro c rfl
    unfold Decoder.accept
    split
    · exact ⟨[Char.ofNat c.bits], rfl, Nat.le_refl 1, fun _ _ => rfl⟩
    · exact ⟨[], rfl, Nat.zero_le 1, fun _ _ => rfl⟩
  unfold Decoder.read at h
  split at h <;> rename_i hb <;> split at h <;> rename_i hc
  · obtain ⟨cs, h₁, h₂, h₃⟩ := key _ (Except.ok.inj h)
    exact ⟨cs, h₁, h₂, fun p t => by simp only [Decoder.read, hb, hc] at h₃ ⊢; rw [h₃]⟩
  · cases h
  · obtain ⟨cs, h₁, h₂, h₃⟩ := key _ (Except.ok.inj h)
    exact ⟨cs, h₁, h₂, fun p t => by simp only [Decoder.read, hb, hc] at h₃ ⊢; rw [h₃]⟩
  · cases h

/-- **What bytes stand for does not depend on what is before them,** a character that is begun
apart. -/
theorem foldlM_read_of_ok {bytes : List UInt8} {d e : Decoder}
    (h : bytes.foldlM Decoder.read d = .ok e) :
    ∃ cs : List Char, e.text = cs.reverse ++ d.text ∧ cs.length ≤ bytes.length ∧
      ∀ position text, bytes.foldlM Decoder.read ⟨position, d.begun, text⟩ =
        .ok ⟨position + bytes.length, e.begun, cs.reverse ++ text⟩ := by
  induction bytes generalizing d with
  | nil =>
    cases h
    exact ⟨[], rfl, Nat.le_refl 0, fun _ _ => rfl⟩
  | cons b rest ih =>
    rw [List.foldlM_cons] at h
    obtain ⟨f, hf⟩ : ∃ f, d.read b = .ok f := by
      cases hf : d.read b with
      | error fault => rw [hf] at h; cases h
      | ok f => exact ⟨f, rfl⟩
    rw [hf] at h
    obtain ⟨cs, h₁, h₂, h₃⟩ := read_of_ok hf
    obtain ⟨ds, k₁, k₂, k₃⟩ := ih h
    refine ⟨cs ++ ds, by simp [k₁, h₁], by simp only [List.length_append, List.length_cons]; omega,
      fun p t => ?_⟩
    rw [List.foldlM_cons, h₃]
    change rest.foldlM Decoder.read _ = _
    rw [k₃]
    simp only [List.length_cons, List.reverse_append, List.append_assoc]
    congr 2
    omega

/-- **ASCII bytes are their own characters.** -/
theorem decode_ascii (bytes : List UInt8) (h : ∀ b ∈ bytes, b.toNat < 0x80) :
    decode bytes = .ok (bytes.map fun b => Char.ofNat b.toNat) := by
  have key : ∀ position text, bytes.foldlM Decoder.read ⟨position, none, text⟩ = .ok
      ⟨position + bytes.length, none, (bytes.map fun b => Char.ofNat b.toNat).reverse ++ text⟩ := by
    induction bytes with
    | nil => exact fun _ _ => rfl
    | cons b rest ih =>
      simp only [List.mem_cons, forall_eq_or_imp] at h
      intro p t
      have hb : Decoder.read ⟨p, none, t⟩ b = .ok ⟨p + 1, none, Char.ofNat b.toNat :: t⟩ := by
        simp [Decoder.read, Begun.ofByte?, Decoder.accept, h.1]
      rw [List.foldlM_cons, hb]
      change rest.foldlM Decoder.read _ = _
      rw [ih h.2]
      simp only [List.length_cons, List.map_cons, List.reverse_cons, List.append_assoc,
        List.singleton_append]
      congr 2
      omega
  unfold decode Decoder.start
  rw [key]
  simp [Decoder.finish, bind, Except.bind]

end Typestate.Text.Utf8
