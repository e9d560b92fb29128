import Typestate.Text.Utf8

/-! # Text that is decoded piece by piece

Bytes are decoded a chunk at a time, and their text is handed out in blocks of equal length, of
which the last one may be shorter. A fault in a chunk keeps back every block that needs the chunk.

* `Chunked`: the bytes that are left, and the characters decoded and not handed out yet.
* `Chunked.more`: one more chunk. It is larger where the characters before took many bytes.
  Positions count from the start of the chunk, or of a character that the chunk before left begun.
* `Chunked.blocks`: the blocks before the first fault, and the fault.
* `flatten_blocks`: the blocks of bytes that encode a text make up that text. -/

namespace Typestate.Text

open Utf8

/-- Bytes that are decoded piece by piece. -/
structure Chunked where
  decoder : Decoder
  /-- The bytes that are not decoded yet. -/
  bytes : List UInt8
  /-- The number of bytes in the last chunk. -/
  taken : Nat
  /-- The number of characters in the last chunk. -/
  given : Nat

namespace Chunked

/-- The number of characters in a block. -/
def blockLength : Nat := 4096

/-- The least number of bytes in a chunk that is not the last one. -/
def chunkLength : Nat := 8192

/-- Bytes of which none is decoded. -/
def ofBytes (bytes : List UInt8) : Chunked := ⟨Decoder.start, bytes, 0, 0⟩

variable (s : Chunked)

/-- The number of characters that are decoded and not handed out yet. -/
def ready : Nat := s.decoder.text.length

/-- The bytes of the next chunk: as many as a whole block may need. -/
def nextLength : Nat := max chunkLength ((blockLength - s.ready) * s.taken / s.given)

/-- A reader at the start of a chunk. -/
def atChunk : Decoder :=
  ⟨(s.decoder.begun.map Begun.count).getD 0, s.decoder.begun, s.decoder.text⟩

/-- One more chunk. -/
def more : Except Fault Chunked := do
  let chunk := s.bytes.take s.nextLength
  let d ← chunk.foldlM Decoder.read s.atChunk
  .ok ⟨d, s.bytes.drop s.nextLength, chunk.length, d.text.length - s.ready⟩

/-- Enough chunks for a block, or all of them; the last character must be complete. -/
def fill : Nat → Chunked → Except Fault Chunked
  | 0, s => .ok s
  | fuel + 1, s =>
    if blockLength ≤ s.ready then .ok s
    else if s.bytes.isEmpty then s.atChunk.finish.map fun _ => s
    else do fill fuel (← s.more)

/-- The first block of what is ready. -/
def block : List Char := s.decoder.text.reverse.take blockLength

/-- What is left behind the first block. -/
def behindBlock : Chunked :=
  { s with decoder := { s.decoder with text := (s.decoder.text.reverse.drop blockLength).reverse } }

/-- The blocks before the first fault, and the fault. -/
def blocksFrom : Nat → Chunked → List (List Char) × Option Fault
  | 0, _ => ([], none)
  | fuel + 1, s =>
    match s.fill (s.bytes.length + 1) with
    | .error fault => ([], some fault)
    | .ok s =>
      if s.ready = 0 then ([], none)
      else
        let later := blocksFrom fuel s.behindBlock
        (s.block :: later.1, later.2)

/-- The blocks of the text that bytes encode, up to the first fault, and the fault. -/
def blocks (bytes : List UInt8) : List (List Char) × Option Fault :=
  blocksFrom (bytes.length + 1) (ofBytes bytes)

/-! ### What is handed out -/

/-- What is ready and what is left to decode make up a text. -/
def Holds (text : List Char) : Prop :=
  ∃ e, s.bytes.foldlM Decoder.read s.decoder = .ok e ∧ e.begun = none ∧ e.text = text.reverse

variable {s} {text : List Char}

theorem holds_ofBytes {bytes : List UInt8} (h : decode bytes = .ok text) :
    (ofBytes bytes).Holds text := by
  unfold decode at h
  cases hd : bytes.foldlM Decoder.read Decoder.start with
  | error fault => rw [hd] at h; cases h
  | ok e =>
    rw [hd] at h
    change e.finish = .ok text at h
    unfold Decoder.finish at h
    split at h
    · next hb => exact ⟨e, hd, hb, by simp [← Except.ok.inj h]⟩
    · cases h

/-- The text does not depend on where positions count from. -/
theorem Holds.atChunk (h : s.Holds text) :
    ∃ e, s.bytes.foldlM Decoder.read s.atChunk = .ok e ∧ e.begun = none ∧
      e.text = text.reverse := by
  obtain ⟨e, he, hbegun, htext⟩ := h
  obtain ⟨cs, h₁, -, h₃⟩ := foldlM_read_of_ok he
  exact ⟨_, h₃ _ _, hbegun, by rw [← h₁, htext]⟩

/-- **One more chunk loses nothing,** and there is less to decode behind it. -/
theorem Holds.more (h : s.Holds text) (hb : s.bytes ≠ []) :
    ∃ s', s.more = .ok s' ∧ s'.Holds text ∧ s'.bytes.length < s.bytes.length := by
  obtain ⟨e, he, hbegun, htext⟩ := h.atChunk
  rw [← List.take_append_drop s.nextLength s.bytes, List.foldlM_append] at he
  cases hd : (s.bytes.take s.nextLength).foldlM Decoder.read s.atChunk with
  | error fault => rw [hd] at he; cases he
  | ok d =>
    rw [hd] at he
    change (s.bytes.drop s.nextLength).foldlM Decoder.read d = .ok e at he
    refine ⟨_, by unfold Chunked.more; dsimp only; rw [hd]; rfl, ⟨e, he, hbegun, htext⟩, ?_⟩
    have hn : 0 < s.nextLength := Nat.lt_of_lt_of_le (by decide) (Nat.le_max_left _ _)
    have hl : 0 < s.bytes.length := List.length_pos_iff.2 hb
    simp only [List.length_drop]
    omega

/-- **Enough chunks lose nothing;** behind them a block is ready or nothing is left to decode. -/
theorem Holds.fill (h : s.Holds text) {fuel : Nat} (hf : s.bytes.length < fuel) :
    ∃ s', s.fill fuel = .ok s' ∧ s'.Holds text ∧ (blockLength ≤ s'.ready ∨ s'.bytes = []) := by
  induction fuel generalizing s with
  | zero => omega
  | succ fuel ih =>
    unfold Chunked.fill
    split
    · next hr => exact ⟨s, rfl, h, .inl hr⟩
    · split
      · next hb =>
        have hb : s.bytes = [] := List.isEmpty_iff.1 hb
        obtain ⟨e, he, hbegun, htext⟩ := h
        rw [hb] at he
        cases he
        refine ⟨s, ?_, ⟨_, by rw [hb]; rfl, hbegun, htext⟩, .inr hb⟩
        simp [Chunked.atChunk, Decoder.finish, hbegun, Except.map]
      · next hb =>
        obtain ⟨s', hs', h', hl⟩ := h.more (by simpa using hb)
        rw [hs']
        exact ih h' (by omega)

/-- What is ready is the start of the text. -/
theorem Holds.eq_append (h : s.Holds text) :
    ∃ rest, text = s.decoder.text.reverse ++ rest ∧ (s.bytes = [] → rest = []) ∧
      ∀ ready,
        Holds { s with decoder := { s.decoder with text := ready } } (ready.reverse ++ rest) := by
  obtain ⟨e, he, hbegun, htext⟩ := h
  obtain ⟨cs, h₁, h₂, h₃⟩ := foldlM_read_of_ok he
  refine ⟨cs, ?_, fun hb => ?_, fun ready => ⟨_, h₃ _ _, hbegun, by simp⟩⟩
  · rw [h₁] at htext
    simpa using (congrArg List.reverse htext).symm
  · rw [hb] at h₂
    exact List.length_eq_zero_iff.1 (Nat.le_zero.1 h₂)

/-- **Handing out a block** takes it off the text. -/
theorem Holds.behindBlock (h : s.Holds text) (hr : blockLength ≤ s.ready ∨ s.bytes = []) :
    s.block = text.take blockLength ∧ s.behindBlock.Holds (text.drop blockLength) := by
  obtain ⟨rest, rfl, hrest, hset⟩ := h.eq_append
  have hdrop := hset (s.decoder.text.reverse.drop blockLength).reverse
  rw [List.reverse_reverse] at hdrop
  unfold Chunked.block Chunked.behindBlock
  rcases hr with hr | hb
  · have hr : blockLength ≤ s.decoder.text.reverse.length := by simpa [ready] using hr
    rw [List.take_append_of_le_length hr, List.drop_append_of_le_length hr]
    exact ⟨rfl, hdrop⟩
  · rw [hrest hb, List.append_nil] at hdrop ⊢
    exact ⟨rfl, hdrop⟩

/-- **The blocks of bytes that encode a text** make up the text, and there is no fault. -/
theorem flatten_blocksFrom (h : s.Holds text) {fuel : Nat} (hf : text.length < fuel) :
    (blocksFrom fuel s).1.flatten = text ∧ (blocksFrom fuel s).2 = none := by
  induction fuel generalizing s text with
  | zero => omega
  | succ fuel ih =>
    obtain ⟨s', hs', h', hr⟩ := h.fill (Nat.lt_succ_self _)
    unfold blocksFrom
    rw [hs']
    dsimp only
    split
    · next h0 =>
      obtain ⟨rest, rfl, hrest, -⟩ := h'.eq_append
      have hb : s'.bytes = [] := by
        rcases hr with hr | hb
        · exact absurd hr (by rw [h0]; decide)
        · exact hb
      have ht : s'.decoder.text = [] := List.length_eq_zero_iff.1 h0
      simp [hrest hb, ht]
    · next h0 =>
      obtain ⟨hblock, hlater⟩ := h'.behindBlock hr
      have hlen : (text.drop blockLength).length < fuel := by
        obtain ⟨rest, rfl, -, -⟩ := h'.eq_append
        have hb : 0 < blockLength := by decide
        simp only [ready] at h0
        simp only [List.length_drop, List.length_append, List.length_reverse] at hf ⊢
        omega
      obtain ⟨h₁, h₂⟩ := ih hlater hlen
      refine ⟨?_, h₂⟩
      rw [List.flatten_cons, h₁, hblock, List.take_append_drop]

/-- **The blocks of bytes that encode a text** make up the text, and there is no fault. -/
theorem flatten_blocks {bytes : List UInt8} (h : decode bytes = .ok text) :
    (blocks bytes).1.flatten = text ∧ (blocks bytes).2 = none := by
  have hs := holds_ofBytes h
  refine flatten_blocksFrom hs ?_
  obtain ⟨e, he, -, htext⟩ := hs
  obtain ⟨cs, h₁, h₂, -⟩ := foldlM_read_of_ok he
  have ht : text.length = cs.length := by
    rw [← List.length_reverse, ← htext, h₁]
    simp [ofBytes, Decoder.start]
  exact Nat.lt_succ_of_le (ht ▸ h₂)

end Chunked
end Typestate.Text
