/-! # Spans and runs of characters

Character classes and case pairs are kept as increasing lists of intervals of code points.

* `Span`: an interval; `memSpans`: whether a character lies in one of the intervals.
* `CaseRun`: the characters `first, first + step, …, last`, which are paired, in order, with
  `image, image + step, …`; `runImage?`: the partner of a character. -/

namespace Typestate.Text

/-- The code points from `first` to `last`. -/
structure Span where
  first : Nat
  last : Nat
deriving DecidableEq, Repr

/-- The code point `n` lies in one of the spans, which are in increasing order. -/
def memSpans : List Span → Nat → Bool
  | [], _ => false
  | s :: rest, n => if n < s.first then false else n ≤ s.last || memSpans rest n

/-- Every `step`-th code point from `first` to `last`, paired with those from `image` on. -/
structure CaseRun where
  first : Nat
  last : Nat
  step : Nat
  image : Nat
deriving DecidableEq, Repr

/-- The code point paired with `n`; the runs are in increasing order. -/
def runImage? : List CaseRun → Nat → Option Nat
  | [], _ => none
  | r :: rest, n =>
    if n < r.first then none
    else if n ≤ r.last then
      if (n - r.first) % r.step = 0 then some (r.image + (n - r.first)) else none
    else runImage? rest n

/-- **A character below every span is in none of them.** -/
theorem memSpans_of_lt {s : Span} {rest : List Span} {n : Nat} (h : n < s.first) :
    memSpans (s :: rest) n = false := by
  simp [memSpans, h]

theorem memSpans_head {s : Span} {rest : List Span} {n : Nat} (h₁ : s.first ≤ n) (h₂ : n ≤ s.last) :
    memSpans (s :: rest) n = true := by
  simp [memSpans, Nat.not_lt.2 h₁, h₂]

end Typestate.Text
