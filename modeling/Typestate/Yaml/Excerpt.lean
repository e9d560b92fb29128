import Typestate.Yaml.Cursor
import Typestate.Yaml.Token

/-! # Documents as far as they can be read

An `Excerpt` is the part of a document that can be read. If it is not the whole document, it says
why it ends: there are bytes behind it that are no text, or characters that no document may contain.

* `Excerpt.ofBlocks`: a document whose characters are looked at block by block.
* `Excerpt.ofText`: a document that is looked at as a whole.
* `ofBlocks_of_all`: with allowed characters only, the blocks make up the document. -/

namespace Typestate.Yaml

/-- A document as far as it can be read. -/
structure Excerpt where
  text : List Char
  /-- Why the document cannot be read further. -/
  cut : Option Fault

namespace Excerpt

/-- The document of some blocks and of a fault behind them: a block with a character that is not
allowed cannot be read. -/
def ofBlocks (blocks : List (List Char)) (fault : Option Fault) : Excerpt :=
  let allowed := blocks.takeWhile fun block => block.all isAllowed
  ⟨allowed.flatten, if allowed.length < blocks.length then some .malformed else fault⟩

/-- A document that is looked at as a whole. -/
def ofText (document : List Char) : Excerpt := ofBlocks [document] none

/-- **With allowed characters only, the blocks make up the document.** -/
theorem ofBlocks_of_all {blocks : List (List Char)} (h : blocks.flatten.all isAllowed)
    (fault : Option Fault) : ofBlocks blocks fault = ⟨blocks.flatten, fault⟩ := by
  have hall : blocks.takeWhile (fun block => block.all isAllowed) = blocks := by
    have hblock : ∀ block ∈ blocks, block.all isAllowed = true := by
      simpa [List.all_eq_true] using h
    have happend := @List.takeWhile_append_of_pos _ _ blocks [] hblock
    simpa using happend
  simp [ofBlocks, hall]

theorem ofText_of_all {document : List Char} (h : document.all isAllowed) :
    ofText document = ⟨document, none⟩ := by
  rw [ofText, ofBlocks_of_all (by simpa using h)]
  simp

end Excerpt
end Typestate.Yaml
