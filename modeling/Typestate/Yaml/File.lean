import Typestate.Yaml
import Typestate.Text.Chunked

/-! # Documents in files

`File` is what stands at a path. `File.read` is the value of the document there. A file is read
block by block, and only as far as the tokens ask for it, so a fault in a later block does not
matter to a document that is malformed before. The first two blocks are read ahead of all tokens. -/

namespace Typestate.Yaml

/-- What stands at a path. -/
inductive File where
  | absent
  | directory
  | bytes (content : List UInt8)

/-- Why a path gives no value. -/
inductive File.Fault where
  | absent
  | directory
  | document (fault : Yaml.Fault)

/-- The blocks of a file, with the first two, which are read together, in one. -/
def File.joined (blocks : List (List Char)) (fault : Option Yaml.Fault) : List (List Char) :=
  match blocks, fault with
  | first :: second :: later, _ => (first ++ second) :: later
  | blocks, none => blocks
  | _, some _ => []

/-- The document that bytes hold, as far as it can be read. -/
def File.excerpt (content : List UInt8) : Excerpt :=
  let found := Text.Chunked.blocks content
  let fault := found.2.map Yaml.Fault.undecodable
  Excerpt.ofBlocks (File.joined found.1 fault) fault

/-- The value of the document at a path. -/
def File.read : File → Except File.Fault Data
  | .absent => .error .absent
  | .directory => .error .directory
  | .bytes content => (File.excerpt content).value.mapError .document

theorem File.flatten_joined (blocks : List (List Char)) :
    (File.joined blocks none).flatten = blocks.flatten := by
  unfold File.joined
  split
  · simp
  · rfl
  · next h => cases h

/-- **A file is read like the text that it holds,** if all characters in it are allowed. -/
theorem File.read_bytes {content : List UInt8} {document : List Char}
    (h : Text.Utf8.decode content = .ok document) (hall : document.all isAllowed) :
    File.read (.bytes content) = (Yaml.read document).mapError .document := by
  obtain ⟨hflat, hnone⟩ := Text.Chunked.flatten_blocks h
  have hexcerpt : File.excerpt content = Excerpt.ofText document := by
    have hjoined := (File.flatten_joined _).trans hflat
    rw [Excerpt.ofText_of_all hall]
    dsimp only [File.excerpt]
    rw [hnone, Option.map_none, Excerpt.ofBlocks_of_all (by rw [hjoined]; exact hall), hjoined]
  rw [File.read, Yaml.read, hexcerpt]

end Typestate.Yaml
