import Typestate.Calendar
import Typestate.Number.Double

/-! # Plain data

`Data` is what a document denotes before anything is known about its shape: scalars, collections,
and mappings whose entries are kept in order.

* `Data.kindName`: the word for the kind of a value in messages.
* `Data.isVoid`: the values that stand for nothing (null, false, zero, and what is empty).
* `Data.sameKey`: when two scalars are the same mapping key. Numbers and truth values are compared
  by value, so `1`, `1.0` and `true` are one key.
* `Data.insertEntry`: an entry added to a mapping; a key that is there keeps its place.
* `Data.items?`: the items of a list, a set or a pair. -/

namespace Typestate

/-- A value without a schema. -/
inductive Data where
  | null
  | bool (b : Bool)
  | int (i : Int)
  | float (x : Double)
  | text (s : String)
  /-- A text with halves of surrogate pairs; replacement characters stand for them. -/
  | halved (s : String)
  | date (d : Date)
  | moment (m : Moment)
  | bytes (content : List UInt8)
  | list (items : List Data)
  /-- The members of a set, first the one that was put in first. -/
  | set (members : List Data)
  | pair (first second : Data)
  | map (entries : List (Data × Data))
deriving Inhabited

namespace Data

/-- The kind of a value, as messages name it. -/
def kindName : Data → String
  | .null => "NoneType"
  | .bool _ => "bool"
  | .int _ => "int"
  | .float _ => "float"
  | .text _ => "str"
  | .halved _ => "str"
  | .date _ => "date"
  | .moment _ => "datetime"
  | .bytes _ => "bytes"
  | .list _ => "list"
  | .set _ => "set"
  | .pair _ _ => "tuple"
  | .map _ => "dict"

/-- The value stands for nothing. -/
def isVoid : Data → Bool
  | .null => true
  | .bool b => !b
  | .int i => i == 0
  | .float x => x.isZero
  | .text s => s.isEmpty
  | .halved _ => false
  | .date _ => false
  | .moment _ => false
  | .bytes content => content.isEmpty
  | .list items => items.isEmpty
  | .set members => members.isEmpty
  | .pair _ _ => false
  | .map entries => entries.isEmpty

/-- The integer that a number or truth value equals. -/
def numericValue? : Data → Option Int
  | .bool b => some (if b then 1 else 0)
  | .int i => some i
  | .float x => x.toInt?
  | _ => none

/-- The two values are the same key of a mapping. -/
def sameKey : Data → Data → Bool
  | .null, .null => true
  | .text s, .text t => s == t
  | .halved s, .halved t => s == t
  | .date d, .date e => d == e
  | .moment m, .moment n => m.sameAs n
  | .bytes b, .bytes c => b == c
  | a, b =>
    match a.numericValue?, b.numericValue? with
    | some i, some j => i == j
    | none, none =>
      match a, b with
      | .float x, .float y => x == y && x != .nan
      | _, _ => false
    | _, _ => false

/-- The value is a text with halves of surrogate pairs. -/
def isHalved : Data → Bool
  | .halved _ => true
  | _ => false

/-- The value can be a key of a mapping. -/
def isKey : Data → Bool
  | .list _ => false
  | .set _ => false
  | .map _ => false
  | _ => true

/-- The entries with `key` bound to `value`: in the place of the key if it is bound already,
otherwise at the end. -/
def insertEntry (key value : Data) : List (Data × Data) → List (Data × Data)
  | [] => [(key, value)]
  | (k, v) :: rest =>
    if k.sameKey key then (k, value) :: rest else (k, v) :: insertEntry key value rest

/-- The value bound to a text key. -/
def find? (name : String) : List (Data × Data) → Option Data
  | [] => none
  | (k, v) :: rest => if k.sameKey (.text name) then some v else find? name rest

/-- The items of what can be gone through like a list. -/
def items? : Data → Option (List Data)
  | .list items => some items
  | .set members => some members
  | .pair first second => some [first, second]
  | _ => none

/-- A mapping with text keys. -/
def ofPairs (pairs : List (String × Data)) : Data := .map (pairs.map fun p => (.text p.1, p.2))

/-- A list of texts. -/
def texts (items : List String) : Data := .list (items.map .text)

theorem sameKey_text (s t : String) : (Data.text s).sameKey (.text t) = (s == t) := rfl

/-- **A text key is found where it was put.** -/
theorem find?_insertEntry_self (name : String) (value : Data) (entries : List (Data × Data)) :
    find? name (insertEntry (.text name) value entries) = some value := by
  induction entries with
  | nil => simp [insertEntry, find?, sameKey_text]
  | cons e rest ih =>
    obtain ⟨k, v⟩ := e
    unfold insertEntry
    split
    · next h => simp [find?, h]
    · next h => simp [find?, h, ih]

end Data
end Typestate
