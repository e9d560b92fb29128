import Typestate.Relation

/-! # The relation registry

A registry binds identifiers to relations. Identifiers differ only by more than letter case: they
are stored and looked up in lower case.

* `Candidate`: what is offered for registration, which need not be a relation that can be made.
* `register`: binds an identifier; a bound one is only bound again if `replace` says so.
* `get`, `evaluate`: the relation of an identifier, and its verdict.
* `find?_register_self`, `find?_register_of_ne`: a registration binds its own identifier and
  leaves the others as they were. -/

namespace Typestate

/-- What is offered for registration. -/
inductive Candidate where
  /-- A relation. -/
  | relation (r : Relation)
  /-- Something else, shown as given. -/
  | unfit (shown : String)
  /-- A relation that cannot be made without arguments, and the failure that says so. -/
  | needsArguments (cause : Cause)
  /-- A relation whose making fails. -/
  | failing (text : String)

/-- Relations by identifier, in the order of their first registration. -/
structure Registry where
  entries : List (String × Relation)

namespace Registry

/-- The registry without relations. -/
def empty : Registry := ⟨[]⟩

/-- The registry of the built-in relations. -/
def builtin : Registry :=
  ⟨[RelationKind.and, .or, .xor].map fun kind => (kind.key, kind.relation)⟩

/-- The relation bound to a lower-case identifier. -/
def find? (r : Registry) (key : String) : Option Relation := r.entries.lookup key

/-- The entries with `key` bound to `relation`. -/
def bind (key : String) (relation : Relation) : List (String × Relation) → List (String × Relation)
  | [] => [(key, relation)]
  | (k, v) :: rest => if k = key then (k, relation) :: rest else (k, v) :: bind key relation rest

/-- The report about an identifier that cannot be used. -/
def identifierReport (key message : String) (cause : Option Cause) : Report :=
  Draft.report
    { family := .inconsistency, message := some message, code := some .invalidRelation,
      cause := cause, extra := [("relation", .text key)] }

/-- The relation that a candidate makes. -/
def make (key : String) : Candidate → Except Failure Relation
  | .relation r => .ok r
  | .unfit shown =>
    .error (.report (identifierReport key
      ("Relation '" ++ key ++ "' must be a non-abstract class implementing LogicalRelation, got " ++
        shown) none))
  | .needsArguments cause =>
    .error (.report (identifierReport key
      ("Relation '" ++ key ++ "' must be constructible without arguments") (some cause)))
  | .failing text => .error (.refused (.construction text))

/-- The registry with a candidate bound to an identifier, and the relation made for it. -/
def register (r : Registry) (identifier : String) (candidate : Candidate) (replace : Bool) :
    Except Failure (Registry × Relation) :=
  if identifier.isEmpty then .error (.refused .emptyIdentifier)
  else if (r.find? (Text.lower identifier)).isSome && !replace then
    .error (.refused (.identifierTaken (Text.lower identifier)))
  else do
    let relation ← make (Text.lower identifier) candidate
    .ok (⟨bind (Text.lower identifier) relation r.entries⟩, relation)

/-- The bound identifiers, in increasing order. -/
def identifiers (r : Registry) : List String := Names.sorted (r.entries.map (·.1))

/-- The relation of a lower-case identifier. -/
def getKey (r : Registry) (key : String) : Except Failure Relation :=
  match r.find? key with
  | some relation => .ok relation
  | none =>
    .error (.report (identifierReport key
      ("Relation '" ++ key ++ "' does not resolve to a registered relation. Available: " ++
        Text.quotedList r.identifiers) none))

/-- The relation of an identifier in any letter case. -/
def get (r : Registry) (identifier : String) : Except Failure Relation :=
  r.getKey (Text.lower identifier)

/-- The identifier is bound. -/
def contains (r : Registry) (identifier : String) : Bool := (r.find? (Text.lower identifier)).isSome

/-- The verdict of a relation, looked up by its lower-case identifier. -/
def evaluate (r : Registry) (key : String) (groups : GroupMap) (permutation wanted : List String) :
    Except Failure Bool := do
  let relation ← r.getKey key
  relation.holds groups permutation wanted

/-- The registry as it is shown in messages. -/
def display (r : Registry) : String := "RelationRegistry(" ++ Text.quotedList r.identifiers ++ ")"

/-! ### Laws of the look-ups -/

theorem lookup_bind_self (key : String) (relation : Relation) (entries : List (String × Relation)) :
    (bind key relation entries).lookup key = some relation := by
  induction entries with
  | nil => simp [bind]
  | cons e rest ih =>
    obtain ⟨k, v⟩ := e
    unfold bind
    split
    · next h => simp [h]
    · next h => rw [List.lookup_cons, beq_false_of_ne (Ne.symm h)]; exact ih

theorem lookup_bind_of_ne {key other : String} (h : other ≠ key) (relation : Relation)
    (entries : List (String × Relation)) :
    (bind key relation entries).lookup other = entries.lookup other := by
  induction entries with
  | nil => simp [bind, List.lookup_cons, beq_false_of_ne h]
  | cons e rest ih =>
    obtain ⟨k, v⟩ := e
    unfold bind
    split
    · next hk => simp only [List.lookup_cons, beq_false_of_ne (hk ▸ h)]
    · simp only [List.lookup_cons, ih]

/-- **When a registration succeeds, and what it does.** -/
theorem register_eq_ok_iff {r r' : Registry} {identifier : String} {candidate : Candidate}
    {replace : Bool} {relation : Relation} :
    r.register identifier candidate replace = .ok (r', relation) ↔
      identifier.isEmpty = false ∧
      ((r.find? (Text.lower identifier)).isSome = true → replace = true) ∧
        make (Text.lower identifier) candidate = .ok relation ∧
        r' = ⟨bind (Text.lower identifier) relation r.entries⟩ := by
  unfold register
  split
  · next h => simp [h]
  split
  · next h₁ h₂ => simp_all
  · next h₁ h₂ =>
    cases hm : make (Text.lower identifier) candidate with
    | error e => simp [Bind.bind, Except.bind]
    | ok made =>
      simp only [Bind.bind, Except.bind, Except.ok.injEq, Prod.mk.injEq]
      constructor
      · rintro ⟨rfl, rfl⟩
        refine ⟨by simpa using h₁, fun h => ?_, rfl, rfl⟩
        simpa [h] using h₂
      · rintro ⟨-, -, rfl, rfl⟩
        exact ⟨rfl, rfl⟩

/-- **A registration binds its own identifier.** -/
theorem find?_register_self {r r' : Registry} {identifier : String} {candidate : Candidate}
    {replace : Bool} {relation : Relation}
    (h : r.register identifier candidate replace = .ok (r', relation)) :
    r'.find? (Text.lower identifier) = some relation := by
  obtain ⟨-, -, -, rfl⟩ := register_eq_ok_iff.1 h
  exact lookup_bind_self _ _ _

/-- **A registration leaves the other identifiers as they were.** -/
theorem find?_register_of_ne {r r' : Registry} {identifier key : String} {candidate : Candidate}
    {replace : Bool} {relation : Relation} (hk : key ≠ Text.lower identifier)
    (h : r.register identifier candidate replace = .ok (r', relation)) :
    r'.find? key = r.find? key := by
  obtain ⟨-, -, -, rfl⟩ := register_eq_ok_iff.1 h
  exact lookup_bind_of_ne hk _ _

end Registry
end Typestate
