import Typestate.Resolution

/-! # Wrappers

A wrapper is the description of one generated type: it wraps an instance of the entity that is in
one permutation, and its members are the capabilities available there. A member without a value
result returns the wrapper of the successor permutation.

* `Assembler.assemble`: the wrapper of a permutation.
* `genericName`: a type name with its type parameters in brackets.
* `Member.toData`, `Wrapper.toData`: the form that is handed on to whatever writes the types. -/

namespace Typestate

/-- How a member calls the wrapped entity. -/
inductive Invocation where
  | forward
  | forwardAndWrap
deriving DecidableEq

/-- The name of an invocation. -/
def Invocation.label : Invocation → String
  | .forward => "forward"
  | .forwardAndWrap => "forward_and_wrap"

/-- An exposed capability. -/
structure Member where
  name : String
  parameters : List Parameter
  typeParameters : List String
  result : Result
  invocation : Invocation
deriving DecidableEq

/-- The field that holds the entity. -/
structure Field where
  name : String
  type : String
deriving DecidableEq

/-- The constructor: it takes the entity and stores it in the field. -/
structure Constructor where
  parameter : String
  type : String
  field : String
deriving DecidableEq

/-- The generated type of one permutation. -/
structure Wrapper where
  typeName : String
  permutation : Permutation
  entity : String
  typeParameters : List String
  field : Field
  constructor : Constructor
  members : List Member
deriving DecidableEq

namespace Member

/-- The states of the successor, for a transition. -/
def successorEntry : Result → List (String × Data)
  | .value _ => []
  | .transition successor _ _ => [("successor", Data.texts successor.states)]

/-- The member as data. -/
def toData (m : Member) : Data :=
  Data.ofPairs
    ([("name", .text m.name),
      ("parameters", .list (m.parameters.map fun p =>
        Data.ofPairs [("name", .text p.name), ("type", .text p.type)])),
      ("type_parameters", Data.texts m.typeParameters),
      ("returns", .text m.result.type),
      ("invocation", .text m.invocation.label)] ++ successorEntry m.result)

end Member

namespace Wrapper

/-- The names of the members. -/
def memberNames (w : Wrapper) : List String := w.members.map (·.name)

/-- The member of a name. -/
def member (w : Wrapper) (name : String) : Except Failure Member :=
  match w.members.find? fun m => m.name = name with
  | some m => .ok m
  | none => .error (.missing (.member name w.typeName w.memberNames))

/-- The members that lead to a wrapper. -/
def transitions (w : Wrapper) : List Member := w.members.filter fun m => m.result.isTransition

/-- The wrapper as data. -/
def toData (w : Wrapper) : Data :=
  Data.ofPairs
    [("type_name", .text w.typeName),
     ("states", Data.texts w.permutation.states),
     ("entity", .text w.entity),
     ("type_parameters", Data.texts w.typeParameters),
     ("field", Data.ofPairs [("name", .text w.field.name), ("type", .text w.field.type)]),
     ("constructor", Data.ofPairs
       [("parameter", .text w.constructor.parameter),
        ("type", .text w.constructor.type),
        ("assigns", .text w.constructor.field)]),
     ("members", .list (w.members.map Member.toData))]

/-- The wrapper as it is shown in messages. -/
def display (w : Wrapper) : String :=
  "WrapperDescription(" ++ Text.quoted w.typeName ++ ", members=" ++
    Text.quotedList w.memberNames ++
    ")"

end Wrapper

/-- A type name with its type parameters. -/
def genericName (name : String) (typeParameters : List String) : String :=
  if typeParameters.isEmpty then name else name ++ "[" ++ Text.commaList typeParameters ++ "]"

/-! ### Assembling -/

/-- What assembling needs to know about an entity. -/
structure Assembler where
  entity : Entity
  resolver : Resolver
  fieldName : String
  argumentName : String

namespace Assembler

variable (a : Assembler)

/-- The entity's type. -/
def entityType : String := genericName a.entity.name a.entity.typeParameters

/-- The name of the wrapper of a permutation. -/
def typeName (p : Permutation) : String := p.typeName a.resolver.suffix

/-- All given capabilities in the permutation, available or not. -/
def resolveAll (p : Permutation) : List Capability → Except Failure (List Resolved)
  | [] => .ok []
  | c :: rest => do
    let resolved ← a.resolver.resolve c p
    let others ← resolveAll p rest
    .ok (resolved :: others)

/-- The result as a member returns it: a wrapper is named with the type parameters. -/
def memberResult : Result → Result
  | .value type => .value type
  | .transition successor type targets =>
    .transition successor (genericName type a.entity.typeParameters) targets

/-- The member for a capability with a result. -/
def member (c : Capability) (result : Result) : Member where
  name := c.name
  parameters := c.parameters
  typeParameters := c.typeParameters
  result := a.memberResult result
  invocation := if result.isTransition then .forwardAndWrap else .forward

/-- The members for the available capabilities. -/
def members (resolved : List Resolved) : List Member :=
  resolved.filterMap fun r => r.result.map (a.member r.capability)

/-- The wrapper of a permutation with the given members. -/
def wrapper (p : Permutation) (members : List Member) : Wrapper where
  typeName := a.typeName p
  permutation := p
  entity := a.entityType
  typeParameters := a.entity.typeParameters
  field := ⟨a.fieldName, a.entityType⟩
  constructor := ⟨a.argumentName, a.entityType, a.fieldName⟩
  members := members

/-- The wrapper of a permutation over the given capabilities. -/
def assembleOnly (p : Permutation) (capabilities : List Capability) : Except Failure Wrapper := do
  let resolved ← a.resolveAll p capabilities
  .ok (a.wrapper p (a.members resolved))

/-- The wrapper of a permutation. -/
def assemble (p : Permutation) : Except Failure Wrapper := a.assembleOnly p a.entity.capabilities

theorem resolveAll_eq_mapM (p : Permutation) (cs : List Capability) :
    a.resolveAll p cs = cs.mapM fun c => a.resolver.resolve c p := by
  induction cs with
  | nil => rfl
  | cons c rest ih =>
    rw [resolveAll, List.mapM_cons, ih]
    rfl

theorem permutation_wrapper (p : Permutation) (members : List Member) :
    (a.wrapper p members).permutation = p := rfl

theorem typeName_wrapper (p : Permutation) (members : List Member) :
    (a.wrapper p members).typeName = p.typeName a.resolver.suffix := rfl

/-- **A member wraps exactly if its result is a transition.** -/
theorem invocation_member (c : Capability) (result : Result) :
    (a.member c result).invocation = .forwardAndWrap ↔
      (a.member c result).result.isTransition = true := by
  cases result <;> simp [member, memberResult, Result.isTransition]

end Assembler
end Typestate
