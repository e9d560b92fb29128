import Typestate.Log.Directive
import Typestate.Number.Numeral

/-! # Log messages

The message of a log record is a template with directives and the arguments for them. Without
arguments the template is the message.

* `Arguments`: what is put into a template: several arguments in a row, or a single value. The
  entries of a single mapping can be named by the directives.
* `Message.render`: the message, or why template and arguments do not go together. -/

namespace Typestate

/-- What is put into a template. -/
inductive Arguments where
  | none
  | several (first : Data) (rest : List Data)
  | single (d : Data)

namespace Arguments

/-- The arguments of a call. A single mapping stands for its entries, unless it is empty. -/
def ofList : List Data → Arguments
  | [] => .none
  | [.map (e :: entries)] => .single (.map (e :: entries))
  | d :: rest => .several d rest

/-- The arguments that a single value stands for. -/
def ofData (d : Data) : Arguments := if d.isVoid then .none else .single d

/-- The arguments in their order. -/
def toList : Arguments → List Data
  | .none => []
  | .several d rest => d :: rest
  | .single d => [d]

/-- The arguments can be left over. -/
def mayStay : Arguments → Bool
  | .single (.list _) => true
  | .single (.map _) => true
  | _ => false

/-- The argument of a name. -/
def named (a : Arguments) (name : String) : Except Failure Data :=
  match a with
  | .single (.map entries) =>
    match Data.find? name entries with
    | some d => .ok d
    | Option.none => .error (.missing (.entry name))
  | .single (.list _) => .error (.mismatch .notPosition)
  | _ => .error (.mismatch .notNamed)

end Arguments

namespace Message

/-- A place in a template: what is left of it, its position, and the arguments that are left. -/
structure Place where
  rest : List Char
  position : Nat
  arguments : List Data

namespace Place

/-- Behind as many characters. -/
def skip (p : Place) (count : Nat) : Place :=
  { p with rest := p.rest.drop count, position := p.position + count }

/-- The next argument. -/
def take (p : Place) : Except Failure (Data × Place) :=
  match p.arguments with
  | [] => .error (.mismatch .missingArgument)
  | d :: others => .ok (d, { p with arguments := others })

end Place

/-- The length of a name up to the parenthesis that closes it. -/
def nameLength? (depth : Nat) : List Char → Option Nat
  | [] => none
  | c :: rest =>
    if c = ')' then
      match depth with
      | 0 => some 0
      | depth + 1 => (nameLength? depth rest).map (· + 1)
    else (nameLength? (if c = '(' then depth + 1 else depth) rest).map (· + 1)

/-- Behind a name in parentheses, if there is one; its argument is the only one that is left. -/
def name (a : Arguments) (p : Place) : Except Failure Place :=
  match p.rest with
  | '(' :: rest =>
    match a with
    | .single (.map _) => found rest
    | .single (.list _) => found rest
    | _ => .error (.mismatch .notNamed)
  | _ => .ok p
where
  /-- Behind the parenthesis that closes a name. -/
  found (rest : List Char) : Except Failure Place :=
    match nameLength? 0 rest with
    | some length => do
      let d ← a.named (String.ofList (rest.take length))
      .ok { p.skip (length + 2) with arguments := [d] }
    | none => .error (.refused .openKey)

/-- The flags from here on. -/
def flags (f : Directive) : List Char → Directive × Nat
  | [] => (f, 0)
  | c :: rest =>
    let more (f : Directive) : Directive × Nat := Prod.map id (· + 1) (flags f rest)
    match c with
    | '-' => more { f with isLeft := true }
    | '+' => more { f with hasPlus := true }
    | ' ' => more { f with hasSpace := true }
    | '#' => more { f with isMarked := true }
    | '0' => more { f with hasZeros := true }
    | _ => (f, 0)

/-- The number that stands here, at most as large as `most`. -/
def number (most : Nat) (tooLarge : Refusal) (p : Place) : Except Failure (Nat × Place) :=
  let digits := p.rest.takeWhile Numeral.isDigit
  let n := Numeral.ofDigitsD digits
  if most < n then .error (.refused tooLarge) else .ok (n, p.skip digits.length)

/-- An argument that is used as a number. -/
def numberArgument (least most : Int) (tooLarge : Excess) (p : Place) :
    Except Failure (Int × Place) := do
  let (d, p) ← p.take
  let i ← match d with
    | .int i => .ok i
    | .bool b => .ok (if b then 1 else 0)
    | _ => .error (.mismatch .notWidth)
  if i < least ∨ most < i then .error (.beyond tooLarge) else .ok (i, p)

/-- The width, if there is one; a negative one fills up at the end. -/
def width (f : Directive) (p : Place) : Except Failure (Directive × Place) :=
  match p.rest with
  | '*' :: _ => do
    let (i, p) ← numberArgument (-9223372036854775808) 9223372036854775807 .size (p.skip 1)
    .ok ({ f with width := i.natAbs, isLeft := f.isLeft || i < 0 }, p)
  | _ => do
    let (n, p) ← number 9223372036854775807 .wideField p
    .ok ({ f with width := n }, p)

/-- The precision, if there is one; a negative one is zero. -/
def precision (f : Directive) (p : Place) : Except Failure (Directive × Place) :=
  match p.rest with
  | '.' :: '*' :: _ => do
    let (i, p) ← numberArgument (-2147483648) 2147483647 .code (p.skip 2)
    .ok ({ f with precision := some i.toNat }, p)
  | '.' :: _ => do
    let (n, p) ← number 2147483647 .longField (p.skip 1)
    .ok ({ f with precision := some n }, p)
  | _ => .ok (f, p)

/-- Behind a letter for the size of numbers, which means nothing. -/
def size (p : Place) : Place :=
  match p.rest with
  | c :: _ => if c == 'h' || c == 'l' || c == 'L' then p.skip 1 else p
  | [] => p

/-- The text of a directive behind its percent sign, and the place behind it. -/
def directive (a : Arguments) (p : Place) : Except Failure (List Char × Place) := do
  let p ← name a p
  let (f, length) := flags {} p.rest
  let (f, p) ← width f (p.skip length)
  let (f, p) ← precision f p
  let p := size p
  match p.rest with
  | [] => .error (.refused .openDirective)
  | letter :: _ =>
    let (d, behind) ← (p.skip 1).take
    let f := { f with letter, position := p.position }
    .ok (← f.shown d, behind)

/-- The text from a place on, and the arguments that are left. The number bounds the directives. -/
def renderFrom (a : Arguments) : Nat → Place → Except Failure (List Char × List Data)
  | 0, p => .ok (p.rest, p.arguments)
  | fuel + 1, p =>
    let plain := p.rest.takeWhile (· != '%')
    let p := p.skip plain.length
    match p.rest with
    | [] => .ok (plain, p.arguments)
    | _ :: '%' :: _ => do
      let (chars, left) ← renderFrom a fuel (p.skip 2)
      .ok (plain ++ '%' :: chars, left)
    | _ => do
      let (shown, behind) ← directive a (p.skip 1)
      let (chars, left) ← renderFrom a fuel behind
      .ok (plain ++ shown ++ chars, left)

/-- **The message of a template and its arguments.** -/
def render (template : String) (a : Arguments) : Except Failure String :=
  match a with
  | .none => .ok template
  | a => do
    let (chars, left) ← renderFrom a (template.length + 1) ⟨template.toList, 0, a.toList⟩
    if left.isEmpty || a.mayStay then .ok (String.ofList chars)
    else .error (.mismatch .extraArgument)

/-- **Without arguments the template is the message.** -/
theorem render_none (template : String) : render template .none = .ok template := rfl

end Message
end Typestate
