import PagedTable.Template.Align
import PagedTable.Value.Path

namespace PagedTable.Template

abbrev Arguments := List (String × Value)

def literal : List Char → Except Stop (List Char × Option (List Char))
  | [] => .ok ([], none)
  | '{' :: [] => .error .malformed
  | '{' :: '{' :: rest => (literal rest).map fun r => ('{' :: r.1, r.2)
  | '{' :: rest => .ok ([], some rest)
  | '}' :: '}' :: rest => (literal rest).map fun r => ('}' :: r.1, r.2)
  | '}' :: _ => .error .malformed
  | c :: rest => (literal rest).map fun r => (c :: r.1, r.2)

-- The name of a field, the character that ends it, and the rest. Inside square brackets every
-- character belongs to the name.
def nameOf : (inBrackets : Bool) → List Char → Except Stop (List Char × Char × List Char)
  | _, [] => .error .malformed
  | true, c :: rest => (nameOf (c ≠ ']') rest).map fun r => (c :: r.1, r.2)
  | false, c :: rest =>
    if c = '{' then .error .malformed
    else if c = '}' ∨ c = ':' ∨ c = '!' then .ok ([], c, rest)
    else (nameOf (c = '[') rest).map fun r => (c :: r.1, r.2)

-- The layout up to the closing brace of the field; `depth` counts the braces open inside it.
def layoutOf : Nat → List Char → Except Stop (List Char × List Char)
  | _, [] => .error .malformed
  | depth, c :: rest =>
    if c = '{' then (layoutOf (depth + 1) rest).map fun r => (c :: r.1, r.2)
    else if c = '}' then
      match depth with
      | 0 => .ok ([], rest)
      | depth + 1 => (layoutOf depth rest).map fun r => (c :: r.1, r.2)
    else (layoutOf depth rest).map fun r => (c :: r.1, r.2)

structure Field where
  name : List Char
  conversion : Option Char := none
  layout : List Char := []

def converted (name : List Char) : List Char → Except Stop (Field × List Char)
  | [] => .error .malformed
  | c :: '}' :: rest => .ok ({ name, conversion := some c }, rest)
  | c :: ':' :: rest =>
    (layoutOf 0 rest).map fun r => ({ name, conversion := some c, layout := r.1 }, r.2)
  | _ => .error .malformed

def field (cs : List Char) : Except Stop (Field × List Char) := do
  let (name, mark, rest) ← nameOf false cs
  if mark = '}' then return ({ name }, rest)
  else if mark = '!' then converted name rest
  else (layoutOf 0 rest).map fun r => ({ name, layout := r.1 }, r.2)

inductive Access where
  | attribute (name : String)
  | key (name : String)
  | index (n : Nat)

def asNumber? (cs : List Char) : Option Nat :=
  if cs.isEmpty then none
  else if cs.all fun c => (Text.digitValue? c).isSome then
    some (Text.ofDigits (cs.filterMap Text.digitValue?))
  else none

def isStepStart (c : Char) : Bool := c = '.' || c = '['

def firstAccess : List Char → Except Stop (Access × List Char)
  | '.' :: rest =>
    let name := rest.takeWhile fun c => !isStepStart c
    if name.isEmpty then .error .malformed
    else .ok (.attribute (String.ofList name), rest.dropWhile fun c => !isStepStart c)
  | '[' :: rest =>
    let name := rest.takeWhile (· ≠ ']')
    match rest.dropWhile (· ≠ ']') with
    | [] => .error .malformed
    | _ :: after =>
      if name.isEmpty then .error .malformed
      else
        match asNumber? name with
        | some n => .ok (.index n, after)
        | none => .ok (.key (String.ofList name), after)
  | _ => .error .malformed

def itemAt (items : List Value) (n : Nat) : Except Stop Value :=
  match items[n]? with
  | some v => .ok v
  | none => .error .malformed

def access (v : Value) : Access → Except Stop Value
  | .attribute name =>
    match v.attribute? name with
    | some w => .ok w
    | none => .error (.fault .noAttribute)
  | .key name =>
    match v with
    | .map fields =>
      match fields.lookup name with
      | some w => .ok w
      | none => .error .malformed
    | _ => .error (.fault .unsupported)
  | .index n =>
    match v with
    | .list items | .tuple items => itemAt items n
    | .text s => itemAt (s.toList.map fun c => .text (String.singleton c)) n
    | .map _ => .error .malformed
    | _ => .error (.fault .unsupported)

-- Goes into a value step by step; a malformed step counts only when it is reached. Fuel bounds the
-- number of steps.
def accessAll (v : Value) : Nat → List Char → Except Stop Value
  | _, [] => .ok v
  | 0, _ => .error .malformed
  | fuel + 1, cs => do
    let (step, rest) ← firstAccess cs
    let w ← access v step
    accessAll w fuel rest

-- The argument that a name begins with. Arguments have names only, so a missing or numeric one
-- asks for what was not given.
def argument (args : Arguments) (name : List Char) : Except Stop Value :=
  let first := name.takeWhile fun c => !isStepStart c
  if first.isEmpty || (asNumber? first).isSome then .error .malformed
  else
    match args.lookup (String.ofList first) with
    | none => .error .malformed
    | some v => accessAll v name.length (name.dropWhile fun c => !isStepStart c)

def asciiOnly (s : String) : List Char :=
  s.toList.flatMap fun c => if c.toNat < 128 then [c] else Text.escapeCode c

def convert (v : Value) : Option Char → Except Stop Value
  | none => .ok v
  | some 's' => .ok (.text v.plain)
  | some 'r' => .ok (.text v.quoted)
  | some 'a' => .ok (.text (String.ofList (asciiOnly v.quoted)))
  | some _ => .error .malformed

def fillField (inner : List Char → Except Stop (List Char)) (args : Arguments) (f : Field) :
    Except Stop (List Char) := do
  let v ← argument args f.name
  let v ← convert v f.conversion
  let layout ← if f.layout.contains '{' then inner f.layout else pure f.layout
  layValue v layout

-- The whole text with its fields filled. Fuel bounds the number of fields.
def fillAll (inner : List Char → Except Stop (List Char)) (args : Arguments) :
    Nat → List Char → Except Stop (List Char)
  | 0, _ => .ok []
  | fuel + 1, cs => do
    let (before, rest) ← literal cs
    match rest with
    | none => return before
    | some rest => do
      let (f, rest) ← field rest
      let shown ← fillField inner args f
      let after ← fillAll inner args fuel rest
      return before ++ shown ++ after

-- Fields may stand in the layout of a field, but no deeper.
def fillNested (args : Arguments) : Nat → List Char → Except Stop (List Char)
  | 0, _ => .error .malformed
  | depth + 1, cs => fillAll (fillNested args depth) args (cs.length + 1) cs

-- A text with its placeholders filled, or the text as it is when that cannot be done.
def format (text : String) (args : Arguments) : Except Fault String :=
  match fillNested args 2 text.toList with
  | .ok cs => .ok (String.ofList cs)
  | .error .malformed => .ok text
  | .error (.fault f) => .error f

end PagedTable.Template
