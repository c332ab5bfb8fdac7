import RateSweep.Text.Utf8
import RateSweep.Yaml.Node

namespace RateSweep.Yaml

open Number (hexValue?)

def coreTag (name : String) : TagText := ("tag:yaml.org,2002:" ++ name).toUTF8.toList

/-- Numbers and truth values are plain, or a literal block that its tag declares to be one. -/
def speaksFor (name : String) (style : ScalarStyle) (tag : Option TagText) : Bool :=
  style = .plain || (style = .literal && tag = some (coreTag name))

def digitOf? (radix : Nat) (c : Char) : Option Nat := (hexValue? c).filter (· < radix)

def readRadix (radix : Nat) (cs : List Char) : Option Nat :=
  if cs.isEmpty then none
  else (cs.foldlM (fun n c => (digitOf? radix c).map (radix * n + ·)) 0).filter (· < UInt64.size)

def readNumber (cs : List Char) : Option Nat :=
  let unsigned := match cs with
    | '+' :: ds => ds
    | ds => ds
  match unsigned with
  | '0' :: 'x' :: ds => readRadix 16 ds
  | '0' :: 'o' :: ds => readRadix 8 ds
  | '0' :: 'b' :: ds => readRadix 2 ds
  | ['0'] => some 0
  | '0' :: _ => none
  | ds => readRadix 10 ds

def readBool (cs : List Char) : Option Bool :=
  let text := String.ofList cs
  if ["true", "True", "TRUE"].contains text then some true
  else if ["false", "False", "FALSE"].contains text then some false
  else none

def isNull (cs : List Char) : Bool := ["", "null", "Null", "NULL", "~"].contains (String.ofList cs)

def localName? : TagText → Option String
  | b :: bs => if b = '!'.toNat.toUInt8 then (Text.decode bs).toOption else none
  | [] => none

namespace Document

def text? (d : Document) (n : Node) : Option String :=
  match d.resolve n with
  | some (.scalar _ cs _ _) => some (String.ofList cs)
  | _ => none

def number? (d : Document) (n : Node) : Option Nat :=
  match d.resolve n with
  | some (.scalar _ cs style tag) => if speaksFor "int" style tag then readNumber cs else none
  | _ => none

def word? (d : Document) (n : Node) : Option UInt32 :=
  ((d.number? n).filter (· < UInt32.size)).map UInt32.ofNat

def bool? (d : Document) (n : Node) : Option Bool :=
  match d.resolve n with
  | some (.scalar _ cs style tag) => if speaksFor "bool" style tag then readBool cs else none
  | _ => none

def name? (d : Document) (n : Node) : Option String :=
  match d.resolve n with
  | some (.scalar _ cs style tag) =>
    match tag.bind localName? with
    | some name => if style = .plain && isNull cs then some name else none
    | none => some (String.ofList cs)
  | _ => none

def items? (d : Document) (n : Node) : Option (List Node) :=
  match d.resolve n with
  | some (.sequence _ items) => some items
  | some (.scalar _ [] .plain _) => some []
  | _ => none

def list? {α : Type} (item : Node → Option α) (d : Document) (n : Node) : Option (List α) :=
  (d.items? n).bind fun ns => ns.mapM item

/-- The entries with one of these names. Others are passed over, but no name may occur twice. -/
def entriesNamed (names : List String) (d : Document) :
    List (Node × Node) → Option (List (String × Node))
  | [] => some []
  | (k, v) :: entries => do
    let name ← d.text? k
    let found ← entriesNamed names d entries
    if !names.contains name then pure found
    else if found.any (·.1 = name) then none
    else pure ((name, v) :: found)

def fields? (names : List String) (d : Document) (n : Node) : Option (List (String × Node)) :=
  match d.resolve n with
  | some (.mapping _ entries) => entriesNamed names d entries
  | some (.scalar _ [] .plain _) => some []
  | _ => none

end Document

end RateSweep.Yaml
