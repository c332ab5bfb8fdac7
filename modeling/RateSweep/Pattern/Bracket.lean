import RateSweep.Pattern.Atom

namespace RateSweep.Pattern

def unionDepth : List Nat → Nat
  | [] => 0
  | [n] => n
  | ns => ns.foldr max 0 + 1

structure OpenClass where
  left : Option Nat := none
  items : List Nat := []

namespace OpenClass

def add (c : OpenClass) (depth : Nat) : OpenClass := { c with items := depth :: c.items }

def depth (c : OpenClass) : Nat :=
  let right := unionDepth c.items
  match c.left with
  | none => right
  | some left => max left right + 1

def combine (c : OpenClass) : OpenClass := ⟨some c.depth, []⟩

end OpenClass

def leadingHyphens (m : Mode) : Nat → OpenClass → List Char → Option (OpenClass × List Char)
  | 0, _, _ => none
  | fuel + 1, c, cs =>
    match m.skip cs with
    | [] => none
    | '-' :: cs => leadingHyphens m fuel (c.add 0) cs
    | ']' :: cs => if c.items.isEmpty then some (c.add 0, cs) else some (c, ']' :: cs)
    | cs => some (c, cs)

def openClass (m : Mode) (cs : List Char) : Option (OpenClass × List Char) :=
  match m.skip cs with
  | '^' :: cs => if m.unicode then leadingHyphens m (cs.length + 1) {} cs else none
  | cs => leadingHyphens m (cs.length + 1) {} cs

def asciiClasses : List String :=
  ["alnum", "alpha", "ascii", "blank", "cntrl", "digit", "graph", "lower", "print", "punct",
    "space", "upper", "word", "xdigit"]

def asciiClass? : List Char → Option (Bool × List Char)
  | ':' :: cs =>
    let (negated, cs) := match cs with
      | '^' :: cs => (true, cs)
      | cs => (false, cs)
    let name := cs.takeWhile (· != ':')
    match cs.drop name.length with
    | ':' :: ']' :: rest =>
      if asciiClasses.contains (String.ofList name) then some (negated, rest) else none
    | _ => none
  | _ => none

def Atom.code? : Atom → Option Nat
  | .character c => some c.toNat
  | .code n => some n
  | _ => none

def Mode.item (m : Mode) : List Char → Option (Atom × List Char)
  | [] => none
  | '\\' :: cs => m.escape cs
  | c :: cs => some (.character c, cs)

def Mode.admitsMember (m : Mode) : Atom → Bool
  | .character c => m.unicode || c.toNat < 128
  | .anything => false
  | .anchor => false
  | .wordAnchor => false
  | a => m.admits a

def behindBlanks? : Bool → List Char → Option Char
  | _, [] => none
  | entered, c :: cs =>
    if Text.isBlank c then behindBlanks? entered cs
    else if c = '#' && !entered then behindBlanks? true cs
    else some c

def Mode.spansRange (m : Mode) (cs : List Char) : Bool :=
  let next := if m.verbose then behindBlanks? false cs else cs.head?
  next != some ']' && next != some '-'

def Mode.admitsRange (m : Mode) (first last : Atom) : Bool :=
  m.admitsMember first && m.admitsMember last &&
    first.code?.any fun low => last.code?.any fun high => low ≤ high

def Mode.range (m : Mode) (cs : List Char) : Option (List Char) := do
  let (first, cs) ← m.item cs
  let single (rest : List Char) := if m.admitsMember first then some rest else none
  match m.skip cs with
  | [] => none
  | '-' :: behind =>
    if m.spansRange behind then
      let (last, cs) ← m.item (m.skip behind)
      if m.admitsRange first last then some cs else none
    else single ('-' :: behind)
  | cs => single cs

/-- The depth of a class, and what follows it. The classes around the present one are given from
the inside. -/
def readClass (m : Mode) : Nat → OpenClass → List OpenClass → List Char →
    Option (Nat × List Char)
  | 0, _, _, _ => none
  | fuel + 1, c, outer, cs =>
    match m.skip cs with
    | [] => none
    | '[' :: cs =>
      match asciiClass? cs with
      | some (negated, cs) =>
        if m.unicode || !negated then readClass m fuel (c.add 0) outer cs else none
      | none => do
        let (inner, cs) ← openClass m cs
        readClass m fuel inner (c :: outer) cs
    | ']' :: cs =>
      match outer with
      | [] => some (c.depth + 1, cs)
      | around :: outer => readClass m fuel (around.add (c.depth + 1)) outer cs
    | '&' :: '&' :: cs => readClass m fuel c.combine outer cs
    | '-' :: '-' :: cs => readClass m fuel c.combine outer cs
    | '~' :: '~' :: cs => readClass m fuel c.combine outer cs
    | cs => do readClass m fuel (c.add 0) outer (← m.range cs)

def Mode.bracket (m : Mode) (cs : List Char) : Option (Nat × List Char) := do
  let (c, cs) ← openClass m cs
  readClass m (cs.length + 1) c [] cs

end RateSweep.Pattern
