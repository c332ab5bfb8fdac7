import RateSweep.Pattern.Bracket
import RateSweep.Text.Alphanumeric
/-!
Which texts are patterns. A pattern holds alternatives of parts, some of them groups and some of
them repeated. The texts here are without closing braces, so that no brace can open a count.
-/

namespace RateSweep.Pattern

/-- A part of an alternative. What only sets the mode cannot be repeated. -/
inductive Piece where
  | matching (depth : Nat)
  | setting

def Piece.depth : Piece → Nat
  | matching n => n
  | setting => 0

structure Body where
  branches : List Nat := []
  pieces : List Piece := []

namespace Body

def add (b : Body) (p : Piece) : Body := { b with pieces := p :: b.pieces }

def branchDepth (b : Body) : Nat :=
  match b.pieces with
  | [] => 0
  | [p] => p.depth
  | ps => (ps.map Piece.depth).foldr max 0 + 1

def depth (b : Body) : Nat :=
  match b.branches with
  | [] => b.branchDepth
  | ns => (b.branchDepth :: ns).foldr max 0 + 1

def alternate (b : Body) : Body := ⟨b.branchDepth :: b.branches, []⟩

def repeatLast (b : Body) : Option Body :=
  match b.pieces with
  | .matching n :: ps => some { b with pieces := .matching (n + 1) :: ps }
  | _ => none

end Body

def isNameStart (c : Char) : Bool := c = '_' || Text.isAlphabetic c

def isNameChar (c : Char) : Bool := ['_', '.', '[', ']'].contains c || Text.isAlphanumeric c

def groupName? (cs : List Char) : Option (List Char × List Char) :=
  let name := cs.takeWhile (· != '>')
  match name, cs.drop name.length with
  | c :: more, '>' :: rest =>
    if isNameStart c && more.all isNameChar then some (name, rest) else none
  | _, _ => none

def flags : List Char := ['i', 'm', 's', 'U', 'u', 'R', 'x']

def Mode.set (m : Mode) (flag : Char) (on : Bool) : Mode :=
  match flag with
  | 'u' => { m with unicode := on }
  | 'x' => { m with verbose := on }
  | _ => m

/-- Flags behind a question mark, up to the colon or the parenthesis that ends them; tells whether
there are any. No flag is given twice, and a hyphen turns off those behind it. -/
def readFlags (m : Mode) : List Char → List Char → Option (Mode × Bool × List Char)
  | _, [] => none
  | seen, c :: cs =>
    if c = ':' || c = ')' then
      if seen.head? = some '-' then none else some (m, !seen.isEmpty, c :: cs)
    else if seen.contains c then none
    else if c = '-' then readFlags m (c :: seen) cs
    else if flags.contains c then readFlags (m.set c (!seen.contains '-')) (c :: seen) cs
    else none

inductive Opening where
  | group (name : Option (List Char)) (inside : Mode)
  | setting (m : Mode)

def Mode.opening (m : Mode) (cs : List Char) : Option (Opening × List Char) :=
  let named (cs : List Char) : Option (Opening × List Char) := do
    let (name, cs) ← groupName? cs
    pure (.group (some name) m, cs)
  match m.skip cs with
  | '?' :: '=' :: _ => none
  | '?' :: '!' :: _ => none
  | '?' :: '<' :: '=' :: _ => none
  | '?' :: '<' :: '!' :: _ => none
  | '?' :: 'P' :: '<' :: cs => named cs
  | '?' :: '<' :: cs => named cs
  | '?' :: cs =>
    match readFlags m [] cs with
    | some (inside, _, ':' :: cs) => some (.group none inside, cs)
    | some (behind, true, ')' :: cs) => some (.setting behind, cs)
    | _ => none
  | cs => some (.group none m, cs)

structure Reading where
  mode : Mode := {}
  body : Body := {}
  outer : List (Body × Mode) := []
  names : List (List Char) := []

namespace Reading

def add (r : Reading) (p : Piece) : Reading := { r with body := r.body.add p }

def openGroup (r : Reading) (name : Option (List Char)) (inside : Mode) : Option Reading :=
  if name.any r.names.contains then none
  else some ⟨inside, {}, (r.body, r.mode) :: r.outer, name.toList ++ r.names⟩

def closeGroup (r : Reading) : Option Reading :=
  match r.outer with
  | [] => none
  | (body, mode) :: outer =>
    some ⟨mode, body.add (.matching (r.body.depth + 1)), outer, r.names⟩

def addAtom (r : Reading) (a : Atom) : Option Reading :=
  if r.mode.admits a then some (r.add (.matching 0)) else none

def part (r : Reading) (c : Char) (cs : List Char) : Option (Reading × List Char) := do
  match c with
  | '(' =>
    let (opening, cs) ← r.mode.opening cs
    match opening with
    | .group name inside => pure (← r.openGroup name inside, cs)
    | .setting mode => pure ({ r.add .setting with mode := mode }, cs)
  | ')' => pure (← r.closeGroup, cs)
  | '|' => pure ({ r with body := r.body.alternate }, cs)
  | '[' =>
    let (depth, cs) ← r.mode.bracket cs
    pure (r.add (.matching depth), cs)
  | '\x7b' => none
  | '\\' =>
    let (a, cs) ← r.mode.escape cs
    pure (← r.addAtom a, cs)
  | '.' => pure (← r.addAtom .anything, cs)
  | '^' => pure (← r.addAtom .anchor, cs)
  | '$' => pure (← r.addAtom .anchor, cs)
  | c =>
    if c = '?' || c = '*' || c = '+' then
      pure ({ r with body := ← r.body.repeatLast }, if cs.head? = some '?' then cs.tail else cs)
    else pure (← r.addAtom (.character c), cs)

def depth? : Nat → Reading → List Char → Option Nat
  | 0, _, _ => none
  | fuel + 1, r, cs =>
    match r.mode.skip cs with
    | [] => if r.outer.isEmpty then some r.body.depth else none
    | c :: cs => do
      let (r, cs) ← r.part c cs
      depth? fuel r cs

end Reading

def nestingLimit : Nat := 250

def isWellformed (cs : List Char) : Bool :=
  (Reading.depth? (cs.length + 1) {} cs).any (· ≤ nestingLimit)

end RateSweep.Pattern
