import RateSweep.Number.Hexadecimal
import RateSweep.Text.Blank

namespace RateSweep.Pattern

structure Mode where
  verbose : Bool := false
  unicode : Bool := true
deriving DecidableEq

def skipRemarks : Bool → List Char → List Char
  | _, [] => []
  | true, c :: cs => skipRemarks (c != '\n') cs
  | false, c :: cs =>
    if Text.isBlank c then skipRemarks false cs
    else if c = '#' then skipRemarks true cs
    else c :: cs

def Mode.skip (m : Mode) (cs : List Char) : List Char :=
  if m.verbose then skipRemarks false cs else cs

inductive Atom where
  | character (c : Char)
  /-- Two hexadecimal digits; a character with Unicode, a byte without. -/
  | code (n : Nat)
  | kind (negated : Bool)
  | property (name : Char)
  | anything
  | anchor
  | wordAnchor
deriving DecidableEq

def isCategory (name : Char) : Bool :=
  ['C', 'L', 'M', 'N', 'P', 'S', 'Z'].contains name.toUpper

/-- Without Unicode, no byte above 127 may be matched, as it is no text. With Unicode, bytes do not
tell where a word ends. -/
def Mode.admits (m : Mode) : Atom → Bool
  | .character _ => true
  | .code n => m.unicode || n < 128
  | .kind negated => m.unicode || !negated
  | .property name => m.unicode && isCategory name
  | .anything => m.unicode
  | .anchor => true
  | .wordAnchor => !m.unicode

def Mode.hexDigits (m : Mode) : Nat → Nat → List Char → Option (Nat × List Char)
  | 0, n, cs => some (n, m.skip cs)
  | width + 1, n, cs =>
    match m.skip cs with
    | d :: cs => do hexDigits m width (16 * n + (← Number.hexValue? d)) cs
    | [] => none

def Mode.codePoint (m : Mode) (width : Nat) (cs : List Char) : Option (Atom × List Char) := do
  let (n, cs) ← m.hexDigits width 0 cs
  if n.isValidChar then some (.character (Char.ofNat n), cs) else none

def letterEscape? : Char → Option Atom
  | 'a' => some (.character '\x07')
  | 'f' => some (.character '\x0c')
  | 't' => some (.character '\t')
  | 'n' => some (.character '\n')
  | 'r' => some (.character '\r')
  | 'v' => some (.character '\x0b')
  | 'A' | 'z' => some .anchor
  | 'b' | 'B' | '<' | '>' => some .wordAnchor
  | 'd' | 's' | 'w' => some (.kind false)
  | 'D' | 'S' | 'W' => some (.kind true)
  | _ => none

def Mode.escape (m : Mode) : List Char → Option (Atom × List Char)
  | [] => none
  | 'x' :: cs => do
    let (n, cs) ← m.hexDigits 2 0 cs
    pure (.code n, cs)
  | 'u' :: cs => m.codePoint 4 cs
  | 'U' :: cs => m.codePoint 8 cs
  | c :: cs =>
    if c = 'p' || c = 'P' then
      match m.skip cs with
      | name :: cs => some (.property name, m.skip cs)
      | [] => none
    else match letterEscape? c with
      | some a => some (a, cs)
      | none => if c.toNat < 128 && !c.isAlphanum then some (.character c, cs) else none

end RateSweep.Pattern
