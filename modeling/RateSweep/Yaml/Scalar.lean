import RateSweep.Number.Hexadecimal
import RateSweep.Yaml.Cursor

namespace RateSweep.Yaml

open Number (hexNumber?)

structure Gap where
  spaces : List Char
  firstBreak : List Char
  moreBreaks : List Char
  broken : Bool

namespace Gap

def none : Gap := ⟨[], [], [], false⟩

def text (g : Gap) : List Char :=
  if g.broken then
    if g.firstBreak = ['\n'] then
      if g.moreBreaks.isEmpty then [' '] else g.moreBreaks
    else g.firstBreak ++ g.moreBreaks
  else g.spaces

def scan (indent : Int) : Nat → Gap → Cursor → Option (Gap × Cursor)
  | 0, _, _ => Option.none
  | fuel + 1, g, c =>
    match c.peek with
    | Option.none => some (g, c)
    | some ch =>
      if isSpace ch then
        if g.broken && (c.column : Int) < indent && ch = '\t' then Option.none
        else
          let g := if g.broken then g else { g with spaces := g.spaces ++ [ch] }
          scan indent fuel g (c.drop 1)
      else if isBreak ch then
        let (b, c) := c.takeBreak
        let g :=
          if g.broken then { g with moreBreaks := g.moreBreaks ++ b }
          else { g with spaces := [], firstBreak := b, broken := true }
        scan indent fuel g c
      else some (g, c)

end Gap

inductive ScalarStyle where
  | plain
  | singleQuoted
  | doubleQuoted
  | literal
  | folded
deriving DecidableEq

structure ScalarScan where
  text : List Char
  cursor : Cursor

def flowIndicators : List Char := [',', '[', ']', '\x7b', '\x7d']

def plainRun (inFlow : Bool) : List Char → Option (List Char)
  | [] => some []
  | c :: cs =>
    let next := cs.head?
    if isSpaceOrBreak c then some []
    else if inFlow && c = ':' && next.any (fun n => flowIndicators.contains n || n = '?') then none
    else if c = ':' && startsBlank cs then some []
    else if inFlow && flowIndicators.contains c then some []
    else (plainRun inFlow cs).map (c :: ·)

def scanPlain (inFlow : Bool) (indent : Int) :
    Nat → List Char → Gap → Cursor → Option (ScalarScan × Bool)
  | 0, _, _, _ => none
  | fuel + 1, text, gap, c =>
    if c.atDocumentMarker || c.peek = some '#' then some (⟨text, c⟩, gap.broken)
    else do
      let run ← plainRun inFlow c.rest
      let text := if run.isEmpty then text else text ++ gap.text ++ run
      let gap := if run.isEmpty then gap else .none
      let c := c.drop run.length
      if c.peek.all (fun ch => !isSpaceOrBreak ch) then some (⟨text, c⟩, gap.broken)
      else
        let (gap, c) ← gap.scan indent (c.rest.length + 1) c
        if !inFlow && (c.column : Int) < indent then some (⟨text, c⟩, gap.broken)
        else scanPlain inFlow indent fuel text gap c

def charOf? (n : Nat) : Option Char :=
  if n.isValidChar then some (Char.ofNat n) else none

def simpleEscape? (c : Char) : Option Char :=
  match c with
  | '0' => some '\x00'
  | 'a' => some '\x07'
  | 'b' => some '\x08'
  | 't' | '\t' => some '\t'
  | 'n' => some '\n'
  | 'v' => some '\x0b'
  | 'f' => some '\x0c'
  | 'r' => some '\r'
  | 'e' => some '\x1b'
  | ' ' | '"' | '/' | '\\' => some c
  | 'N' => some '\u0085'
  | '_' => some '\u00a0'
  | 'L' => some '\u2028'
  | 'P' => some '\u2029'
  | _ => none

def escape? : List Char → Option (Char × Nat)
  | [] => none
  | c :: cs =>
    let coded (width : Nat) : Option (Char × Nat) := do
      if cs.length < width then none
      let ch ← charOf? (← hexNumber? (cs.take width))
      pure (ch, width + 1)
    match c with
    | 'x' => coded 2
    | 'u' => coded 4
    | 'U' => coded 8
    | _ => (simpleEscape? c).map fun ch => (ch, 1)

inductive QuotedStop where
  | space
  | escapedBreak

/-- Quoted characters up to a space, a break or the closing quote: their text, how many there were,
and whether an escaped line break stopped them. -/
def quotedRun (single : Bool) : Nat → List Char → Option (List Char × Nat × QuotedStop)
  | 0, _ => none
  | fuel + 1, cs =>
    let more (text : Char) (n : Nat) : Option (List Char × Nat × QuotedStop) :=
      (quotedRun single fuel (cs.drop n)).map fun (t, m, stop) => (text :: t, n + m, stop)
    match cs with
    | [] => some ([], 0, .space)
    | c :: rest =>
      if isSpaceOrBreak c then some ([], 0, .space)
      else if single then
        if c = '\'' then
          if rest.head? = some '\'' then more '\'' 2 else some ([], 0, .space)
        else more c 1
      else if c = '"' then some ([], 0, .space)
      else if c = '\\' then
        if rest.head?.any isBreak then some ([], 1, .escapedBreak)
        else match escape? rest with
          | some (ch, n) => more ch (n + 1)
          | none => none
      else more c 1

def scanQuoted (single : Bool) : Nat → List Char → Cursor → Option ScalarScan
  | 0, _, _ => none
  | fuel + 1, text, c =>
    if c.atDocumentMarker || c.rest.isEmpty then none
    else do
      let (run, n, stop) ← quotedRun single (c.rest.length + 1) c.rest
      let text := text ++ run
      let c := c.drop n
      let (gap, c) := match stop with
        | .space => (Gap.none, c)
        | .escapedBreak => ({ Gap.none with broken := true }, c.skipBreak)
      if !gap.broken && c.peek = some (if single then '\'' else '"') then
        some ⟨text, c.drop 1⟩
      else
        let (gap, c) ← gap.scan 0 (c.rest.length + 1) c
        scanQuoted single fuel (text ++ gap.text) c

inductive Chomping where
  | strip
  | clip
  | keep
deriving DecidableEq

def chomping? : Char → Option Chomping
  | '+' => some .keep
  | '-' => some .strip
  | _ => none

def takeIncrement (c : Cursor) : Option (Option Nat × Cursor) :=
  match c.peek with
  | some d =>
    if d = '0' then none
    else if d.isDigit then some (some (d.toNat - 48), c.drop 1)
    else some (none, c)
  | none => some (none, c)

def takeChomping (c : Cursor) : Option Chomping × Cursor :=
  match c.peek.bind chomping? with
  | some k => (some k, c.drop 1)
  | none => (none, c)

def blockHeader (c : Cursor) : Option (Chomping × Option Nat × Cursor) :=
  match takeChomping c with
  | (some k, c) => (takeIncrement c).map fun (d, c) => (k, d, c)
  | (none, c) => (takeIncrement c).map fun (d, c) =>
    if d.isSome then
      let (k, c) := takeChomping c
      (k.getD .clip, d, c)
    else (.clip, none, c)

def leadingSpaces (indent : Option Nat) (c : Cursor) : Nat :=
  let spaces := (c.takeWhile (· = ' ')).length
  match indent with
  | none => spaces
  | some n => min spaces (n - c.column)

def blockBreaks (parent : Int) :
    Nat → Option Nat → Nat → List Char → Cursor → Option (Nat × List Char × Cursor)
  | 0, _, _, _, _ => none
  | fuel + 1, indent, deepest, breaks, c =>
    let c := c.drop (leadingSpaces indent c)
    let deepest := max deepest c.column
    if indent.all (c.column < ·) && c.peek = some '\t' then none
    else if c.peek.any isBreak then
      let (b, c) := c.takeBreak
      blockBreaks parent fuel indent deepest (breaks ++ b) c
    else
      let found := max (max deepest (parent + 1).toNat) 1
      some (indent.getD found, breaks, c)

def blockLines (literal : Bool) (parent : Int) (indent : Nat) :
    Nat → List Char → Bool → List Char → List Char → Cursor →
      Option (List Char × List Char × List Char × Cursor)
  | 0, _, _, _, _, _ => none
  | fuel + 1, text, afterSpace, lastBreak, breaks, c =>
    if c.column = indent && !c.rest.isEmpty then do
      let startsWithSpace := c.peek.any isSpace
      let folded := !literal && lastBreak = ['\n'] && !afterSpace && !startsWithSpace
      let text :=
        if folded then (if breaks.isEmpty then text ++ [' '] else text) else text ++ lastBreak
      let line := c.takeWhile fun ch => !isBreak ch
      let (b, c) := (c.drop line.length).takeBreak
      let (_, moreBreaks, c) ← blockBreaks parent (c.rest.length + 1) (some indent) 0 [] c
      blockLines literal parent indent fuel (text ++ breaks ++ line) startsWithSpace b moreBreaks c
    else some (text, lastBreak, breaks, c)

def scanBlock (literal : Bool) (parent : Int) (c : Cursor) : Option ScalarScan := do
  let (chomping, increment, c) ← blockHeader c
  let c ← c.endLine
  let given := increment.map fun n => (if 0 ≤ parent then parent.toNat else 0) + n
  let fuel := c.rest.length + 1
  let (indent, breaks, c) ← blockBreaks parent fuel given 0 [] c
  let (text, lastBreak, breaks, c) ← blockLines literal parent indent fuel [] false [] breaks c
  let text := if chomping = .strip then text else text ++ lastBreak
  let text := if chomping = .keep then text ++ breaks else text
  pure ⟨text, c⟩

end RateSweep.Yaml
