import RateSweep.Text.Offset

namespace RateSweep.Yaml

def isBreak (c : Char) : Bool :=
  c = '\n' || c = '\r' || c = '\u0085' || c = '\u2028' || c = '\u2029'

def isSpace (c : Char) : Bool := c = ' ' || c = '\t'

def isSpaceOrBreak (c : Char) : Bool := isSpace c || isBreak c

def isWordChar (c : Char) : Bool := c.isAlphanum || c = '_' || c = '-'

def startsBlank : List Char → Bool
  | [] => true
  | c :: _ => isSpaceOrBreak c

structure Cursor where
  rest : List Char
  /-- Counted in bytes, other than the column. -/
  index : Nat
  line : Nat
  column : Nat

namespace Cursor

def peek (c : Cursor) : Option Char := c.rest.head?

def peekAt (c : Cursor) (n : Nat) : Option Char := (c.rest.drop n).head?

def drop (c : Cursor) (n : Nat) : Cursor :=
  ⟨c.rest.drop n, c.index + Text.byteSize (c.rest.take n), c.line, c.column + n⟩

def dropWhile (p : Char → Bool) (c : Cursor) : Cursor := c.drop (c.rest.takeWhile p).length

def takeWhile (p : Char → Bool) (c : Cursor) : List Char := c.rest.takeWhile p

def skipSpaces (c : Cursor) : Cursor := c.dropWhile isSpace

def takeBreak (c : Cursor) : List Char × Cursor :=
  match c.rest with
  | '\r' :: '\n' :: rest => (['\n'], ⟨rest, c.index + 2, c.line + 1, 0⟩)
  | b :: rest =>
    if isBreak b then
      ([if b = '\u2028' || b = '\u2029' then b else '\n'],
        ⟨rest, c.index + b.utf8Size, c.line + 1, 0⟩)
    else ([], c)
  | [] => ([], c)

def skipBreak (c : Cursor) : Cursor := c.takeBreak.2

def skipComment (c : Cursor) : Cursor :=
  if c.peek = some '#' then c.dropWhile (fun ch => !isBreak ch) else c

def endLine (c : Cursor) : Option Cursor :=
  let c := c.skipSpaces.skipComment
  match c.peek with
  | none => some c
  | some b => if isBreak b then some c.skipBreak else none

def atMarker (c : Cursor) (mark : Char) : Bool :=
  c.column = 0 && c.rest.take 3 = [mark, mark, mark] && startsBlank (c.rest.drop 3)

def atDocumentMarker (c : Cursor) : Bool := c.atMarker '-' || c.atMarker '.'

end Cursor

end RateSweep.Yaml
