import RateSweep.Yaml.Tag
/-!
The tokens of a YAML text. A key without an indicator is known by the colon behind it, so its place
among the tokens is kept until the colon comes or can no longer come.
-/

namespace RateSweep.Yaml

inductive Token where
  | directive (d : Directive)
  | documentStart
  | documentEnd
  | blockSequenceStart
  | blockMappingStart
  | blockEnd
  | flowSequenceStart
  | flowSequenceEnd
  | flowMappingStart
  | flowMappingEnd
  | blockEntry
  | flowEntry
  | key
  | value
  | reference (name : List Char)
  | anchor (name : List Char)
  | tag (handle : List Char) (suffix : TagText)
  | scalar (text : List Char) (style : ScalarStyle)
deriving DecidableEq

structure PendingKey where
  required : Bool
  position : Nat
  index : Nat
  line : Nat
  column : Nat

structure Scanner where
  cursor : Cursor
  tokens : Array Token := #[]
  indent : Int := -1
  outerIndents : List Int := []
  keyAllowed : Bool := true
  pending : Option PendingKey := none
  outerPending : List (Option PendingKey) := []

namespace Scanner

def inFlow (s : Scanner) : Bool := !s.outerPending.isEmpty

def push (s : Scanner) (t : Token) : Scanner := { s with tokens := s.tokens.push t }

def advance (s : Scanner) (n : Nat) (t : Token) : Scanner :=
  { s.push t with cursor := s.cursor.drop n }

def skipBlank : Nat → Scanner → Scanner
  | 0, s => s
  | fuel + 1, s =>
    let c := if s.cursor.column = 0 && s.cursor.peek = some '\ufeff' then s.cursor.drop 1
      else s.cursor
    let tabs := s.inFlow || !s.keyAllowed
    let c := (c.dropWhile fun ch => ch = ' ' || (tabs && ch = '\t')).skipComment
    if c.peek.any isBreak then
      skipBlank fuel { s with cursor := c.skipBreak, keyAllowed := s.keyAllowed || !s.inFlow }
    else { s with cursor := c }

def PendingKey.isStale (c : Cursor) (k : PendingKey) : Bool :=
  k.line < c.line || k.index + 1024 < c.index

/-- A key ends on its line, and within 1024 bytes. -/
def expire (c : Cursor) : Option PendingKey → Option (Option PendingKey)
  | some k =>
    if PendingKey.isStale c k then if k.required then none else some none else some (some k)
  | none => some none

def expirePending (s : Scanner) : Option Scanner := do
  let pending ← expire s.cursor s.pending
  let outer ← s.outerPending.mapM (expire s.cursor)
  pure { s with pending := pending, outerPending := outer }

def closeBlocks (column indent : Int) : List Int → Array Token → Int × List Int × Array Token
  | [], tokens => (indent, [], tokens)
  | outer :: rest, tokens =>
    if column < indent then closeBlocks column outer rest (tokens.push .blockEnd)
    else (indent, outer :: rest, tokens)

def unindent (column : Int) (s : Scanner) : Scanner :=
  if s.inFlow then s
  else
    let (indent, outer, tokens) := closeBlocks column s.indent s.outerIndents s.tokens
    { s with indent := indent, outerIndents := outer, tokens := tokens }

def openBlock (column position : Nat) (t : Token) (s : Scanner) : Scanner :=
  if !s.inFlow && s.indent < column then
    { s with
      indent := column
      outerIndents := s.indent :: s.outerIndents
      tokens := s.tokens.insertIdxIfInBounds position t }
  else s

def openBlockHere (t : Token) (s : Scanner) : Scanner :=
  s.openBlock s.cursor.column s.tokens.size t

def dropPending (s : Scanner) : Option Scanner :=
  if s.pending.any PendingKey.required then none else some { s with pending := none }

def setPending (s : Scanner) : Option Scanner :=
  if s.keyAllowed then do
    let c := s.cursor
    let required := !s.inFlow && s.indent = c.column
    let s ← s.dropPending
    pure { s with pending := some ⟨required, s.tokens.size, c.index, c.line, c.column⟩ }
  else some s

def allowKey (allowed : Bool) (s : Scanner) : Scanner := { s with keyAllowed := allowed }

def directive (s : Scanner) : Option Scanner := do
  let s ← (s.unindent (-1)).dropPending
  let (d, c) ← scanDirective (s.cursor.drop 1)
  pure { s.push (.directive d) with cursor := c, keyAllowed := false }

def documentMarker (t : Token) (s : Scanner) : Option Scanner := do
  let s ← (s.unindent (-1)).dropPending
  pure ((s.advance 3 t).allowKey false)

def openFlow (t : Token) (s : Scanner) : Option Scanner := do
  let s ← s.setPending
  let s := { s with pending := none, outerPending := s.pending :: s.outerPending }
  pure ((s.advance 1 t).allowKey true)

def closeFlow (t : Token) (s : Scanner) : Option Scanner := do
  let s ← s.dropPending
  let s := match s.outerPending with
    | [] => s
    | k :: outer => { s with pending := k, outerPending := outer }
  pure ((s.advance 1 t).allowKey false)

def flowEntry (s : Scanner) : Option Scanner := do
  pure (((← s.dropPending).advance 1 .flowEntry).allowKey true)

def blockEntry (s : Scanner) : Option Scanner :=
  if !s.inFlow && !s.keyAllowed then none
  else do
    let s ← (s.openBlockHere .blockSequenceStart).dropPending
    pure ((s.advance 1 .blockEntry).allowKey true)

def key (s : Scanner) : Option Scanner :=
  if !s.inFlow && !s.keyAllowed then none
  else do
    let s ← (s.openBlockHere .blockMappingStart).dropPending
    pure ((s.advance 1 .key).allowKey (!s.inFlow))

def value (s : Scanner) : Option Scanner :=
  match s.pending with
  | some k =>
    let s := { s with tokens := s.tokens.insertIdxIfInBounds k.position .key, pending := none }
    some (((s.openBlock k.column k.position .blockMappingStart).advance 1 .value).allowKey false)
  | none =>
    if !s.inFlow && !s.keyAllowed then none
    else some (((s.openBlockHere .blockMappingStart).advance 1 .value).allowKey (!s.inFlow))

def link (make : List Char → Token) (s : Scanner) : Option Scanner := do
  let s ← s.setPending
  let (name, c) ← scanAnchor (s.cursor.drop 1)
  pure { s.push (make name) with cursor := c, keyAllowed := false }

def tag (s : Scanner) : Option Scanner := do
  let s ← s.setPending
  let (handle, suffix, c) ← scanTag s.inFlow s.cursor
  pure { s.push (.tag handle suffix) with cursor := c, keyAllowed := false }

def blockScalar (style : ScalarStyle) (s : Scanner) : Option Scanner := do
  let s ← s.dropPending
  let r ← scanBlock (style = .literal) s.indent (s.cursor.drop 1)
  pure { s.push (.scalar r.text style) with cursor := r.cursor, keyAllowed := true }

def quotedScalar (style : ScalarStyle) (s : Scanner) : Option Scanner := do
  let s ← s.setPending
  let r ← scanQuoted (style = .singleQuoted) (s.cursor.rest.length + 1) [] (s.cursor.drop 1)
  pure { s.push (.scalar r.text style) with cursor := r.cursor, keyAllowed := false }

def plainScalar (s : Scanner) : Option Scanner := do
  let s ← s.setPending
  let (r, broken) ←
    scanPlain s.inFlow (s.indent + 1) (s.cursor.rest.length + 1) [] .none s.cursor
  pure { s.push (.scalar r.text .plain) with cursor := r.cursor, keyAllowed := broken }

def indicators : List Char :=
  ['-', '?', ':', ',', '[', ']', '\x7b', '\x7d', '#', '&', '*', '!', '|', '>', '\'', '"', '%', '@',
    '\x60']

def startsPlain (inFlow : Bool) (c : Char) (behind : List Char) : Bool :=
  (!isSpaceOrBreak c && !indicators.contains c) ||
    (c = '-' && behind.head?.all fun ch => !isSpace ch) ||
    (!inFlow && (c = '?' || c = ':') && !startsBlank behind)

def token (s : Scanner) (c : Char) (behind : List Char) : Option Scanner :=
  let separate := s.inFlow || startsBlank behind
  if s.cursor.column = 0 && c = '%' then s.directive
  else if s.cursor.atMarker '-' then s.documentMarker .documentStart
  else if s.cursor.atMarker '.' then s.documentMarker .documentEnd
  else if c = '[' then s.openFlow .flowSequenceStart
  else if c = '\x7b' then s.openFlow .flowMappingStart
  else if c = ']' then s.closeFlow .flowSequenceEnd
  else if c = '\x7d' then s.closeFlow .flowMappingEnd
  else if c = ',' then s.flowEntry
  else if c = '-' && startsBlank behind then s.blockEntry
  else if c = '?' && separate then s.key
  else if c = ':' && separate then s.value
  else if c = '*' then s.link .reference
  else if c = '&' then s.link .anchor
  else if c = '!' then s.tag
  else if c = '|' && !s.inFlow then s.blockScalar .literal
  else if c = '>' && !s.inFlow then s.blockScalar .folded
  else if c = '\'' then s.quotedScalar .singleQuoted
  else if c = '"' then s.quotedScalar .doubleQuoted
  else if startsPlain s.inFlow c behind then s.plainScalar
  else none

def finish (s : Scanner) : Option (List Token) :=
  ((s.unindent (-1)).dropPending).map fun s => s.tokens.toList

def run : Nat → Scanner → Option (List Token)
  | 0, _ => none
  | fuel + 1, s => do
    let s ← (s.skipBlank (s.cursor.rest.length + 1)).expirePending
    let s := s.unindent s.cursor.column
    match s.cursor.rest with
    | [] => s.finish
    | c :: behind => run fuel (← s.token c behind)

end Scanner

def isAllowed (c : Char) : Bool :=
  let n := c.toNat
  c = '\t' || c = '\n' || c = '\r' || (0x20 ≤ n && n ≤ 0x7e) || n = 0x85 ||
    (0xa0 ≤ n && n ≤ 0xd7ff) || (0xe000 ≤ n && n ≤ 0xfffd) || 0x10000 ≤ n

def tokens (text : List Char) : Option (List Token) :=
  if text.all isAllowed then
    Scanner.run (text.length + 1) { cursor := ⟨text, 0, 0, 0⟩ }
  else none

end RateSweep.Yaml
