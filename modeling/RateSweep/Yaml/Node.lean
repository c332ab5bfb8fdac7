import RateSweep.Yaml.Token

namespace RateSweep.Yaml

inductive Node where
  | reference (anchor : Nat)
  | scalar (anchor : Option Nat) (text : List Char) (style : ScalarStyle) (tag : Option TagText)
  | sequence (anchor : Option Nat) (items : List Node)
  | mapping (anchor : Option Nat) (entries : List (Node × Node))

namespace Node

def empty : Node := scalar none [] .plain none

mutual

def anchored? (n : Nat) : Node → Option Node
  | reference _ => none
  | scalar a text style tag => if a = some n then some (scalar a text style tag) else none
  | sequence a items =>
    anchoredItem? n items <|> if a = some n then some (sequence a items) else none
  | mapping a entries =>
    anchoredEntry? n entries <|> if a = some n then some (mapping a entries) else none

def anchoredItem? (n : Nat) : List Node → Option Node
  | [] => none
  | item :: items => anchoredItem? n items <|> anchored? n item

def anchoredEntry? (n : Nat) : List (Node × Node) → Option Node
  | [] => none
  | (k, v) :: entries => anchoredEntry? n entries <|> anchored? n v <|> anchored? n k

end

end Node

/-- What is known while tokens are read: those ahead, the meaning of tag handles, and the number
that each anchor's name stands for at present. -/
structure Outlook where
  tokens : List Token
  handles : List (List Char × TagText)
  anchors : List (List Char × Nat)

abbrev Reading := StateT Outlook Option

namespace Reading

def peek : Reading (Option Token) := return (← get).tokens.head?

def skip : Reading Unit := modify fun s => { s with tokens := s.tokens.tail }

def isAt (ts : List Token) : Reading Bool := return (← peek).any ts.contains

/-- An anchor gets the number of names known before it. -/
def newAnchor (name : List Char) : Reading Nat := do
  let s ← get
  let n := s.anchors.length
  set { s with anchors := (name, n) :: s.anchors.filter fun a => a.1 != name }
  pure n

def resolveTag (handle : List Char) (suffix : TagText) : Reading TagText := do
  if handle.isEmpty then pure suffix
  else match (← get).handles.lookup handle with
    | some stem => pure (stem ++ suffix)
    | none => failure

def anchor : Reading (Option Nat) := do
  match ← peek with
  | some (.anchor name) => skip; some <$> newAnchor name
  | _ => pure none

def tag : Reading (Option TagText) := do
  match ← peek with
  | some (.tag handle suffix) => skip; some <$> resolveTag handle suffix
  | _ => pure none

def properties : Reading (Option Nat × Option TagText) := do
  match ← anchor with
  | some n => pure (some n, ← tag)
  | none =>
    let t ← tag
    pure (← anchor, t)

def emptyUnless (stop : List Token) (node : Reading Node) : Reading Node := do
  if ← isAt stop then pure .empty else node

def valueUnless (stop : List Token) (node : Reading Node) : Reading Node := do
  if ← isAt [.value] then
    skip
    emptyUnless stop node
  else pure .empty

def separator : Reading Unit := do
  if ← isAt [.flowEntry] then skip else failure

mutual

/-- A node: any, or one that is no block. The value of a key may be a sequence that is not
indented. -/
def node (block value : Bool) : Nat → Reading Node
  | 0 => failure
  | fuel + 1 => do
    match ← peek with
    | some (.reference name) =>
      skip
      match (← get).anchors.lookup name with
      | some n => pure (.reference n)
      | none => failure
    | _ =>
      let (a, t) ← properties
      match ← peek, block, value with
      | some (.scalar text style), _, _ => skip; pure (.scalar a text style t)
      | some .flowSequenceStart, _, _ => skip; .sequence a <$> flowItems true fuel
      | some .flowMappingStart, _, _ => skip; .mapping a <$> flowEntries true fuel
      | some .blockSequenceStart, true, _ => skip; .sequence a <$> blockItems fuel
      | some .blockMappingStart, true, _ => skip; .mapping a <$> blockEntries fuel
      | some .blockEntry, _, true => .sequence a <$> looseItems fuel
      | _, _, _ => if a.isSome || t.isSome then pure (.scalar a [] .plain t) else failure

def blockItems : Nat → Reading (List Node)
  | 0 => failure
  | fuel + 1 => do
    match ← peek with
    | some .blockEntry =>
      skip
      let item ← emptyUnless [.blockEntry, .blockEnd] (node true false fuel)
      (item :: ·) <$> blockItems fuel
    | some .blockEnd => skip; pure []
    | _ => failure

def looseItems : Nat → Reading (List Node)
  | 0 => failure
  | fuel + 1 => do
    if ← isAt [.blockEntry] then
      skip
      let item ← emptyUnless [.blockEntry, .key, .value, .blockEnd] (node true false fuel)
      (item :: ·) <$> looseItems fuel
    else pure []

def blockEntries : Nat → Reading (List (Node × Node))
  | 0 => failure
  | fuel + 1 => do
    match ← peek with
    | some .key =>
      skip
      let k ← emptyUnless [.key, .value, .blockEnd] (node true true fuel)
      let v ← valueUnless [.key, .value, .blockEnd] (node true true fuel)
      ((k, v) :: ·) <$> blockEntries fuel
    | some .blockEnd => skip; pure []
    | _ => failure

/-- A mapping of one entry within a flow sequence. If its key is missing, so is the token behind
it. -/
def flowPair : Nat → Reading Node
  | 0 => failure
  | fuel + 1 => do
    let k ←
      if ← isAt [.value, .flowEntry, .flowSequenceEnd] then
        skip
        pure .empty
      else node false false fuel
    let v ← valueUnless [.flowEntry, .flowSequenceEnd] (node false false fuel)
    pure (.mapping none [(k, v)])

def flowItems (first : Bool) : Nat → Reading (List Node)
  | 0 => failure
  | fuel + 1 => do
    if !first && !(← isAt [.flowSequenceEnd]) then separator
    match ← peek with
    | some .flowSequenceEnd => skip; pure []
    | some .key =>
      skip
      let pair ← flowPair fuel
      (pair :: ·) <$> flowItems false fuel
    | _ =>
      let item ← node false false fuel
      (item :: ·) <$> flowItems false fuel

def flowEntries (first : Bool) : Nat → Reading (List (Node × Node))
  | 0 => failure
  | fuel + 1 => do
    if !first && !(← isAt [.flowMappingEnd]) then separator
    match ← peek with
    | some .flowMappingEnd => skip; pure []
    | some .key =>
      skip
      let k ← emptyUnless [.value, .flowEntry, .flowMappingEnd] (node false false fuel)
      let v ← valueUnless [.flowEntry, .flowMappingEnd] (node false false fuel)
      ((k, v) :: ·) <$> flowEntries false fuel
    | _ =>
      let k ← node false false fuel
      ((k, .empty) :: ·) <$> flowEntries false fuel

end

end Reading

def Directive.handles? : Bool → List (List Char × TagText) → List Directive →
    Option (List (List Char × TagText))
  | _, known, [] => some known
  | seen, known, .version major minor :: ds =>
    if seen || major != 1 || (minor != 1 && minor != 2) then none else handles? true known ds
  | seen, known, .tag handle stem :: ds =>
    if (known.lookup handle).isSome then none else handles? seen ((handle, stem) :: known) ds

def defaultHandles : List (List Char × TagText) :=
  [(['!'], asciiBytes ['!']), (['!', '!'], "tag:yaml.org,2002:".toUTF8.toList)]

def splitDirectives : List Token → List Directive × List Token
  | .directive d :: ts => let (ds, ts) := splitDirectives ts; (d :: ds, ts)
  | ts => ([], ts)

structure Document where
  root : Option Node

namespace Document

def readRoot (handles : List (List Char × TagText)) (ts : List Token) :
    Option (Node × List Token) :=
  ((Reading.node true false (3 * ts.length + 3)).run ⟨ts, handles, []⟩).map fun (n, s) =>
    (n, s.tokens)

def startsContent : List Token → Bool
  | [] => false
  | .directive _ :: _ => false
  | .documentStart :: _ => false
  | .documentEnd :: _ => false
  | _ => true

def ofTokens? (ts : List Token) : Option Document :=
  if ts.isEmpty then some ⟨none⟩
  else do
    let (directives, behind) := splitDirectives ts
    let handles ← Directive.handles? false [] directives
    let handles := handles ++ defaultHandles
    let (root, behind) ← match behind with
      | .documentStart :: ts => if startsContent ts then readRoot handles ts else some (.empty, ts)
      | ts => if directives.isEmpty then readRoot handles ts else none
    if behind.all (· = .documentEnd) then some ⟨some root⟩ else none

def ofText? (text : String) : Option Document := (tokens text.toList).bind ofTokens?

def resolve (d : Document) : Node → Option Node
  | .reference n => d.root.bind (·.anchored? n)
  | n => some n

end Document

end RateSweep.Yaml
