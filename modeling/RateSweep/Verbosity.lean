import RateSweep.Number.Decimal
import RateSweep.Pattern.Wellformed
import RateSweep.Text.Alphanumeric
import RateSweep.Text.Blank
import RateSweep.Text.Offset
import RateSweep.Text.Segments
/-!
How much a run is to tell of itself: directives between commas, each a level, or a target with an
optional span and level, `target[span]=level`. Blanks around a directive do not count, yet its parts
are cut out of the text with the blanks, at the places where they stand without them.
-/

namespace RateSweep.Verbosity

inductive Fault where
  | malformed
  | torn
deriving DecidableEq, Repr

def levelNames : List String := ["off", "error", "warn", "info", "debug", "trace"]

def isLevel (cs : List Char) : Bool :=
  cs.isEmpty || levelNames.contains (String.ofList (cs.map Char.toLower)) ||
    ((Number.readU64 (String.ofList cs)).any (· < 6))

def isFieldValue (cs : List Char) : Bool :=
  (Number.readFloat (String.ofList cs)).isSome || Pattern.isWellformed cs

def isField (cs : List Char) : Bool :=
  match Text.split '=' cs with
  | _ :: value :: _ => isFieldValue value
  | _ => !cs.isEmpty

def startsDirective (c : Char) : Bool :=
  c = '[' || c = '-' || c = ':' || c = '_' || Text.isAlphanumeric c

def dropBytes (n : Nat) (text : List Char) : Except Fault (List Char) :=
  match Text.splitBytes? n text with
  | some (_, cs) => .ok cs
  | none => .error .torn

def slice (first last : Nat) (text : List Char) : Except Fault (List Char) := do
  match Text.splitBytes? (last - first) (← dropBytes first text) with
  | some (cs, _) => pure cs
  | none => throw .torn

def require (p : Bool) : Except Fault Unit := if p then .ok () else .error .malformed

def checkBehindSpan (text : List Char) (place : Nat) : List Char → Except Fault Unit
  | [] => .ok ()
  | '=' :: _ => do require (isLevel (← dropBytes (place + 1) text))
  | _ => .error .malformed

def isNamePart (c : Char) : Bool := c != ']' && c != '\x7b'

def isFieldPart (c : Char) : Bool := c != '\x7d'

def isTargetPart (c : Char) : Bool := c != '=' && c != '['

def checkFields (text : List Char) (place : Nat) (cs : List Char) : Except Fault Unit := do
  let field := cs.takeWhile isFieldPart
  let stop := place + Text.byteSize field
  match cs.drop field.length with
  | '\x7d' :: behind =>
    require (isField (← slice place stop text))
    match behind with
    | ']' :: rest => checkBehindSpan text (stop + 2) rest
    | _ => throw .malformed
  | _ => throw .malformed

def checkSpan (text : List Char) (place : Nat) (cs : List Char) : Except Fault Unit := do
  let name := cs.takeWhile isNamePart
  let stop := place + Text.byteSize name
  match cs.drop name.length with
  | ']' :: rest =>
    let _ ← slice place stop text
    checkBehindSpan text (stop + 1) rest
  | '\x7b' :: rest =>
    let _ ← slice place stop text
    checkFields text (stop + 1) rest
  | _ => throw .malformed

def checkDirective (text : List Char) : Except Fault Unit :=
  match Text.trimEnd (Text.trimStart text) with
  | [] => .error .malformed
  | '[' :: rest => checkSpan text 1 rest
  | c :: cs => do
    require (startsDirective c)
    let target := (c :: cs).takeWhile isTargetPart
    let stop := Text.byteSize target
    match (c :: cs).drop target.length with
    | [] => pure ()
    | '[' :: rest =>
      let _ ← slice 0 stop text
      checkSpan text (stop + 1) rest
    | rest =>
      let _ ← slice 0 stop text
      checkBehindSpan text stop rest

def check (text : String) : Except Fault Unit :=
  ((Text.split ',' text.toList).filter (!·.isEmpty)).forM checkDirective

end RateSweep.Verbosity
