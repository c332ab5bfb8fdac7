import RateSweep.Disk.Error
import RateSweep.Disk.Path

namespace RateSweep

inductive Entry where
  | file (contents : List UInt8)
  | directory
  | locked
deriving DecidableEq

def Entry.isFile : Entry → Bool
  | directory => false
  | _ => true

abbrev Location := List String

structure FileTree where
  workingDirectory : Location
  entries : List (Location × Entry)
deriving DecidableEq

namespace FileTree

def lookupEntry (l : Location) : List (Location × Entry) → Option Entry
  | [] => none
  | (k, e) :: rest => if l = k then some e else lookupEntry l rest

def at? (t : FileTree) (l : Location) : Option Entry :=
  if l = [] then some .directory else lookupEntry l t.entries

def putEntry (l : Location) (e : Entry) : List (Location × Entry) → List (Location × Entry)
  | [] => [(l, e)]
  | (k, old) :: rest => if l = k then (l, e) :: rest else (k, old) :: putEntry l e rest

def put (t : FileTree) (l : Location) (e : Entry) : FileTree :=
  { t with entries := putEntry l e t.entries }

theorem lookupEntry_putEntry (l k : Location) (e : Entry) (es : List (Location × Entry)) :
    lookupEntry k (putEntry l e es) = if k = l then some e else lookupEntry k es := by
  induction es with
  | nil => rfl
  | cons p es ih =>
    simp only [putEntry]
    split <;> grind [lookupEntry]

theorem at?_put (t : FileTree) {l : Location} (k : Location) (e : Entry) (hl : l ≠ []) :
    (t.put l e).at? k = if k = l then some e else t.at? k := by
  by_cases hk : k = []
  · subst hk
    simp [at?, Ne.symm hl]
  · simp [at?, put, lookupEntry_putEntry, hk]

def segments (path : String) : List String := Text.segments '/' path

def origin (t : FileTree) (path : String) : Location :=
  if path.toList.head? = some '/' then [] else t.workingDirectory

def nameLimit : Nat := 255

def pathLimit : Nat := 4096

def pathFault? (path : String) : Option DiskError :=
  if path.toList.contains '\x00' then some .nulInPath
  else if path = "" then some .notFound
  else if pathLimit ≤ path.utf8ByteSize then some .nameTooLong
  else none

def step (t : FileTree) (l : Location) (name : String) : Except DiskError Location :=
  match t.at? l with
  | none => .error .notFound
  | some .directory =>
    if name = "" || name = "." then .ok l
    else if name = ".." then .ok l.dropLast
    else if nameLimit < name.utf8ByteSize then .error .nameTooLong
    else .ok (l ++ [name])
  | some _ => .error .notDirectory

def locate (t : FileTree) (path : String) : Except DiskError Location :=
  match pathFault? path with
  | some e => .error e
  | none => (segments path).foldlM t.step (t.origin path)

def openAt (t : FileTree) (path : String) : Except DiskError Entry := do
  match t.at? (← t.locate path) with
  | none => throw .notFound
  | some .locked => throw .permissionDenied
  | some e => pure e

def contents : Entry → Except DiskError (List UInt8)
  | .file bytes => .ok bytes
  | .directory => .error .isDirectory
  | .locked => .error .permissionDenied

def children (t : FileTree) (l : Location) : List (String × Entry) :=
  t.entries.filterMap fun (k, e) =>
    match k.getLast? with
    | some name => if k.dropLast = l then some (name, e) else none
    | none => none

def list (t : FileTree) (path : String) : Except DiskError (List (String × Entry)) := do
  let l ← t.locate path
  match t.at? l with
  | none => throw .notFound
  | some .directory => pure (t.children l)
  | some _ => throw .notDirectory

def makeDirectory (t : FileTree) (start : Location) (outer : List String) (name : String) :
    Except DiskError FileTree := do
  let l ← t.step (← outer.foldlM t.step start) name
  match t.at? l with
  | some _ => throw .alreadyExists
  | none => pure (t.put l .directory)

def hasDirectory (t : FileTree) (start : Location) (names : List String) : Bool :=
  match names.foldlM t.step start with
  | .ok l => t.at? l = some .directory
  | .error _ => false

/-- Directories are made up to a place, whose names are given from the last to the first. Those
above it are made only if it cannot be made without them. What was made before a fault stays. -/
def makeDirectories (start : Location) : List String → FileTree → FileTree × Option DiskError
  | [], t => (t, none)
  | name :: outer, t =>
    let make (t : FileTree) : FileTree × Option DiskError :=
      match t.makeDirectory start outer.reverse name with
      | .ok t => (t, none)
      | .error e =>
        if e = .alreadyExists && t.hasDirectory start (outer.reverse ++ [name]) then (t, none)
        else (t, some e)
    match make t with
    | (t, some .notFound) =>
      match makeDirectories start outer t with
      | (t, none) => make t
      | fault => fault
    | result => result

def createDirectories (t : FileTree) (path : String) : FileTree × Option DiskError :=
  if path = "" then (t, none)
  else match pathFault? path with
    | some e => (t, some e)
    | none => makeDirectories (t.origin path) (Path.names path).reverse t

def write (t : FileTree) (path : String) (contents : List UInt8) : Except DiskError FileTree := do
  let l ← t.locate path
  match t.at? l with
  | some .directory => throw .isDirectory
  | some .locked => throw .permissionDenied
  | _ => pure (t.put l (.file contents))

end FileTree

end RateSweep
