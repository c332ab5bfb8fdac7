/-!
Comma separated records, as bytes. A quote opens a quoted field only as the field's first byte;
inside, a doubled quote stands for one, and after the closing quote the field goes on unquoted.
A line feed or a carriage return ends a record, and empty lines are no records.
-/

namespace RateSweep.Csv

abbrev Field := List UInt8

def comma : UInt8 := 0x2C
def quote : UInt8 := 0x22
def carriageReturn : UInt8 := 0x0D
def lineFeed : UInt8 := 0x0A

def isTerminator (b : UInt8) : Bool := b == lineFeed || b == carriageReturn

structure Extent where
  bytes : Nat
  lineFeeds : Nat
deriving DecidableEq, Repr

namespace Extent

def zero : Extent := ⟨0, 0⟩

def step (b : UInt8) (e : Extent) : Extent :=
  ⟨e.bytes + 1, e.lineFeeds + if b = lineFeed then 1 else 0⟩

def of (bs : List UInt8) : Extent := bs.foldr step zero

def append (d e : Extent) : Extent := ⟨d.bytes + e.bytes, d.lineFeeds + e.lineFeeds⟩

end Extent

inductive Ending where
  | delimiter
  | terminator
  | input
deriving DecidableEq, Repr

inductive Mode where
  | start
  | bare
  | quoted
  | closing
deriving DecidableEq, Repr

inductive Action where
  | keep (next : Mode)
  | skip (next : Mode)
  | stop (ending : Ending)
deriving DecidableEq, Repr

def bareAction (b : UInt8) : Action :=
  if b = comma then .stop .delimiter
  else if isTerminator b then .stop .terminator
  else .keep .bare

def action (b : UInt8) : Mode → Action
  | .start => if b = quote then .skip .quoted else bareAction b
  | .bare => bareAction b
  | .quoted => if b = quote then .skip .closing else .keep .quoted
  | .closing => if b = quote then .keep .quoted else bareAction b

structure Scan where
  field : Field
  ending : Ending
  extent : Extent
  rest : List UInt8
deriving DecidableEq, Repr

def scan (mode : Mode) : List UInt8 → Scan
  | [] => ⟨[], .input, .zero, []⟩
  | b :: bs =>
    match action b mode with
    | .keep next =>
      let s := scan next bs
      ⟨b :: s.field, s.ending, s.extent.step b, s.rest⟩
    | .skip next =>
      let s := scan next bs
      ⟨s.field, s.ending, s.extent.step b, s.rest⟩
    | .stop ending => ⟨[], ending, Extent.zero.step b, bs⟩

theorem rest_scan_of_input {mode : Mode} {bs : List UInt8} (h : (scan mode bs).ending = .input) :
    (scan mode bs).rest = [] := by
  induction bs generalizing mode with
  | nil => rfl
  | cons b bs ih =>
    simp only [scan] at h ⊢
    split <;> simp_all
    cases mode <;> simp_all [action, bareAction] <;> grind

theorem length_rest_scan {mode : Mode} {bs : List UInt8} (h : (scan mode bs).ending ≠ .input) :
    (scan mode bs).rest.length < bs.length := by
  induction bs generalizing mode with
  | nil => exact absurd rfl h
  | cons b bs ih =>
    simp only [scan] at h ⊢
    split <;> simp_all
    all_goals
      have := ih h
      omega

structure RecordScan where
  fields : List Field
  extent : Extent
  rest : List UInt8
deriving DecidableEq, Repr

def scanRecord (bs : List UInt8) : RecordScan :=
  match h : scan .start bs with
  | ⟨field, .delimiter, extent, rest⟩ =>
    have : rest.length < bs.length := by
      have := @length_rest_scan .start bs (by simp [h])
      simpa [h] using this
    let r := scanRecord rest
    ⟨field :: r.fields, extent.append r.extent, r.rest⟩
  | ⟨field, _, extent, rest⟩ => ⟨[field], extent, rest⟩
termination_by bs.length

theorem length_rest_scanRecord {bs : List UInt8} (hne : bs ≠ []) :
    (scanRecord bs).rest.length < bs.length := by
  fun_induction scanRecord bs with
  | case1 bs field extent rest h hlt r ih =>
    by_cases he : rest = []
    · subst he
      have : r.rest = [] := by
        simp only [r]
        unfold scanRecord
        rfl
      simpa [this] using hlt
    · exact Nat.lt_trans (ih he) hlt
  | case2 bs field ending extent rest hd h =>
    cases ending with
    | delimiter => exact absurd rfl hd
    | terminator =>
      have := @length_rest_scan .start bs (by simp [h])
      simpa [h] using this
    | input =>
      have := @rest_scan_of_input .start bs (by simp [h])
      simp only [h] at this
      simpa [this] using List.length_pos_iff.2 hne

structure Position where
  record : Nat
  line : Nat
  byte : Nat
deriving DecidableEq, Repr

namespace Position

def first : Position := ⟨0, 1, 0⟩

def advance (p : Position) (e : Extent) : Position :=
  ⟨p.record, p.line + e.lineFeeds, p.byte + e.bytes⟩

end Position

/-- A record starts where the one before it ends, ahead of any empty lines between them. -/
structure Record where
  start : Position
  fields : List Field
deriving DecidableEq, Repr

def recordsFrom (start : Position) (bs : List UInt8) : List Record :=
  let blank := bs.takeWhile isTerminator
  let bs' := bs.dropWhile isTerminator
  if _h : bs' = [] then []
  else
    let r := scanRecord bs'
    let reached := (start.advance (.of blank)).advance r.extent
    ⟨start, r.fields⟩ :: recordsFrom { reached with record := start.record + 1 } r.rest
termination_by bs.length
decreasing_by
  exact Nat.lt_of_lt_of_le (length_rest_scanRecord ‹_›)
    (List.dropWhile_sublist isTerminator).length_le

def byteOrderMark : List UInt8 := [0xEF, 0xBB, 0xBF]

/-- The records of a text. A byte order mark in front is passed over as part of the first. -/
def records (bs : List UInt8) : List Record :=
  if byteOrderMark.isPrefixOf bs then
    let reached := Position.first.advance (.of byteOrderMark)
    match recordsFrom reached (bs.drop byteOrderMark.length) with
    | [] => []
    | r :: rs => { r with start := Position.first } :: rs
  else recordsFrom Position.first bs

end RateSweep.Csv
