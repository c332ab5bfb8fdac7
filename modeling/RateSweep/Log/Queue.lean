import RateSweep.Number.Integer
import RateSweep.Text.Blank
/-!
Snapshots of the nodes' connection queues, as texts like `[(0,3), (1,0)]`. Pairs are read in order;
between them only blanks, commas, brackets and quotes may stand.
-/

namespace RateSweep

structure QueueEntry where
  node : UInt32
  depth : UInt32
deriving DecidableEq, Repr

inductive QueueError where
  | malformed
  | length (expected found : Nat)
deriving DecidableEq, Repr

structure QueueSnapshot where
  entries : List QueueEntry
deriving DecidableEq, Repr

namespace QueueSnapshot

def isGap (c : Char) : Bool :=
  Text.isBlank c || c = ',' || c = '[' || c = ']' || c = '"'

def readCount (cs : List Char) : Option (UInt32 × List Char) :=
  let cs := Text.trimStart cs
  match (Number.readDigits (cs.takeWhile Char.isDigit)).filter (· < UInt32.size) with
  | some n => some (UInt32.ofNat n, Text.trimStart (cs.dropWhile Char.isDigit))
  | none => none

theorem length_trimStart_le (cs : List Char) : (Text.trimStart cs).length ≤ cs.length :=
  (List.dropWhile_sublist _).length_le

theorem length_of_readCount {cs rest : List Char} {n : UInt32}
    (h : readCount cs = some (n, rest)) : rest.length ≤ cs.length := by
  unfold readCount at h
  simp only at h
  split at h
  · simp only [Option.some.injEq, Prod.mk.injEq] at h
    rw [← h.2]
    exact Nat.le_trans (length_trimStart_le _)
      (Nat.le_trans (List.dropWhile_sublist _).length_le (length_trimStart_le _))
  · cases h

def readPair (cs : List Char) : Option (QueueEntry × List Char) :=
  match readCount cs with
  | some (node, ',' :: cs) =>
    match readCount cs with
    | some (depth, ')' :: rest) => some (⟨node, depth⟩, rest)
    | _ => none
  | _ => none

theorem length_of_readPair {cs rest : List Char} {e : QueueEntry}
    (h : readPair cs = some (e, rest)) : rest.length ≤ cs.length := by
  unfold readPair at h
  split at h
  · next h1 =>
    have hl1 := length_of_readCount h1
    split at h
    · next h2 =>
      have hl2 := length_of_readCount h2
      simp only [Option.some.injEq, Prod.mk.injEq] at h
      rw [← h.2]
      simp only [List.length_cons] at hl1 hl2
      omega
    · cases h
  · cases h

def readEntries (cs : List Char) : Option (List QueueEntry) :=
  match cs with
  | [] => some []
  | c :: cs =>
    if isGap c then readEntries cs
    else if c = '(' then
      match h : readPair cs with
      | some (e, rest) =>
        have := length_of_readPair h
        (readEntries rest).map (e :: ·)
      | none => none
    else none
termination_by cs.length

def ofText? (text : String) (clusterSize : Nat) : Except QueueError QueueSnapshot :=
  match readEntries text.toList with
  | none | some [] => .error .malformed
  | some entries =>
    if entries.length = clusterSize then .ok ⟨entries⟩
    else .error (.length clusterSize entries.length)

def depthOf? (q : QueueSnapshot) (node : UInt32) : Option UInt32 :=
  (q.entries.find? (·.node == node)).map QueueEntry.depth

end QueueSnapshot

end RateSweep
