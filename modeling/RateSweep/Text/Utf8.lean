namespace RateSweep.Text

def encode (s : String) : List UInt8 := s.toByteArray.data.toList

def wellFormedUpTo (b : ByteArray) (i : Nat) : Nat :=
  if _h : i < b.size then
    match b.utf8DecodeChar? i with
    | some c => wellFormedUpTo b (i + c.utf8Size)
    | none => i
  else i
termination_by b.size - i
decreasing_by
  have := c.utf8Size_pos
  omega

def decode (bs : List UInt8) : Except Nat String :=
  match String.fromUTF8? bs.toByteArray with
  | some s => .ok s
  | none => .error (wellFormedUpTo bs.toByteArray 0)

theorem toByteArray_encode (s : String) : (encode s).toByteArray = s.toByteArray := by
  apply ByteArray.ext
  apply Array.toList_inj.1
  rw [List.toList_data_toByteArray, encode]

theorem encode_inj {s t : String} (h : encode s = encode t) : s = t := by
  rw [← String.toByteArray_inj, ← toByteArray_encode, h, toByteArray_encode]

theorem encode_eq_flatMap (s : String) : encode s = s.toList.flatMap String.utf8EncodeChar := by
  rw [encode, ← String.utf8Encode_toList, List.utf8Encode, List.toList_data_toByteArray]

theorem decode_eq_ok_iff {bs : List UInt8} {s : String} : decode bs = .ok s ↔ bs = encode s := by
  have hbs : bs.toByteArray.data.toList = bs := List.toList_data_toByteArray
  unfold decode String.fromUTF8?
  by_cases h : bs.toByteArray.IsValidUTF8
  · simp only [h, ↓reduceDIte, Except.ok.injEq]
    constructor
    · intro e
      rw [← e, encode]
      exact hbs.symm
    · intro e
      rw [← String.toByteArray_inj, ← toByteArray_encode s, ← e]
      rfl
  · simp only [h, ↓reduceDIte, reduceCtorEq, false_iff]
    intro e
    rw [e, toByteArray_encode] at h
    exact h s.isValidUTF8

theorem decode_encode (s : String) : decode (encode s) = .ok s := decode_eq_ok_iff.2 rfl

end RateSweep.Text
