import RateSweep.Csv.Reader
import RateSweep.Proofs.TrimmedText
import RateSweep.Text.Utf8

namespace RateSweep.Text

def bytes (cs : List Char) : List UInt8 := cs.flatMap String.utf8EncodeChar

@[simp] theorem bytes_nil : bytes [] = [] := rfl

@[simp] theorem bytes_cons (c : Char) (cs : List Char) :
    bytes (c :: cs) = String.utf8EncodeChar c ++ bytes cs := rfl

@[simp] theorem bytes_append (cs ds : List Char) : bytes (cs ++ ds) = bytes cs ++ bytes ds :=
  List.flatMap_append

theorem encode_ofList (cs : List Char) : encode (String.ofList cs) = bytes cs := by
  rw [encode_eq_flatMap, String.toList_ofList, bytes]

theorem encode_eq_bytes (s : String) : encode s = bytes s.toList := encode_eq_flatMap s

theorem decode_bytes (cs : List Char) : decode (bytes cs) = .ok (String.ofList cs) := by
  rw [← encode_ofList, decode_encode]

theorem encodeChar_of_ascii {c : Char} (h : c.toNat < 128) :
    String.utf8EncodeChar c = [UInt8.ofNat c.toNat] := by
  have hle : c.val.toNat ≤ 0x7f := Nat.le_of_lt_succ h
  simp only [String.utf8EncodeChar, hle, ↓reduceIte]
  rfl

theorem le_of_mem_encodeChar {c : Char} (h : 128 ≤ c.toNat) {b : UInt8}
    (hb : b ∈ String.utf8EncodeChar c) : 128 ≤ b.toNat := by
  have hgt : ¬ c.val.toNat ≤ 0x7f := Nat.not_le.2 h
  simp only [String.utf8EncodeChar, hgt, ↓reduceIte] at hb
  split at hb
  · simp only [List.mem_cons, List.not_mem_nil, or_false] at hb
    rcases hb with rfl | rfl <;> simp only [UInt8.toNat_ofNat'] <;> omega
  · split at hb
    · simp only [List.mem_cons, List.not_mem_nil, or_false] at hb
      rcases hb with rfl | rfl | rfl <;> simp only [UInt8.toNat_ofNat'] <;> omega
    · simp only [List.mem_cons, List.not_mem_nil, or_false] at hb
      rcases hb with rfl | rfl | rfl | rfl <;> simp only [UInt8.toNat_ofNat'] <;> omega

theorem notMem_bytes {b : UInt8} {cs : List Char} (hb : b.toNat < 128)
    (h : Char.ofNat b.toNat ∉ cs) : b ∉ bytes cs := by
  intro hmem
  obtain ⟨c, hc, hbc⟩ := List.mem_flatMap.1 hmem
  by_cases hascii : c.toNat < 128
  · rw [encodeChar_of_ascii hascii, List.mem_singleton] at hbc
    have hval : b.toNat = c.toNat := by
      rw [hbc, UInt8.toNat_ofNat_of_lt' (by simp only [UInt8.size]; omega)]
    rw [hval, Char.ofNat_toNat] at h
    exact h hc
  · exact absurd (le_of_mem_encodeChar (Nat.not_lt.1 hascii) hbc) (Nat.not_le.2 hb)

theorem encodeChar_append_inj {c d : Char} {bs bs' : List UInt8}
    (h : String.utf8EncodeChar c ++ bs = String.utf8EncodeChar d ++ bs') : c = d := by
  have hc := ByteArray.utf8DecodeChar?_utf8EncodeChar_append (b := bs.toByteArray) (c := c)
  have hd := ByteArray.utf8DecodeChar?_utf8EncodeChar_append (b := bs'.toByteArray) (c := d)
  rw [← List.toByteArray_append, h, List.toByteArray_append, hd] at hc
  exact (Option.some.inj hc).symm

theorem head?_of_byteOrderMark {cs : List Char}
    (h : Csv.byteOrderMark.isPrefixOf (bytes cs) = true) : cs.head? = some '\uFEFF' := by
  have hmark : Csv.byteOrderMark = String.utf8EncodeChar '\uFEFF' := by decide
  obtain ⟨bs, hbs⟩ := List.isPrefixOf_iff_prefix.1 h
  rw [hmark] at hbs
  cases cs with
  | nil => simp at hbs
  | cons c cs => rw [encodeChar_append_inj hbs, List.head?_cons]

section Trimming

def isBlankAscii (c : Char) : Bool :=
  c = ' ' || c = '\t' || c = '\n' || c = Char.ofNat 12 || c = '\r'

theorem isBlank_of_isBlankAscii (c : Char) (h : isBlankAscii c = true) : isBlank c = true := by
  simp only [isBlankAscii, Bool.or_eq_true, decide_eq_true_eq] at h
  rcases h with (((rfl | rfl) | rfl) | rfl) | rfl <;> decide

theorem isBlankByte_ofNat {c : Char} (h : c.toNat < 128) :
    isBlankByte (UInt8.ofNat c.toNat) = isBlankAscii c := by
  have hc : c = Char.ofNat c.toNat := (Char.ofNat_toNat c).symm
  generalize c.toNat = n at h hc
  subst hc
  revert n
  decide

/-- What trimming bytes needs to know of an encoding. It holds of UTF-8 and of its mirror image. -/
structure KeepsBlanks (enc : Char → List UInt8) : Prop where
  ascii : ∀ c : Char, c.toNat < 128 → enc c = [UInt8.ofNat c.toNat]
  other : ∀ c : Char, 128 ≤ c.toNat → enc c ≠ [] ∧ ∀ b ∈ enc c, 128 ≤ b.toNat

theorem keepsBlanks_utf8 : KeepsBlanks String.utf8EncodeChar where
  ascii _ h := encodeChar_of_ascii h
  other _ h := ⟨String.utf8EncodeChar_ne_nil, fun _ => le_of_mem_encodeChar h⟩

theorem keepsBlanks_reverse_utf8 : KeepsBlanks (List.reverse ∘ String.utf8EncodeChar) where
  ascii _ h := by simp [encodeChar_of_ascii h]
  other _ h := ⟨by simp, fun b hb => le_of_mem_encodeChar h (by simpa using hb)⟩

theorem KeepsBlanks.dropWhile_flatMap {enc : Char → List UInt8} (h : KeepsBlanks enc)
    (cs : List Char) :
    (cs.flatMap enc).dropWhile isBlankByte = (cs.dropWhile isBlankAscii).flatMap enc := by
  induction cs with
  | nil => rfl
  | cons c cs ih =>
    rw [List.flatMap_cons]
    by_cases hc : c.toNat < 128
    · rw [h.ascii c hc, List.singleton_append, List.dropWhile_cons, List.dropWhile_cons,
        isBlankByte_ofNat hc]
      split
      · exact ih
      · rw [List.flatMap_cons, h.ascii c hc, List.singleton_append]
    · obtain ⟨hne, hall⟩ := h.other c (Nat.not_lt.1 hc)
      have hblank : ¬ isBlankAscii c = true := fun hb => by
        simp only [isBlankAscii, Bool.or_eq_true, decide_eq_true_eq] at hb
        rcases hb with (((rfl | rfl) | rfl) | rfl) | rfl <;> exact hc (by decide)
      rw [List.dropWhile_cons_of_neg hblank, List.flatMap_cons]
      obtain ⟨b, bs, hbs⟩ := List.exists_cons_of_ne_nil hne
      have hb : ¬ isBlankByte b = true := fun hb => by
        have hle := hall b (by simp [hbs])
        simp only [isBlankByte, Bool.or_eq_true, beq_iff_eq] at hb
        rcases hb with (((rfl | rfl) | rfl) | rfl) | rfl <;> exact absurd hle (by decide)
      rw [hbs, List.cons_append, List.dropWhile_cons_of_neg hb]

theorem trimBytes_bytes (cs : List Char) :
    trimBytes (bytes cs) =
      bytes ((cs.dropWhile isBlankAscii).reverse.dropWhile isBlankAscii).reverse := by
  rw [trimBytes, bytes, keepsBlanks_utf8.dropWhile_flatMap, List.reverse_flatMap,
    keepsBlanks_reverse_utf8.dropWhile_flatMap, bytes, List.flatMap_reverse]

theorem trim_decode_trimBytes (s : String) :
    ∃ t, decode (trimBytes (encode s)) = .ok t ∧ trim t = trim s := by
  rw [encode_eq_bytes, trimBytes_bytes, decode_bytes]
  refine ⟨_, rfl, ?_⟩
  rw [trim_ofList, trimChars_dropWhile_reverse isBlank_of_isBlankAscii,
    trimChars_dropWhile isBlank_of_isBlankAscii, ← trim_eq]

end Trimming

end RateSweep.Text
