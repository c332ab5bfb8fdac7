import RateSweep.Proofs.FirstRow
import RateSweep.Steps

namespace RateSweep

namespace Csv

theorem length_scan (mode : Mode) (bs : List UInt8) :
    (scan mode bs).field.length + (scan mode bs).rest.length +
      (if (scan mode bs).ending = .input then 0 else 1) ≤ bs.length := by
  induction bs generalizing mode with
  | nil => simp [scan]
  | cons b bs ih =>
    rw [scan]
    split
    · next next _ =>
      have hrest := ih next
      simp only [List.length_cons]
      omega
    · next next _ =>
      have hrest := ih next
      simp only [List.length_cons]
      omega
    · simp only [List.length_nil, List.length_cons]
      split <;> omega

def lineLength (fields : List Field) : Nat := (fields.map fun f => f.length + 1).sum

theorem lineLength_nil : lineLength [] = 0 := rfl

theorem lineLength_cons (f : Field) (fields : List Field) :
    lineLength (f :: fields) = f.length + 1 + lineLength fields := by
  rw [lineLength, List.map_cons, List.sum_cons]
  rfl

theorem lineLength_scanRecord_le (bs : List UInt8) :
    lineLength (scanRecord bs).fields + (scanRecord bs).rest.length ≤ bs.length + 1 := by
  fun_induction scanRecord bs with
  | case1 bs field extent rest h hlt r ih =>
    have hfield := length_scan .start bs
    simp only [h, reduceCtorEq, if_false] at hfield
    change lineLength (field :: (scanRecord rest).fields) + (scanRecord rest).rest.length ≤ _
    rw [lineLength_cons]
    omega
  | case2 bs field ending extent rest hd h =>
    have hfield := length_scan .start bs
    simp only [h] at hfield
    dsimp only
    rw [lineLength_cons, lineLength_nil]
    omega

theorem lineLength_le_of_mem_recordsFrom {start : Position} {bs : List UInt8} {r : Record}
    (h : r ∈ recordsFrom start bs) : lineLength r.fields ≤ bs.length + 1 := by
  fun_induction recordsFrom start bs with
  | case1 => cases h
  | case2 start bs blank bs' hne scan reached ih =>
    have hdrop : bs'.length ≤ bs.length := (List.dropWhile_sublist isTerminator).length_le
    have hscan := lineLength_scanRecord_le bs'
    rcases List.mem_cons.1 h with rfl | h
    · dsimp only [scan]
      omega
    · have hrest := ih h
      have hlt := length_rest_scanRecord hne
      dsimp only [scan] at hrest
      omega

theorem lineLength_le_of_mem_records {bs : List UInt8} {r : Record} (h : r ∈ records bs) :
    lineLength r.fields ≤ bs.length + 1 := by
  unfold records at h
  split at h
  · have hdrop := (List.drop_sublist byteOrderMark.length bs).length_le
    dsimp only at h
    split at h
    · cases h
    · next r' rs hrs =>
      have hmem : ∀ s ∈ r' :: rs, lineLength s.fields ≤ bs.length + 1 := by
        rw [← hrs]
        exact fun s hs => (lineLength_le_of_mem_recordsFrom hs).trans (by omega)
      rcases List.mem_cons.1 h with rfl | h
      · exact hmem r' List.mem_cons_self
      · exact hmem r (List.mem_cons_of_mem r' h)
  · exact lineLength_le_of_mem_recordsFrom h

end Csv

namespace Text

theorem length_le_of_decode {bs : List UInt8} {s : String} (h : decode bs = .ok s) :
    s.length ≤ bs.length := by
  obtain rfl := decode_eq_ok_iff.1 h
  rw [encode_eq_flatMap, List.length_flatMap, ← String.length_toList, ← List.length_map (f := fun c =>
    (String.utf8EncodeChar c).length)]
  apply List.length_le_sum_of_one_le
  simpa using fun c _ => Nat.one_le_of_lt c.utf8Size_pos

theorem length_trim_le (s : String) : (trim s).length ≤ s.length := by
  rw [trim, String.length_ofList, trimEnd, List.length_reverse, ← s.length_toList]
  calc _ ≤ (trimStart s.toList).reverse.length := (List.dropWhile_sublist _).length_le
    _ = (trimStart s.toList).length := List.length_reverse
    _ ≤ s.toList.length := (List.dropWhile_sublist _).length_le

theorem length_trimBytes_le (bs : List UInt8) : (trimBytes bs).length ≤ bs.length := by
  rw [trimBytes, List.length_reverse]
  calc _ ≤ (bs.dropWhile isBlankByte).reverse.length := (List.dropWhile_sublist _).length_le
    _ = (bs.dropWhile isBlankByte).length := List.length_reverse
    _ ≤ bs.length := (List.dropWhile_sublist _).length_le

theorem length_intercalate_le (sep : String) (hsep : sep.length = 1) (ss : List String) :
    (sep.intercalate ss).length ≤ (ss.map fun s => s.length + 1).sum - 1 := by
  rw [← String.length_toList, String.toList_intercalate]
  induction ss with
  | nil => simp
  | cons s ss ih =>
    cases ss with
    | nil => simp [String.length_toList]
    | cons t ss =>
      rw [List.map_cons, List.map_cons, List.intercalate_cons_cons, List.length_append,
        List.length_append, ← List.map_cons]
      simp only [String.length_toList, hsep, List.map_cons, List.sum_cons] at ih ⊢
      omega

end Text

namespace Log

theorem length_le_of_decodeFields {position : Csv.Position} {index : Nat} {fs : List Csv.Field}
    {texts : List String} (h : decodeFields position index fs = .ok texts) :
    (texts.map fun s => s.length + 1).sum ≤ Csv.lineLength fs := by
  induction fs generalizing index texts with
  | nil =>
    obtain rfl := Except.ok.inj h
    simp
  | cons f fs ih =>
    rw [decodeFields] at h
    cases hf : Text.decode f with
    | error n =>
      rw [hf] at h
      cases h
    | ok s =>
      rw [hf] at h
      obtain ⟨rest, hrest, rfl⟩ := exists_of_map_eq_ok h
      have hlength := Text.length_le_of_decode hf
      have hmore := ih hrest
      rw [List.map_cons, List.sum_cons, Csv.lineLength_cons]
      omega

theorem length_le_of_rowAt {position : Csv.Position} {r : Csv.Record} {row : Row}
    (h : rowAt position r = .ok row) :
    (row.fields.map fun s => s.length + 1).sum ≤ Csv.lineLength r.fields := by
  obtain ⟨texts, htexts, rfl⟩ := exists_of_map_eq_ok h
  calc ((texts.map Text.trim).map fun s => s.length + 1).sum
      ≤ (texts.map fun s => s.length + 1).sum := by
        rw [List.map_map]
        exact List.sum_le_sum fun s _ => Nat.add_le_add_right (Text.length_trim_le s) 1
    _ ≤ Csv.lineLength (r.fields.map Text.trimBytes) := length_le_of_decodeFields htexts
    _ ≤ Csv.lineLength r.fields := by
        rw [Csv.lineLength, List.map_map]
        exact List.sum_le_sum fun f _ => Nat.add_le_add_right (Text.length_trimBytes_le f) 1

theorem length_rest_le {use : HeaderUse} {body : List UInt8} {row : Row} (h : .ok row ∈ rows use body)
    (index : Nat) : (row.rest index).length ≤ body.length := by
  obtain ⟨position, r, hr, hrow⟩ := exists_rowAt_of_mem_rows h
  have hline := Csv.lineLength_le_of_mem_records hr
  have htexts := length_le_of_rowAt hrow
  have hdrop : ((row.fields.drop index).map fun s => s.length + 1).sum ≤
      (row.fields.map fun s => s.length + 1).sum :=
    ((List.drop_sublist index row.fields).map _).sum_le_sum fun _ _ => Nat.zero_le _
  have hrest : (row.rest index).length ≤ _ :=
    Text.length_intercalate_le "," rfl (row.fields.drop index)
  omega

end Log

end RateSweep
