import RateSweep.Proofs.WrittenRecords
import RateSweep.Table.RateTable

namespace RateSweep.RateTable

theorem ne_nil_of_mem_records (t : RateTable) : ∀ r ∈ t.header :: t.rows.map rowText, r ≠ [] := by
  intro r hr
  rcases List.mem_cons.1 hr with rfl | hr
  · simp [header]
  · obtain ⟨row, -, rfl⟩ := List.mem_map.1 hr
    simp [rowText]

theorem fields_records_csv {t : RateTable} (hmark : t.keyLabel.toList.head? ≠ some '\uFEFF') :
    (Csv.records (Text.encode t.csv)).map Csv.Record.fields =
      (t.header :: t.rows.map rowText).map (·.map Text.encode) := by
  obtain ⟨hheader, hrows⟩ := List.forall_mem_cons.1 t.ne_nil_of_mem_records
  refine Csv.fields_records_write hheader hrows fun f hf => ?_
  obtain rfl : t.keyLabel = f := Option.some.inj hf
  exact hmark

theorem csv_inj {t t' : RateTable} (h : t.csv = t'.csv) :
    t.header = t'.header ∧ t.rows.map rowText = t'.rows.map rowText :=
  List.cons.inj (Csv.write_inj t.ne_nil_of_mem_records t'.ne_nil_of_mem_records h)

theorem csv_lossless (t : RateTable) (hmark : t.keyLabel.toList.head? ≠ some '\uFEFF') :
    (Csv.records (Text.encode t.csv)).map (fun r => r.fields.map Text.decode) =
        (t.header :: t.rows.map fun row => row.key :: row.values.map Number.writeFloat).map
          (·.map .ok) ∧
      ∀ t' : RateTable, t'.csv = t.csv → t'.header = t.header ∧
        t'.rows.map TableRow.key = t.rows.map TableRow.key ∧
        t'.rows.map (fun row => row.values.map Number.writeFloat) =
          t.rows.map fun row => row.values.map Number.writeFloat := by
  constructor
  · have hdecode : Text.decode ∘ Text.encode = .ok := funext Text.decode_encode
    have hfields : (Csv.records (Text.encode t.csv)).map (fun r => r.fields.map Text.decode) =
        ((Csv.records (Text.encode t.csv)).map Csv.Record.fields).map (·.map Text.decode) := by
      rw [List.map_map]
      rfl
    rw [hfields, fields_records_csv hmark, List.map_map]
    refine List.map_congr_left fun r _ => ?_
    rw [Function.comp_apply, List.map_map, hdecode]
  · intro t' h
    obtain ⟨hheader, hrows⟩ := csv_inj h
    refine ⟨hheader, ?_, ?_⟩
    · simpa [rowText, Function.comp_def] using congrArg (List.map fun r => r.headD "") hrows
    · simpa [rowText, Function.comp_def] using congrArg (List.map List.tail) hrows

def quoted : RateTable where
  title := "Requests per Second"
  name := "quoted"
  keyLabel := "Algorithm, \"fixed\""
  rates := [10]
  rows := [⟨"", []⟩, ⟨"\n", [48.25, -0.0]⟩]

theorem csv_lossless_quoted : quoted.keyLabel.toList.head? ≠ some '\uFEFF' ∧
    (Csv.records (Text.encode quoted.csv)).map (fun r => r.fields.map Text.decode) =
        [[.ok "Algorithm, \"fixed\"", .ok "10(req/sec)"], [.ok ""],
          [.ok "\n", .ok "48.25", .ok "-0"]] ∧
      ∀ t' : RateTable, t'.csv = quoted.csv → t'.header = quoted.header := by
  have hmark : quoted.keyLabel.toList.head? ≠ some '\uFEFF' := by decide
  have hprinted : (quoted.header :: quoted.rows.map fun row =>
      row.key :: row.values.map Number.writeFloat) =
        [["Algorithm, \"fixed\"", "10(req/sec)"], [""], ["\n", "48.25", "-0"]] := by
    decide +kernel
  obtain ⟨hread, hsame⟩ := csv_lossless quoted hmark
  refine ⟨hmark, ?_, fun t' h => (hsame t' h).1⟩
  rw [hread, hprinted]
  rfl

end RateSweep.RateTable
