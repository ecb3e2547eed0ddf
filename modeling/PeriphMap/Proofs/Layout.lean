import PeriphMap.Proofs.Code

/-! The Ada text of a table as a whole, whatever the fields of its entries are. Rows are drawn one
by one, each with a look at the next, and what comes of it is a list with separators between
them. -/

namespace PeriphMap.Table

open Text

variable {xs ys : List Entry}

/-- The identifier is filled up with spaces, and a longer one stays as it is. -/
def plainRow (entry : Entry) : String :=
  entry.identifier ++ String.ofList (List.replicate (nameWidth - entry.identifier.length) ' ') ++
    " => ( " ++ ", ".intercalate [
      "\"" ++ entry.paddedName ++ "\"",
      entry.address,
      entry.size,
      entry.subregions,
      "( " ++ ", ".intercalate entry.interrupts.toList ++ " )",
      if entry.readOnly then "True" else "False"] ++ ")\n"

/-- The rows of some entries, with what stands between them. -/
def plainRows (entries : List Entry) : String :=
  "   ,".intercalate (entries.map plainRow)

/-- The enumeration, the line that opens the array, and the rows. -/
def plainCode (entries : List Entry) : String :=
  unlines (["   type t_periph_id is (", "      NO_PERIPH"] ++
    entries.map (fun entry => "     ," ++ entry.identifier) ++ [
      "   );",
      "",
      "",
      "   periphs : constant array (t_periph_id range t_periph_id'succ (t_periph_id'first) .. " ++
        "t_periph_id'last) of t_periph_info := ("]) ++
    if entries = [] then "" else "    " ++ plainRows entries

theorem row_eq_plainRow (entry : Entry) : row entry = plainRow entry := by
  rw [← String.toList_inj]
  simp only [row, plainRow, String.toList_append, String.toList_intercalate, String.toList_ofList,
    toList_alignLeft, List.map_cons, List.map_nil, List.intercalate_cons_cons,
    List.intercalate_singleton, List.append_assoc]
  rfl

theorem unlines_rowLines_eq_plainRows (table : Table) : unlines (rowLines table) =
    if table.entries = [] then "" else "    " ++ plainRows table.entries := by
  rw [unlines_rowLines, List.map_congr_left fun entry _ => row_eq_plainRow entry]
  cases table.entries with
  | nil => rfl
  | cons entry entries => rfl

theorem code_eq_plainCode (table : Table) : table.code .ada = plainCode table.entries := by
  have hstart : "   type t_periph_id is (" :: (valueLines table ++ middleLines) =
      ["   type t_periph_id is (", "      NO_PERIPH"] ++
        table.entries.map (fun entry => "     ," ++ entry.identifier) ++ middleLines := by
    rw [valueLines, itemize, identifiers, List.map_map]
    rfl
  rw [code_eq_unlines, codeLines, ← List.cons_append, unlines_append, hstart,
    unlines_rowLines_eq_plainRows]
  rfl

theorem arrayCode_of_ne_nil {table : Table} (h : table.entries ≠ []) :
    arrayCode table = opening ++ "    " ++ plainRows table.entries := by
  rw [arrayCode_eq, unlines_rowLines_eq_plainRows, if_neg h, String.append_assoc]

theorem plainRows_append (hxs : xs ≠ []) (hys : ys ≠ []) :
    plainRows (xs ++ ys) = plainRows xs ++ "   ," ++ plainRows ys := by
  rw [plainRows, List.map_append, String.intercalate_append_of_ne_nil]
  · rfl
  · exact fun hnil => hxs (List.map_eq_nil_iff.mp hnil)
  · exact fun hnil => hys (List.map_eq_nil_iff.mp hnil)

/-- The text of every table, and what comes of the rows when two tables are put together. -/
theorem code_plain_and_rows_append :
    (∀ table : Table, table.code .ada = plainCode table.entries) ∧
    (∀ table table' : Table, table.entries ≠ [] → table'.entries ≠ [] →
      ∃ rows rows', arrayCode table = opening ++ "    " ++ rows ∧
        arrayCode table' = opening ++ "    " ++ rows' ∧
        arrayCode ⟨table.entries ++ table'.entries⟩ =
          opening ++ "    " ++ (rows ++ "   ," ++ rows')) := by
  refine ⟨code_eq_plainCode, fun table table' htable htable' => ?_⟩
  refine ⟨plainRows table.entries, plainRows table'.entries, arrayCode_of_ne_nil htable,
    arrayCode_of_ne_nil htable', ?_⟩
  rw [← plainRows_append htable htable']
  exact arrayCode_of_ne_nil (List.append_ne_nil_of_left_ne_nil htable _)

/-- A name that is narrower than its column, and one that is wider. -/
theorem code_plain_and_rows_append_serialPorts :
    code ⟨[.serialPort "UART4", .serialPort "CRYP_PROCESSOR_DMA"]⟩ .ada = unlines [
      "   type t_periph_id is (",
      "      NO_PERIPH",
      "     ,UART4",
      "     ,CRYP_PROCESSOR_DMA",
      "   );",
      "",
      "",
      "   periphs : constant array (t_periph_id range t_periph_id'succ (t_periph_id'first) .. " ++
        "t_periph_id'last) of t_periph_info := (",
      "    UART4            => ( \"UART4           \", 16#4001_1000#, 16#0400#, 2#1100_0000#, " ++
        "( t_interrupt'val(53), t_interrupt'val(7), INT_NONE, INT_NONE ), False)",
      "   ,CRYP_PROCESSOR_DMA => ( \"CRYP_PROCESSOR_D\", 16#4001_1000#, 16#0400#, " ++
        "2#1100_0000#, ( t_interrupt'val(53), t_interrupt'val(7), INT_NONE, INT_NONE ), False)"] ∧
    ∃ rows rows', arrayCode ⟨[.serialPort "UART4"]⟩ = opening ++ "    " ++ rows ∧
      arrayCode ⟨[.serialPort "CRYP_PROCESSOR_DMA"]⟩ = opening ++ "    " ++ rows' ∧
      arrayCode ⟨[.serialPort "UART4", .serialPort "CRYP_PROCESSOR_DMA"]⟩ =
        opening ++ "    " ++ (rows ++ "   ," ++ rows') := by
  obtain ⟨hplain, happend⟩ := code_plain_and_rows_append
  refine ⟨(hplain _).trans (by decide +kernel), ?_⟩
  exact happend ⟨[.serialPort "UART4"]⟩ ⟨[.serialPort "CRYP_PROCESSOR_DMA"]⟩
    (List.cons_ne_nil _ _) (List.cons_ne_nil _ _)

end PeriphMap.Table
