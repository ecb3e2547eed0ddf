import PeriphMap.Proofs.Legibility
import PeriphMap.Proofs.Lines
import PeriphMap.Proofs.Lookaheads
import PeriphMap.Proofs.Tables
import PeriphMap.Table.Code

/-! The Ada text of a table, line by line: the enumeration and the array are lists with leading
separators, and a row is a list of cells between commas. -/

namespace PeriphMap.Table

open Text

variable {entry : Entry} {table : Table}

/-! ## Rows -/

/-- The enumeration value that a row is for, up to the quoted name. -/
def choice (entry : Entry) : String :=
  alignLeft entry.identifier nameWidth ++ " => ( "

def label (entry : Entry) : String :=
  "\"".intercalate [choice entry, entry.paddedName, ""]

/-- What a comma separates from the label, and from one another. -/
def fields (entry : Entry) : List String := [
  " " ++ entry.address,
  " " ++ entry.size,
  " " ++ entry.subregions,
  " ( " ++ entry.interrupts[0],
  " " ++ entry.interrupts[1],
  " " ++ entry.interrupts[2],
  " " ++ entry.interrupts[3] ++ " )",
  " " ++ (if entry.readOnly then "True" else "False") ++ ")"]

/-- A row without the end of its line. -/
def rowLine (entry : Entry) : String :=
  ",".intercalate (label entry :: fields entry)

theorem toList_slots (slotTexts : Vector String Interrupt.slotCount) :
    slotTexts.toList = [slotTexts[0], slotTexts[1], slotTexts[2], slotTexts[3]] := by
  obtain ⟨⟨texts⟩, hsize⟩ := slotTexts
  match texts, hsize with
  | [_, _, _, _], _ => rfl

theorem row_eq (entry : Entry) : row entry = rowLine entry ++ "\n" := by
  rw [← String.toList_inj]
  simp only [row, rowLine, fields, label, choice, toList_slots, String.toList_append,
    String.toList_intercalate, List.map_cons, List.map_nil, List.intercalate_cons_cons,
    List.intercalate_singleton, List.append_assoc]
  rfl

theorem isAtom_of_mem_fields (h : entry.Legible) : ∀ field ∈ fields entry, IsAtom field := by
  have hspace : IsAtom " " := by decide
  have hopen : IsAtom " ( " := by decide
  have hclose : IsAtom " )" := by decide
  have hend : IsAtom ")" := by decide
  have hflag : IsAtom (if entry.readOnly then "True" else "False") := by
    split <;> decide
  have hslots := h.interrupts
  rw [toList_slots] at hslots
  simp only [List.forall_mem_cons, List.not_mem_nil, false_implies, implies_true,
    and_true] at hslots
  obtain ⟨hfirst, hsecond, hthird, hfourth⟩ := hslots
  simp only [fields, List.forall_mem_cons, List.not_mem_nil, false_implies, implies_true, and_true]
  exact ⟨hspace.append h.address, hspace.append h.size, hspace.append h.subregions,
    hopen.append hfirst, hspace.append hsecond, hspace.append hthird,
    (hspace.append hfourth).append hclose, (hspace.append hflag).append hend⟩

theorem isAtom_of_mem_label (h : entry.Legible) :
    ∀ piece ∈ [choice entry, entry.paddedName, ""], IsAtom piece := by
  have hchoice : IsAtom (choice entry) := by
    constructor <;> simp [choice, h.identifier.comma, h.identifier.quote, h.identifier.lineEnd]
  have hempty : IsAtom "" := by decide
  simp only [List.forall_mem_cons, List.not_mem_nil, false_implies, implies_true, and_true]
  exact ⟨hchoice, h.paddedName, hempty⟩

theorem comma_not_mem_cells (h : entry.Legible) :
    ∀ cell ∈ label entry :: fields entry, ',' ∉ cell.toList := by
  intro cell hcell
  rcases List.mem_cons.mp hcell with rfl | hcell
  · exact not_mem_intercalate (by decide) fun piece hpiece =>
      (isAtom_of_mem_label h piece hpiece).comma
  · exact (isAtom_of_mem_fields h cell hcell).comma

theorem lineEnd_not_mem_rowLine (h : entry.Legible) : '\n' ∉ (rowLine entry).toList := by
  refine not_mem_intercalate (by decide) fun cell hcell => ?_
  rcases List.mem_cons.mp hcell with rfl | hcell
  · exact not_mem_intercalate (by decide) fun piece hpiece =>
      (isAtom_of_mem_label h piece hpiece).lineEnd
  · exact (isAtom_of_mem_fields h cell hcell).lineEnd

/-- The only quotes of a row are those around the name. -/
theorem count_quote_rowLine (h : entry.Legible) : (rowLine entry).toList.count '"' = 2 := by
  have hlabel : (label entry).toList.count '"' = 2 := by
    have hpieces := isAtom_of_mem_label h
    simp only [List.forall_mem_cons] at hpieces
    obtain ⟨hchoice, hname, -⟩ := hpieces
    simp [label, List.count_eq_zero_of_not_mem hchoice.quote,
      List.count_eq_zero_of_not_mem hname.quote]
  have hfields : ((fields entry).map (·.toList.count '"')).sum = 0 :=
    sum_count_eq_zero fun field hfield => (isAtom_of_mem_fields h field hfield).quote
  rw [rowLine, count_intercalate (by decide), List.map_cons, List.sum_cons, hlabel, hfields]

/-! ## Lines -/

/-- The lines between the values of the enumeration and the rows of the array. -/
def middleLines : List String := [
  "   );",
  "",
  "",
  "   periphs : constant array (t_periph_id range t_periph_id'succ (t_periph_id'first) .. " ++
    "t_periph_id'last) of t_periph_info := ("]

def valueLines (table : Table) : List String :=
  itemize "      " "     ," (Identifier.noPeripheral :: table.identifiers)

def rowLines (table : Table) : List String :=
  itemize "    " separator (table.entries.map rowLine)

def codeLines (table : Table) : List String :=
  "   type t_periph_id is (" :: (valueLines table ++ middleLines ++ rowLines table)

/-- A separator is drawn behind every row but the last one, which puts it between any two rows. -/
theorem join_separatedRow (entries : List Entry) :
    String.join ((Lookahead.marked entries).map fun (entry, more) => separatedRow entry more) =
      separator.intercalate (entries.map row) := by
  induction entries with
  | nil => rfl
  | cons entry entries ih =>
    rw [Lookahead.marked, List.map_cons, String.join_cons, ih]
    cases entries with
    | nil => simp [separatedRow]
    | cons next entries => simp [separatedRow]

theorem unlines_rowLines (table : Table) : unlines (rowLines table) =
    (if table.entries.isEmpty then "" else "    ") ++
      separator.intercalate (table.entries.map row) := by
  have hlines : (table.entries.map rowLine).map (· ++ "\n") = table.entries.map row := by
    rw [List.map_map]
    exact List.map_congr_left fun entry _ => (row_eq entry).symm
  rw [rowLines, unlines_itemize, hlines, List.isEmpty_map]

theorem arrayCode_eq (table : Table) :
    arrayCode table = opening ++ unlines (rowLines table) := by
  simp only [arrayCode, Lookahead.rest_fst, Lookahead.toList_ofList, Lookahead.isEmpty_marked,
    join_separatedRow, unlines_rowLines, String.append_assoc]

theorem unlines_middleLines : unlines middleLines = "   );\n\n\n" ++ opening := by
  decide +kernel

theorem enumerationCode_eq (table : Table) : enumerationCode table ++ opening =
    unlines ("   type t_periph_id is (" :: (valueLines table ++ middleLines)) := by
  have hvalues : String.join
      (table.identifiers.map fun identifier => "     ," ++ identifier ++ "\n") =
        unlines (table.identifiers.map ("     ," ++ ·)) := by
    rw [unlines, List.map_map]
    rfl
  have hstart : "   type t_periph_id is (\n      " =
      "   type t_periph_id is (" ++ "\n" ++ "      " := rfl
  unfold enumerationCode
  rw [hvalues, hstart]
  simp only [unlines_cons, unlines_append, unlines_middleLines, valueLines, itemize,
    String.append_assoc]

/-- The text of a table consists of these lines. -/
theorem code_eq_unlines (table : Table) : table.code .ada = unlines (codeLines table) := by
  rw [codeLines, ← List.cons_append, unlines_append, ← enumerationCode_eq, code, arrayCode_eq,
    String.append_assoc]

/-! ## Occurrences -/

theorem mem_valueLines {line : String} (h : ∀ entry ∈ table.entries, entry.Legible)
    (hline : line ∈ valueLines table) :
    ∃ value, IsAtom value ∧ (line = "      " ++ value ∨ line = "     ," ++ value) := by
  obtain ⟨value, hvalue, hform⟩ := mem_itemize hline
  refine ⟨value, ?_, hform⟩
  rcases List.mem_cons.mp hvalue with rfl | hvalue
  · decide
  · obtain ⟨entry, hentry, rfl⟩ := List.mem_map.mp hvalue
    exact (h entry hentry).identifier

theorem mem_rowLines {line : String} (h : ∀ entry ∈ table.entries, entry.Legible)
    (hline : line ∈ rowLines table) :
    ∃ entry : Entry, entry.Legible ∧
      (line = "    " ++ rowLine entry ∨ line = separator ++ rowLine entry) := by
  obtain ⟨row, hrow, hform⟩ := mem_itemize hline
  obtain ⟨entry, hentry, rfl⟩ := List.mem_map.mp hrow
  exact ⟨entry, h entry hentry, hform⟩

theorem isAtom_of_mem_middleLines : ∀ line ∈ middleLines, IsAtom line := by
  decide +kernel

theorem isAtom_start : IsAtom "   type t_periph_id is (" := by
  decide +kernel

theorem lineEnd_not_mem_codeLines (h : ∀ entry ∈ table.entries, entry.Legible) :
    ∀ line ∈ codeLines table, '\n' ∉ line.toList := by
  intro line hline
  rw [codeLines, List.mem_cons, List.mem_append, List.mem_append] at hline
  obtain rfl | (hline | hline) | hline := hline
  · exact isAtom_start.lineEnd
  · obtain ⟨value, hvalue, rfl | rfl⟩ := mem_valueLines h hline <;> simp [hvalue.lineEnd]
  · exact (isAtom_of_mem_middleLines line hline).lineEnd
  · obtain ⟨entry, hentry, rfl | rfl⟩ := mem_rowLines h hline <;>
      simp [separator, lineEnd_not_mem_rowLine hentry]

/-- Every line is ended, and there is one for each value and each row. -/
theorem count_lineEnd_code (h : ∀ entry ∈ table.entries, entry.Legible) :
    (table.code .ada).toList.count '\n' = 2 * table.entries.length + 6 := by
  have hlines : ((codeLines table).map (·.toList.count '\n')).sum = 0 :=
    sum_count_eq_zero (lineEnd_not_mem_codeLines h)
  rw [code_eq_unlines, count_unlines, hlines, if_pos rfl]
  simp only [codeLines, valueLines, rowLines, middleLines, identifiers, List.length_cons,
    List.length_append, length_itemize, List.length_map, List.length_nil]
  omega

/-- There are quotes around the names, and nowhere else. -/
theorem count_quote_code (h : ∀ entry ∈ table.entries, entry.Legible) :
    (table.code .ada).toList.count '"' = 2 * table.entries.length := by
  have hvalues : ((valueLines table).map (·.toList.count '"')).sum = 0 := by
    apply sum_count_eq_zero
    intro line hline
    obtain ⟨value, hvalue, rfl | rfl⟩ := mem_valueLines h hline <;> simp [hvalue.quote]
  have hrows : ((rowLines table).map (·.toList.count '"')).sum = table.entries.length * 2 := by
    have hrow : ∀ n ∈ (rowLines table).map (·.toList.count '"'), n = 2 := by
      intro n hn
      obtain ⟨line, hline, rfl⟩ := List.mem_map.mp hn
      obtain ⟨entry, hentry, rfl | rfl⟩ := mem_rowLines h hline <;>
        simp [separator, count_quote_rowLine hentry]
    rw [List.sum_eq_card_nsmul _ 2 hrow, List.length_map, rowLines, length_itemize,
      List.length_map, smul_eq_mul]
  have hmiddle : (middleLines.map (·.toList.count '"')).sum = 0 :=
    sum_count_eq_zero fun line hline => (isAtom_of_mem_middleLines line hline).quote
  have hstart := List.count_eq_zero_of_not_mem isAtom_start.quote
  rw [code_eq_unlines, count_unlines, if_neg (by decide), codeLines, List.map_cons, List.sum_cons,
    List.map_append, List.sum_append, List.map_append, List.sum_append, hvalues, hrows, hmiddle,
    hstart]
  omega

theorem legible_of_ofDevices {config : Config} {devices : List Device}
    (h : (ofDevices config devices).result = .ok table) :
    ∀ entry ∈ table.entries, entry.Legible :=
  fun _ hentry => (wellFormed_of_mem_entries h hentry).legible

/-- What holds of the table of any device list: of each entry, of the entries among themselves, and
of the text. -/
theorem ofDevices_invariant {config : Config} {devices : List Device}
    (h : (ofDevices config devices).result = .ok table) :
    (∀ entry ∈ table.entries, entry.WellFormed config) ∧
      (table.identifiers.map Identifier.lowercase).Nodup ∧
      (table.code .ada).toList.count '"' = 2 * table.entries.length ∧
      (table.code .ada).toList.count '\n' = 2 * table.entries.length + 6 := by
  have hentries : ∀ entry ∈ table.entries, entry.WellFormed config :=
    fun entry => wellFormed_of_mem_entries h
  have hlegible := legible_of_ofDevices h
  refine ⟨hentries, ?_, count_quote_code hlegible, count_lineEnd_code hlegible⟩
  apply Identifier.nodup_map_lowercase
  · exact fun word hword => (valid_of_mem_identifiers h hword).wellFormed.isLower_of_mem
  · exact (ofDevices_eq_ok_iff.mp h).2

theorem ofDevices_invariant_serialPorts :
    (ofDevices { strictNames := true } (Device.serialPorts ["usart-1", "uart4"])).result =
        .ok ⟨[.serialPort "USART_1", .serialPort "UART4"]⟩ ∧
      (code ⟨[.serialPort "USART_1", .serialPort "UART4"]⟩ .ada).toList.count '"' = 4 ∧
      (code ⟨[.serialPort "USART_1", .serialPort "UART4"]⟩ .ada).toList.count '\n' = 10 := by
  have hok : (ofDevices { strictNames := true }
      (Device.serialPorts ["usart-1", "uart4"])).result =
        .ok ⟨[.serialPort "USART_1", .serialPort "UART4"]⟩ := rfl
  obtain ⟨-, -, hquotes, hlines⟩ := ofDevices_invariant hok
  exact ⟨hok, hquotes, hlines⟩

end PeriphMap.Table
