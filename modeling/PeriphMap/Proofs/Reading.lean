import PeriphMap.Document
import PeriphMap.Proofs.Code

/-! Reading the generated part of a document. The reader knows the fixed text and the marks between
the parts, and finds the entries of the table as they were, character for character. -/

namespace PeriphMap

open Text

/-- What the generated part of a document lists. -/
structure Listing where
  values : List String
  entries : List Entry

namespace Listing

/-! ## The reader -/

def flag? (text : String) : Option Bool :=
  if text = "True" then some true else if text = "False" then some false else none

/-- The enumeration value of a row, without the blanks that align it, and the quoted name. -/
def label? (text : String) : Option (String × String) :=
  match split '"' text with
  | [choice, name, _] => do
    let aligned ← between? "" " => ( " choice
    return (String.ofList (aligned.toList.takeWhile (· ≠ ' ')), name)
  | _ => none

def entryOf? (row : String) : Option Entry :=
  match split ',' row with
  | [label, address, size, subregions, first, second, third, fourth, flag] => do
    let (identifier, paddedName) ← label? label
    let address ← between? " " "" address
    let size ← between? " " "" size
    let subregions ← between? " " "" subregions
    let first ← between? " ( " "" first
    let second ← between? " " "" second
    let third ← between? " " "" third
    let fourth ← between? " " " )" fourth
    let readOnly ← (between? " " ")" flag).bind flag?
    let interrupts := #v[first, second, third, fourth]
    return { identifier, paddedName, address, size, subregions, interrupts, readOnly }
  | _ => none

/-- The lines of the enumeration values and those of the rows. -/
def parts? (lines : List String) : Option (List String × List String) := do
  let lines ← lines.dropPrefix? ["   type t_periph_id is ("]
  let rows ← (lines.dropWhile (· ≠ "   );")).dropPrefix? Table.middleLines
  return (lines.takeWhile (· ≠ "   );"), rows)

def ofCode? (code : String) : Option Listing := do
  let (values, rows) ← parts? (toLines code)
  let values ← items? "      " "     ," values
  let rows ← items? "    " Table.separator rows
  let entries ← rows.mapM entryOf?
  return { values, entries }

/-- The entries alone, which make up the table. -/
def entries? (code : String) : Option (List Entry) :=
  (ofCode? code).map (·.entries)

/-- A document without its header and its footer. -/
def body? (document : String) : Option String :=
  between? (adaHeader ++ "\n") (adaFooter ++ "\n") document

/-! ## Rows -/

variable {entry : Entry} {table : Table}

theorem label?_label (h : entry.Legible) :
    label? (Table.label entry) = some (entry.identifier, entry.paddedName) := by
  have hsplit : split '"' (Table.label entry) = [Table.choice entry, entry.paddedName, ""] :=
    split_intercalate rfl (List.cons_ne_nil _ _) fun piece hpiece =>
      (Table.isAtom_of_mem_label h piece hpiece).quote
  have hchoice : between? "" " => ( " (Table.choice entry) =
      some (alignLeft entry.identifier nameWidth) :=
    between?_eq_some_iff.mpr (by rw [String.empty_append, Table.choice])
  have hidentifier : (alignLeft entry.identifier nameWidth).toList.takeWhile (· ≠ ' ') =
      entry.identifier.toList := by
    rw [toList_alignLeft, List.takeWhile_append_of_pos, List.takeWhile_replicate]
    · simp
    · intro c hc
      refine decide_eq_true fun heq => h.unspaced ?_
      exact heq ▸ hc
  simp only [label?, hsplit, hchoice, Option.bind_eq_bind, Option.bind_some, Option.pure_def,
    hidentifier, String.ofList_toList]

theorem flag?_eq (readOnly : Bool) :
    flag? (if readOnly then "True" else "False") = some readOnly := by
  cases readOnly <;> rfl

theorem entryOf?_rowLine (h : entry.Legible) : entryOf? (Table.rowLine entry) = some entry := by
  have hsplit : split ',' (Table.rowLine entry) = Table.label entry :: Table.fields entry :=
    split_intercalate rfl (List.cons_ne_nil _ _) (Table.comma_not_mem_cells h)
  have hslots : #v[entry.interrupts[0], entry.interrupts[1], entry.interrupts[2],
      entry.interrupts[3]] = entry.interrupts :=
    Vector.toList_inj.mp (Table.toList_slots entry.interrupts).symm
  simp only [entryOf?, hsplit, Table.fields, label?_label h, between?_append, between?_prefix,
    flag?_eq, Option.bind_eq_bind, Option.bind_some, Option.pure_def, hslots]

/-! ## Lines -/

/-- The line that ends the enumeration is none of its values. -/
theorem ne_end_of_mem_valueLines {line : String} (h : line ∈ Table.valueLines table) :
    line ≠ "   );" := by
  intro heq
  obtain ⟨value, -, rfl | rfl⟩ := mem_itemize h
  · simpa using congrArg String.toList heq
  · simpa using congrArg String.toList heq

theorem parts?_codeLines (table : Table) :
    parts? (Table.codeLines table) = some (Table.valueLines table, Table.rowLines table) := by
  have hvalues : ∀ line ∈ Table.valueLines table, decide (line ≠ "   );") = true :=
    fun line hline => decide_eq_true (ne_end_of_mem_valueLines hline)
  have htake : (Table.middleLines ++ Table.rowLines table).takeWhile (· ≠ "   );") = [] := rfl
  have hdrop : (Table.middleLines ++ Table.rowLines table).dropWhile (· ≠ "   );") =
      Table.middleLines ++ Table.rowLines table := rfl
  have hstart : (Table.codeLines table).dropPrefix? ["   type t_periph_id is ("] =
      some (Table.valueLines table ++ (Table.middleLines ++ Table.rowLines table)) := by
    rw [← List.append_assoc]
    exact List.dropPrefix?_append_of_beq _ (beq_self_eq_true ["   type t_periph_id is ("])
  have hrest : (Table.middleLines ++ Table.rowLines table).dropPrefix? Table.middleLines =
      some (Table.rowLines table) :=
    List.dropPrefix?_append_of_beq _ (beq_self_eq_true _)
  simp only [parts?, hstart, Option.bind_eq_bind, Option.bind_some, Option.pure_def,
    List.dropWhile_append_of_pos hvalues, List.takeWhile_append_of_pos hvalues, htake, hdrop, hrest,
    List.append_nil]

/-- The reader finds the values and the entries that the text was made from. -/
theorem ofCode?_code (h : ∀ entry ∈ table.entries, entry.Legible) :
    ofCode? (table.code .ada) =
      some ⟨Identifier.noPeripheral :: table.identifiers, table.entries⟩ := by
  have hlines : toLines (table.code .ada) = Table.codeLines table := by
    rw [Table.code_eq_unlines, toLines_unlines (Table.lineEnd_not_mem_codeLines h)]
  have hentries : (table.entries.map Table.rowLine).mapM entryOf? = some table.entries :=
    mapM_map_eq_some fun entry hentry => entryOf?_rowLine (h entry hentry)
  simp only [ofCode?, hlines, parts?_codeLines, Table.valueLines, Table.rowLines, items?_itemize,
    hentries, Option.bind_eq_bind, Option.bind_some, Option.pure_def]

/-! ## Documents -/

variable {config : Config} {devices : List Device}

theorem body?_ofTable (config : Config) (table : Table) :
    body? (Document.ofTable config table) = some (table.code .ada) := by
  obtain ⟨⟨⟩, strictNames⟩ := config
  apply between?_eq_some_iff.mpr
  rw [Document.ofTable]
  exact String.append_assoc

theorem entries?_code (h : (Table.ofDevices config devices).result = .ok table) :
    entries? (table.code .ada) = some table.entries := by
  rw [entries?, ofCode?_code (Table.legible_of_ofDevices h), Option.map_some]

end Listing

namespace Document

variable {config : Config} {devices : List Device} {document : String} {table : Table}

theorem ofDevices_result_eq_ok_iff : (ofDevices config devices).result = .ok document ↔
    ∃ table, (Table.ofDevices config devices).result = .ok table ∧
      ofTable config table = document := by
  simp only [ofDevices, Run.bind_result_eq_ok_iff, Run.report_result, Run.pure_result,
    Except.ok.injEq, true_and, exists_const]

theorem body?_of_ofDevices (h : (ofDevices config devices).result = .ok document)
    (htable : (Table.ofDevices config devices).result = .ok table) :
    Listing.body? document = some (table.code .ada) := by
  obtain ⟨table', htable', rfl⟩ := ofDevices_result_eq_ok_iff.mp h
  cases htable.symm.trans htable'
  exact Listing.body?_ofTable config table

/-- Nothing of a table is lost in its text, nor in the document around it. -/
theorem text_lossless :
    (∀ config devices table, (Table.ofDevices config devices).result = .ok table →
      Listing.entries? (table.code .ada) = some table.entries ∧
      ∀ document, (ofDevices config devices).result = .ok document →
        (Listing.body? document).bind Listing.entries? = some table.entries) ∧
    (∀ config config' devices devices' table table' document,
      (Table.ofDevices config devices).result = .ok table →
      (Table.ofDevices config' devices').result = .ok table' →
      (ofDevices config devices).result = .ok document →
      (ofDevices config' devices').result = .ok document → table = table') := by
  have hbody : ∀ {config devices table document},
      (Table.ofDevices config devices).result = .ok table →
      (ofDevices config devices).result = .ok document →
      (Listing.body? document).bind Listing.entries? = some table.entries := by
    intro config devices table document htable hdocument
    rw [body?_of_ofDevices hdocument htable, Option.bind_some, Listing.entries?_code htable]
  constructor
  · intro config devices table htable
    exact ⟨Listing.entries?_code htable, fun document hdocument => hbody htable hdocument⟩
  · intro config config' devices devices' table table' document htable htable' hdocument hdocument'
    have hentries := (hbody htable hdocument).symm.trans (hbody htable' hdocument')
    cases table
    cases table'
    cases hentries
    rfl

theorem text_lossless_serialPorts :
    Listing.entries? ((Table.mk [.serialPort "USART_1"]).code .ada) =
        some [.serialPort "USART_1"] ∧
      ∃ document, (ofDevices {} (Device.serialPorts ["usart-1"])).result = .ok document ∧
        (ofDevices { strictNames := true } (Device.serialPorts ["USART_1"])).result =
          .ok document ∧
        (Listing.body? document).bind Listing.entries? = some [.serialPort "USART_1"] ∧
        Table.mk [.serialPort "USART_1"] = ⟨[.serialPort "USART_1"]⟩ := by
  obtain ⟨hread, hequal⟩ := text_lossless
  have htable : (Table.ofDevices {} (Device.serialPorts ["usart-1"])).result =
      .ok ⟨[.serialPort "USART_1"]⟩ := rfl
  have htable' : (Table.ofDevices { strictNames := true } (Device.serialPorts ["USART_1"])).result =
      .ok ⟨[.serialPort "USART_1"]⟩ := rfl
  have hdocument := ofDevices_result_eq_ok_iff.mpr ⟨_, htable, rfl⟩
  have hdocument' := ofDevices_result_eq_ok_iff.mpr ⟨_, htable', rfl⟩
  obtain ⟨hcode, hbody⟩ := hread _ _ _ htable
  exact ⟨hcode, _, hdocument, hdocument', hbody _ hdocument,
    hequal _ _ _ _ _ _ _ htable htable' hdocument hdocument'⟩

end Document
end PeriphMap
