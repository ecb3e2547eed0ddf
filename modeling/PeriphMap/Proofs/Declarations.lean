import PeriphMap.Proofs.Reading

/-! The names that a document declares. An enumeration value may share its name with a function, but
neither with another value nor with a type or an object. The values of a table always differ from
each other. From the types and objects of the package they differ only if the device names do:
no check on a device name looks at these. -/

namespace PeriphMap

open Text

/-! ## Enumeration values -/

namespace Table

variable {config : Config} {devices : List Device} {table : Table}

theorem identifiers_eq_map_spelling (h : (ofDevices config devices).result = .ok table) :
    table.identifiers =
      (Device.blocks devices).map fun record => Identifier.spelling record.name := by
  rw [identifiers, ← List.forall₂_eq_eq_eq, List.forall₂_map_left_iff, List.forall₂_map_right_iff]
  refine (ofDevices_eq_ok_iff.mp h).1.flip.imp fun entry record hrecord => ?_
  have hname := (Entry.ofRecord_result_eq_ok_iff.mp hrecord).identifier
  exact (Identifier.ofName_eq_ok_iff.mp hname).1.symm

/-- The value for no peripheral included. -/
theorem nodup_lowercase_values (h : (ofDevices config devices).result = .ok table) :
    ((Identifier.noPeripheral :: table.identifiers).map Identifier.lowercase).Nodup := by
  apply Identifier.nodup_map_lowercase
  · intro word hword
    rcases List.mem_cons.mp hword with rfl | hword
    · simp [Identifier.noPeripheral]
    · exact (valid_of_mem_identifiers h hword).wellFormed.isLower_of_mem
  · refine List.nodup_cons.mpr ⟨?_, (ofDevices_eq_ok_iff.mp h).2⟩
    exact fun hmem => (valid_of_mem_identifiers h hmem).notSentinel rfl

end Table

namespace Document

variable {config : Config} {devices : List Device} {document : String} {table : Table}
  {c : Char} {cs : List Char}

/-! ## Types and objects -/

/-- The name that a line declares at the level of the package. It is that of a type, or stands
before a colon. -/
def declared? (line : List Char) : Option String := do
  let declaration ← line.dropPrefix? [' ', ' ', ' ']
  if declaration.head?.any Char.isAlpha then
    match declaration.splitOn ' ' with
    | ['t', 'y', 'p', 'e'] :: name :: _ => return String.ofList name
    | name :: [':'] :: _ => return String.ofList name
    | _ => none
  else none

/-- The types and objects that the package declares, in this order. -/
def declarations (document : String) : List String :=
  (document.toList.splitOn '\n').filterMap declared?

/-- What these are in every document. -/
def packageNames : List String :=
  ["t_interrupt_range", "t_interrupt_list", "t_periph_info", "t_periph_id", "periphs"]

/-- A line that is indented further, or starts with a separator, declares nothing. -/
theorem declared?_eq_none (hc : c.isAlpha = false) :
    declared? (' ' :: ' ' :: ' ' :: c :: cs) = none := by
  have hprefix : (' ' :: ' ' :: ' ' :: c :: cs).dropPrefix? [' ', ' ', ' '] = some (c :: cs) :=
    List.dropPrefix?_append_of_beq (c :: cs) (beq_self_eq_true [' ', ' ', ' '])
  simp only [declared?, hprefix, Option.bind_eq_bind, Option.bind_some, List.head?_cons,
    Option.any_some, hc, Bool.false_eq_true, if_false]

set_option maxRecDepth 20000 in
theorem declarations_header : (adaHeader.toList.splitOn '\n').filterMap declared? =
    ["t_interrupt_range", "t_interrupt_list", "t_periph_info"] := by
  -- The characters come from the literal itself, so that they need not be decoded one by one.
  rw [← String.ofList_eq.mp (Eq.refl adaHeader)]
  decide +kernel

set_option maxRecDepth 20000 in
theorem declarations_footer :
    ((adaFooter.toList ++ ['\n']).splitOn '\n').filterMap declared? = [] := by
  rw [← String.ofList_eq.mp (Eq.refl adaFooter)]
  decide +kernel

theorem declarations_itemize {indent separator : String}
    (hindent : ∀ cs, declared? (indent.toList ++ cs) = none)
    (hseparator : ∀ cs, declared? (separator.toList ++ cs) = none) (items : List String) :
    ((itemize indent separator items).map String.toList).filterMap declared? = [] := by
  rw [List.filterMap_map, List.filterMap_eq_nil_iff]
  intro line hline
  rw [Function.comp_apply]
  obtain ⟨item, -, rfl | rfl⟩ := mem_itemize hline
  · rw [String.toList_append, hindent]
  · rw [String.toList_append, hseparator]

/-- The generated part declares the enumeration and the array. None of the values and rows is taken
for a declaration. -/
theorem declarations_codeLines (table : Table) :
    ((Table.codeLines table).map String.toList).filterMap declared? =
      ["t_periph_id", "periphs"] := by
  have hstart : declared? "   type t_periph_id is (".toList = some "t_periph_id" := by
    decide +kernel
  have hmiddle : (Table.middleLines.map String.toList).filterMap declared? = ["periphs"] := by
    decide +kernel
  have hvalues : ((Table.valueLines table).map String.toList).filterMap declared? = [] := by
    apply declarations_itemize
    · exact fun cs => declared?_eq_none rfl
    · exact fun cs => declared?_eq_none rfl
  have hrows : ((Table.rowLines table).map String.toList).filterMap declared? = [] := by
    apply declarations_itemize
    · exact fun cs => declared?_eq_none rfl
    · exact fun cs => declared?_eq_none rfl
  rw [Table.codeLines, List.map_cons, List.filterMap_cons_some hstart, List.map_append,
    List.map_append, List.filterMap_append, List.filterMap_append, hvalues, hmiddle, hrows]
  rfl

theorem declarations_ofTable (h : ∀ entry ∈ table.entries, entry.Legible) :
    declarations (ofTable config table) = packageNames := by
  have htext : (ofTable config table).toList = adaHeader.toList ++
      '\n' :: ((unlines (Table.codeLines table)).toList ++ (adaFooter.toList ++ ['\n'])) := by
    obtain ⟨⟨⟩, strictNames⟩ := config
    rw [← Table.code_eq_unlines, ofTable]
    simp only [String.toList_append, List.append_assoc]
    rfl
  rw [declarations, htext, List.splitOn_append_cons_self,
    splitOn_unlines_append (Table.lineEnd_not_mem_codeLines h), List.filterMap_append,
    List.filterMap_append, declarations_header, declarations_codeLines, declarations_footer]
  rfl

/-! ## Conflicts -/

def listing? (document : String) : Option Listing :=
  (Listing.body? document).bind Listing.ofCode?

/-- No name is declared twice, as an enumeration value, a type or an object. -/
def ConflictFree (document : String) : Prop :=
  ∃ listing, listing? document = some listing ∧
    ((listing.values ++ declarations document).map Identifier.lowercase).Nodup

theorem listing?_ofTable (h : ∀ entry ∈ table.entries, entry.Legible) :
    listing? (ofTable config table) =
      some ⟨Identifier.noPeripheral :: table.identifiers, table.entries⟩ := by
  rw [listing?, Listing.body?_ofTable, Option.bind_some, Listing.ofCode?_code h]

theorem map_lowercase_packageNames : packageNames.map Identifier.lowercase = packageNames := by
  decide +kernel

theorem conflictFree_ofTable_iff (h : (Table.ofDevices config devices).result = .ok table) :
    ConflictFree (ofTable config table) ↔
      ∀ word ∈ table.identifiers, Identifier.lowercase word ∉ packageNames := by
  have hlegible := Table.legible_of_ofDevices h
  have hsentinel : Identifier.lowercase Identifier.noPeripheral ∉ packageNames := by
    decide +kernel
  have hvalues := Table.nodup_lowercase_values h
  have hnames : packageNames.Nodup := by decide +kernel
  simp only [ConflictFree, listing?_ofTable hlegible, declarations_ofTable hlegible,
    Option.some.injEq, exists_eq_left', List.map_append, map_lowercase_packageNames,
    List.nodup_append', hvalues, hnames, true_and]
  rw [List.map_cons, List.disjoint_cons_left, and_iff_right hsentinel]
  exact List.forall_mem_map

/-- What the package declares, and when it declares a name twice. -/
theorem conflictFree_iff (h : (ofDevices config devices).result = .ok document) :
    declarations document = packageNames ∧
    (∃ listing, listing? document = some listing ∧
      listing.values = Identifier.noPeripheral ::
        (Device.blocks devices).map (fun record => Identifier.spelling record.name) ∧
      (listing.values.map Identifier.lowercase).Nodup) ∧
    (ConflictFree document ↔ ∀ record ∈ Device.blocks devices,
      Identifier.lowercase (Identifier.spelling record.name) ∉ packageNames) := by
  obtain ⟨table, htable, rfl⟩ := ofDevices_result_eq_ok_iff.mp h
  have hlegible := Table.legible_of_ofDevices htable
  have hidentifiers := Table.identifiers_eq_map_spelling htable
  refine ⟨declarations_ofTable hlegible, ⟨_, listing?_ofTable hlegible, ?_, ?_⟩, ?_⟩
  · rw [hidentifiers]
  · exact Table.nodup_lowercase_values htable
  · rw [conflictFree_ofTable_iff htable, hidentifiers, List.forall_mem_map]

theorem conflictFree_iff_serialPorts :
    (∃ document, (ofDevices {} (Device.serialPorts ["usart-1", "periph"])).result =
      .ok document ∧ ConflictFree document) ∧
    ∃ document, (ofDevices {} (Device.serialPorts ["usart-1", "T-Periph_Info"])).result =
      .ok document ∧ ¬ConflictFree document := by
  have htable : (Table.ofDevices {} (Device.serialPorts ["usart-1", "periph"])).result =
      .ok ⟨[.serialPort "USART_1", .serialPort "PERIPH"]⟩ := rfl
  have htable' : (Table.ofDevices {} (Device.serialPorts ["usart-1", "T-Periph_Info"])).result =
      .ok ⟨[.serialPort "USART_1", .serialPort "T_PERIPH_INFO"]⟩ := rfl
  have hdocument := ofDevices_result_eq_ok_iff.mpr ⟨_, htable, rfl⟩
  have hdocument' := ofDevices_result_eq_ok_iff.mpr ⟨_, htable', rfl⟩
  obtain ⟨-, -, hfree⟩ := conflictFree_iff hdocument
  obtain ⟨-, -, hfree'⟩ := conflictFree_iff hdocument'
  refine ⟨⟨_, hdocument, hfree.mpr (by decide +kernel)⟩, _, hdocument', ?_⟩
  rw [hfree']
  decide +kernel

/-- The checks on device names let all of these names through. -/
theorem ofName_of_mem_packageNames :
    ∀ name ∈ packageNames, Identifier.ofName name = .ok (Identifier.spelling name) := by
  decide +kernel

/-- Letter case apart, these names are the identifiers that are made of them. -/
theorem lowercase_spelling_of_mem_packageNames :
    ∀ name ∈ packageNames, Identifier.lowercase (Identifier.spelling name) = name := by
  decide +kernel

/-- A block with one of these names has a document, which declares the name twice. -/
theorem not_conflictFree_of_mem_packageNames {name : String} (h : name ∈ packageNames) :
    ∃ document, (ofDevices {} (Device.serialPorts [name])).result = .ok document ∧
      ¬ConflictFree document := by
  have hentry := Entry.ofRecord_serialPort (ofName_of_mem_packageNames name h)
  have htable : (Table.ofDevices {} (Device.serialPorts [name])).result =
      .ok ⟨[.serialPort (Identifier.spelling name)]⟩ :=
    Table.ofDevices_eq_ok_iff.mpr ⟨.cons hentry .nil, List.nodup_singleton _⟩
  refine ⟨_, ofDevices_result_eq_ok_iff.mpr ⟨_, htable, rfl⟩, fun hfree => ?_⟩
  have hother := (conflictFree_ofTable_iff htable).mp hfree _ List.mem_cons_self
  exact hother ((lowercase_spelling_of_mem_packageNames name h).symm ▸ h)

/-- The array is one of the things that the checks on device names do not look at. -/
theorem not_conflictFree_periphs :
    ∃ document, (ofDevices {} (Device.serialPorts ["periphs"])).result = .ok document ∧
      ¬ConflictFree document :=
  not_conflictFree_of_mem_packageNames (by decide)

end Document
end PeriphMap
