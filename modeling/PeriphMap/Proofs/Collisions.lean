import PeriphMap.Proofs.Code
import PeriphMap.Proofs.Notices

/-! Entries with the same name in the name column. Identifiers contain no spaces, so a filled up
name is never taken for another one, and only names that were cut can be the same. -/

namespace PeriphMap

/-! ## Identifiers -/

namespace Identifier

variable {name : String} {word : String}

theorem space_not_mem_of_ofName (h : ofName name = .ok word) : ' ' ∉ word.toList := by
  intro hspace
  have hbounds := (ofName_eq_ok_iff.mp h).2.wellFormed.toNat_bounds ' ' hspace
  exact absurd hbounds.1 (by decide)

end Identifier

/-! ## Reports -/

namespace Event

/-- The identifier of the entry that was to be added when a warning was given. -/
def subject? : Event → Option String
  | nameCut identifier => some identifier
  | nameShared _ identifier _ => some identifier
  | _ => none

/-- Whether an event says that the name of an entry is cut. -/
def tellsCut (identifier : String) : Event → Bool
  | nameCut identifier' => identifier' = identifier
  | _ => false

/-- Whether an event says that an entry has the name of an earlier one. -/
def tellsShared (identifier : String) : Event → Bool
  | nameShared _ identifier' _ => identifier' = identifier
  | _ => false

variable {event : Event} {identifier : String}

theorem subject?_of_tellsCut (h : event.tellsCut identifier) :
    event.subject? = some identifier := by
  cases event with
  | nameCut identifier' => exact congrArg some (of_decide_eq_true h)
  | _ => cases h

theorem subject?_of_tellsShared (h : event.tellsShared identifier) :
    event.subject? = some identifier := by
  cases event with
  | nameShared first identifier' shared => exact congrArg some (of_decide_eq_true h)
  | _ => cases h

end Event

namespace Entry

variable {config : Config} {record : Record} {entry : Entry}

theorem ofRecord_events_of_ok (h : (ofRecord config record).result = .ok entry) :
    (ofRecord config record).events =
      if nameWidth < entry.identifier.length then [.nameCut entry.identifier] else [] := by
  have hrenders := ofRecord_result_eq_ok_iff.mp h
  have hstrict : config.strictNames = true → ¬nameWidth < entry.identifier.length :=
    fun hstrict => Nat.not_lt_of_le (hrenders.wellFormed.width hstrict)
  rw [ofRecord_events, hrenders.identifier]
  dsimp only
  rw [checkWidth_events, utf8ByteSize_of_ofName hrenders.identifier]
  cases hnames : config.strictNames with
  | true => rw [if_neg (fun h => hstrict hnames h.1), if_neg (hstrict hnames)]
  | false => simp only [and_true]

end Entry

namespace Table

variable {config : Config} {devices : List Device} {device : Device} {table table' : Table}
  {record : Record} {entry : Entry} {identifier : String} {event : Event} {k : Nat}

/-- What is reported of an entry that is added behind others. -/
def reports (earlier : List Entry) (entry : Entry) : List Event :=
  (if nameWidth < entry.identifier.length then [.nameCut entry.identifier] else []) ++
    match earlier.find? (·.paddedName = entry.paddedName) with
    | none => []
    | some first => [.nameShared first.identifier entry.identifier entry.paddedName]

theorem subject?_of_mem_reports {earlier : List Entry} (h : event ∈ reports earlier entry) :
    event.subject? = some entry.identifier := by
  rcases List.mem_append.mp h with h | h
  · split at h
    · rw [List.mem_singleton.mp h, Event.subject?]
    · cases h
  · split at h
    · cases h
    · rw [List.mem_singleton.mp h, Event.subject?]

theorem addDevice_events_of_new (hentry : (Entry.ofRecord config record).result = .ok entry)
    (hnew : entry.identifier ∉ table.identifiers) :
    (addDevice config table (.block record)).events = reports table.entries entry := by
  rw [addDevice, Run.bind_of_ok hentry, Entry.ofRecord_events_of_ok hentry, add_events, if_neg hnew]
  rfl

/-- The last step of a run that comes to an end. -/
theorem ofDevices_concat_cases
    (h : (ofDevices config (devices ++ [device])).result = .ok table) :
    ∃ before, (ofDevices config devices).result = .ok before ∧
      ((table = before ∧ ∃ kind name, (ofDevices config (devices ++ [device])).events =
          (ofDevices config devices).events ++ [.skipped kind name]) ∨
        ∃ entry, entry.identifier ∉ before.identifiers ∧
          table = ⟨before.entries ++ [entry]⟩ ∧
          (ofDevices config (devices ++ [device])).events =
            (ofDevices config devices).events ++ reports before.entries entry) := by
  rw [ofDevices_concat] at h ⊢
  obtain ⟨before, hbefore, hadd⟩ := Run.bind_result_eq_ok_iff.mp h
  refine ⟨before, hbefore, ?_⟩
  rw [Run.bind_of_ok hbefore]
  cases device with
  | skipped kind name =>
    cases hadd
    exact .inl ⟨rfl, kind, name, rfl⟩
  | block record =>
    obtain ⟨entry, hentry, hnew, rfl⟩ := addDevice_block_eq_ok_iff.mp hadd
    exact .inr ⟨entry, hnew, rfl, by rw [addDevice_events_of_new hentry hnew]⟩

/-- Warnings are about entries of the table. -/
theorem mem_identifiers_of_subject? (h : (ofDevices config devices).result = .ok table)
    (hevent : event ∈ (ofDevices config devices).events)
    (hsubject : event.subject? = some identifier) : identifier ∈ table.identifiers := by
  induction devices using List.reverseRecOn generalizing table with
  | nil => cases hevent
  | append_singleton devices device ih =>
    obtain ⟨before, hbefore, ⟨rfl, kind, name, hevents⟩ | ⟨entry, -, rfl, hevents⟩⟩ :=
      ofDevices_concat_cases h
    all_goals
      rw [hevents, List.mem_append] at hevent
    · rcases hevent with hevent | hevent
      · exact ih hbefore hevent
      · rw [List.mem_singleton.mp hevent] at hsubject
        cases hsubject
    · rw [identifiers_concat, List.mem_append]
      rcases hevent with hevent | hevent
      · exact .inl (ih hbefore hevent)
      · rw [subject?_of_mem_reports hevent] at hsubject
        cases hsubject
        exact .inr List.mem_cons_self

theorem filter_subject?_eq_nil {events : List Event}
    (h : ∀ event ∈ events, event.subject? ≠ some identifier) :
    events.filter (·.subject? = some identifier) = [] := by
  rw [List.filter_eq_nil_iff]
  exact fun event hevent htrue => h event hevent (of_decide_eq_true htrue)

theorem filter_subject?_reports (earlier : List Entry) (entry : Entry) (identifier : String) :
    (reports earlier entry).filter (·.subject? = some identifier) =
      if entry.identifier = identifier then reports earlier entry else [] := by
  split
  next heq =>
    refine List.filter_eq_self.mpr fun event hevent => decide_eq_true ?_
    rw [subject?_of_mem_reports hevent, heq]
  next hne =>
    refine filter_subject?_eq_nil fun event hevent hsubject => hne ?_
    exact Option.some.inj ((subject?_of_mem_reports hevent).symm.trans hsubject)

/-- What is reported of an entry depends on the entries before it, and not on what is added
later. -/
theorem filter_subject?_of_ofDevices (h : (ofDevices config devices).result = .ok table)
    (hat : table.entries[k]? = some entry) :
    (ofDevices config devices).events.filter (·.subject? = some entry.identifier) =
      reports (table.entries.take k) entry := by
  induction devices using List.reverseRecOn generalizing table with
  | nil =>
    cases h
    cases hat
  | append_singleton devices device ih =>
    obtain ⟨before, hbefore, ⟨rfl, kind, name, hevents⟩ | ⟨last, hnew, rfl, hevents⟩⟩ :=
      ofDevices_concat_cases h
    all_goals
      rw [hevents, List.filter_append]
    · rw [ih hbefore hat, filter_subject?_eq_nil (by simp [Event.subject?]), List.append_nil]
    · rw [filter_subject?_reports]
      rcases getElem?_concat_eq_some_iff.mp hat with hat | ⟨rfl, rfl⟩
      · have hk := (List.getElem?_eq_some_iff.mp hat).1
        have hne : last.identifier ≠ entry.identifier := fun heq =>
          hnew (heq ▸ List.mem_map_of_mem (List.mem_of_getElem? hat))
        rw [ih hbefore hat, if_neg hne, List.append_nil, List.take_append_of_le_length hk.le]
      · -- nothing was reported of this entry before it was added
        have hearlier : ∀ event ∈ (ofDevices config devices).events,
            event.subject? ≠ some last.identifier := fun event hevent hsubject =>
          hnew (mem_identifiers_of_subject? hbefore hevent hsubject)
        rw [filter_subject?_eq_nil hearlier, if_pos rfl, List.nil_append, List.take_left]

/-- Warnings of one kind about an entry are found among all that is reported of it. -/
theorem filter_of_ofDevices {tells : Event → Bool}
    (htells : ∀ event, tells event → event.subject? = some entry.identifier)
    (h : (ofDevices config devices).result = .ok table) (hat : table.entries[k]? = some entry) :
    (ofDevices config devices).events.filter tells =
      (reports (table.entries.take k) entry).filter tells := by
  rw [← filter_subject?_of_ofDevices h hat, List.filter_filter]
  refine List.filter_congr fun event _ => ?_
  cases htell : tells event with
  | true => simp [htells event htell]
  | false => rw [Bool.false_and]

theorem filter_tellsCut (h : (ofDevices config devices).result = .ok table)
    (hat : table.entries[k]? = some entry) :
    (ofDevices config devices).events.filter (Event.tellsCut entry.identifier) =
      if nameWidth < entry.identifier.length then [.nameCut entry.identifier] else [] := by
  rw [filter_of_ofDevices (fun event => Event.subject?_of_tellsCut) h hat, reports]
  split <;> split <;> simp [Event.tellsCut]

theorem filter_tellsShared (h : (ofDevices config devices).result = .ok table)
    (hat : table.entries[k]? = some entry) :
    (ofDevices config devices).events.filter (Event.tellsShared entry.identifier) =
      match (table.entries.take k).find? (·.paddedName = entry.paddedName) with
      | none => []
      | some first => [.nameShared first.identifier entry.identifier entry.paddedName] := by
  rw [filter_of_ofDevices (fun event => Event.subject?_of_tellsShared) h hat, reports]
  split <;> split <;> simp [Event.tellsShared]

/-- Different entries with the same name: one of them does not fit, and this was reported. -/
theorem pairwise_cut (h : (ofDevices config devices).result = .ok table) :
    table.entries.Pairwise fun entry entry' => entry.paddedName = entry'.paddedName →
      ∃ cut ∈ [entry, entry'],
        (ofDevices config devices).events.filter (Event.tellsCut cut.identifier) =
          [.nameCut cut.identifier] := by
  have hnodup := (ofDevices_eq_ok_iff.mp h).2
  rw [identifiers, List.nodup_iff_pairwise_ne, List.pairwise_map] at hnodup
  have hcut : ∀ cut ∈ table.entries, nameWidth < cut.identifier.length →
      (ofDevices config devices).events.filter (Event.tellsCut cut.identifier) =
        [.nameCut cut.identifier] := by
    intro cut hmem hwide
    obtain ⟨k, hat⟩ := List.getElem?_of_mem hmem
    rw [filter_tellsCut h hat, if_pos hwide]
  refine hnodup.imp_of_mem fun {entry entry'} hentry hentry' hne hpadded => ?_
  rw [paddedName_eq_fit h hentry, paddedName_eq_fit h hentry'] at hpadded
  have hlegible := legible_of_ofDevices h
  rcases Text.lt_length_of_fit_eq_fit (hlegible entry hentry).unspaced
    (hlegible entry' hentry').unspaced hne hpadded with hwide | hwide
  · exact ⟨entry, List.mem_cons_self, hcut entry hentry hwide⟩
  · exact ⟨entry', by simp, hcut entry' hentry' hwide⟩

/-! ## The key column -/

theorem exists_rowLine_eq (entry : Entry) : ∃ rest, rowLine entry =
    Text.alignLeft entry.identifier nameWidth ++ " => ( \"" ++ entry.paddedName ++ "\", " ++
      rest := by
  refine ⟨entry.address ++ "," ++ ",".intercalate (fields entry).tail, ?_⟩
  rw [← String.toList_inj]
  simp only [rowLine, fields, label, choice, List.tail_cons, String.toList_append,
    String.toList_intercalate, List.map_cons, List.map_nil, List.intercalate_cons_cons,
    List.intercalate_singleton, List.append_assoc]
  rfl

theorem getElem?_codeLines (table : Table) (k : Nat) :
    (codeLines table)[table.entries.length + 6 + k]? =
      table.entries[k]?.map fun entry =>
        (if k = 0 then "    " else separator) ++ rowLine entry := by
  have hlength : ("   type t_periph_id is (" :: (valueLines table ++ middleLines)).length =
      table.entries.length + 6 := by
    simp [valueLines, middleLines, identifiers]
  rw [codeLines, ← List.cons_append, List.getElem?_append_right (by omega), hlength,
    Nat.add_sub_cancel_left, rowLines, Text.getElem?_itemize, List.getElem?_map, Option.map_map]
  rfl

/-- When names are the same in the name column, what is reported of it, and where the name column
shows the key of its row. -/
theorem paddedName_collisions :
    (∀ name name' word word', Identifier.ofName name = .ok word →
      Identifier.ofName name' = .ok word' → word ≠ word' →
      (Text.fit word nameWidth = Text.fit word' nameWidth ↔
        nameWidth ≤ word.length ∧ nameWidth ≤ word'.length ∧
          word.toList.take nameWidth = word'.toList.take nameWidth) ∧
      (Text.fit word nameWidth = Text.fit word' nameWidth →
        nameWidth < word.length ∨ nameWidth < word'.length)) ∧
    ∀ config devices table, (ofDevices config devices).result = .ok table →
      (table.entries.Pairwise fun entry entry' => entry.paddedName = entry'.paddedName →
        ∃ cut ∈ [entry, entry'], ((ofDevices config devices).events.filter
            (Event.tellsCut cut.identifier)).map Event.notice =
          [⟨.warn, "Identifier " ++ cut.identifier ++ " is longer than " ++ toString nameWidth ++
            " characters, its name is truncated"⟩]) ∧
      ∀ k entry, table.entries[k]? = some entry →
        ((ofDevices config devices).events.filter
            (Event.tellsShared entry.identifier)).map Event.notice =
          (match (table.entries.take k).find? (·.paddedName = entry.paddedName) with
          | none => []
          | some first => [⟨.warn, first.identifier ++ " and " ++ entry.identifier ++
              " share the table name \"" ++ entry.paddedName ++ "\""⟩]) ∧
        (entry.identifier.length ≤ nameWidth → ∃ rest,
          (Text.toLines (table.code .ada))[table.entries.length + 6 + k]? =
            some ((if k = 0 then "    " else "   ,") ++ entry.paddedName ++ " => ( \"" ++
              entry.paddedName ++ "\", " ++ rest)) := by
  refine ⟨fun name name' word word' hword hword' hne => ?_, fun config devices table h => ⟨?_, ?_⟩⟩
  · have hspace := Identifier.space_not_mem_of_ofName hword
    have hspace' := Identifier.space_not_mem_of_ofName hword'
    exact ⟨Text.fit_eq_fit_iff_of_ne hspace hspace' hne,
      Text.lt_length_of_fit_eq_fit hspace hspace' hne⟩
  · refine (pairwise_cut h).imp fun hcut hpadded => ?_
    obtain ⟨cut, hmem, hevents⟩ := hcut hpadded
    exact ⟨cut, hmem, by rw [hevents]; rfl⟩
  · intro k entry hat
    have hlegible := legible_of_ofDevices h
    refine ⟨?_, fun hfits => ?_⟩
    · rw [filter_tellsShared h hat]
      split <;> rfl
    · obtain ⟨rest, hrow⟩ := exists_rowLine_eq entry
      have hkey : Text.alignLeft entry.identifier nameWidth = entry.paddedName := by
        rw [Text.alignLeft_eq_fit hfits, paddedName_eq_fit h (List.mem_of_getElem? hat)]
      refine ⟨rest, ?_⟩
      rw [code_eq_unlines, Text.toLines_unlines (lineEnd_not_mem_codeLines hlegible),
        getElem?_codeLines, hat, Option.map_some, hrow, hkey]
      simp only [separator, String.append_assoc]

theorem paddedName_collisions_serialPorts :
    let devices := Device.serialPorts ["cryp-processor-dma", "usart-1", "cryp-processor-dcmi"]
    let words := ["CRYP_PROCESSOR_DMA", "USART_1", "CRYP_PROCESSOR_DCMI"]
    (ofDevices {} devices).result = .ok ⟨words.map .serialPort⟩ ∧
    Text.fit "CRYP_PROCESSOR_DMA" nameWidth = Text.fit "CRYP_PROCESSOR_DCMI" nameWidth ∧
    ((ofDevices {} devices).events.filter
        (Event.tellsShared "CRYP_PROCESSOR_DCMI")).map Event.notice =
      [⟨.warn, "CRYP_PROCESSOR_DMA and CRYP_PROCESSOR_DCMI share the table name " ++
        "\"CRYP_PROCESSOR_D\""⟩] ∧
    ∃ rest, (Text.toLines (code ⟨words.map .serialPort⟩ .ada))[10]? =
      some ("   ,USART_1          => ( \"USART_1         \", " ++ rest) := by
  intro devices words
  obtain ⟨hwords, htable⟩ := paddedName_collisions
  have hrecords : List.Forall₂ (fun record entry => (Entry.ofRecord {} record).result = .ok entry)
      (Device.blocks devices) (words.map .serialPort) :=
    .cons rfl (.cons rfl (.cons rfl .nil))
  have hnodup : (Table.mk (words.map .serialPort)).identifiers.Nodup := by decide +kernel
  have hok : (ofDevices {} devices).result = .ok ⟨words.map .serialPort⟩ :=
    ofDevices_eq_ok_iff.mpr ⟨hrecords, hnodup⟩
  obtain ⟨-, hentries⟩ := htable {} devices _ hok
  obtain ⟨hfit, -⟩ := hwords "cryp-processor-dma" "cryp-processor-dcmi" "CRYP_PROCESSOR_DMA"
    "CRYP_PROCESSOR_DCMI" rfl rfl (by decide)
  obtain ⟨hshared, -⟩ := hentries 2 (.serialPort "CRYP_PROCESSOR_DCMI") rfl
  obtain ⟨-, hrow⟩ := hentries 1 (.serialPort "USART_1") rfl
  have hfirst : ((words.map Entry.serialPort).take 2).find?
      (·.paddedName = (Entry.serialPort "CRYP_PROCESSOR_DCMI").paddedName) =
        some (.serialPort "CRYP_PROCESSOR_DMA") := rfl
  have hlead : "   ," ++ (Entry.serialPort "USART_1").paddedName ++ " => ( \"" ++
      (Entry.serialPort "USART_1").paddedName ++ "\", " =
        "   ,USART_1          => ( \"USART_1         \", " := by
    decide +kernel
  refine ⟨hok, hfit.mpr (by decide), ?_, ?_⟩
  · rw [hfirst] at hshared
    exact hshared
  · obtain ⟨rest, hline⟩ := hrow (by decide)
    rw [if_neg (by decide), hlead] at hline
    exact ⟨rest, hline⟩

end Table
end PeriphMap
