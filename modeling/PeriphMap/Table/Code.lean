import PeriphMap.Lookahead
import PeriphMap.Table

/-! The Ada text of a table: the enumeration of the identifiers, and the constant array with a row
for each of them. -/

namespace PeriphMap.Table

def enumerationCode (table : Table) : String :=
  "   type t_periph_id is (\n      " ++ Identifier.noPeripheral ++ "\n" ++
    String.join (table.identifiers.map fun identifier => "     ," ++ identifier ++ "\n") ++
    "   );\n\n\n"

def opening : String :=
  "   periphs : constant array (t_periph_id range t_periph_id'succ (t_periph_id'first) .. " ++
    "t_periph_id'last) of t_periph_info := (\n"

/-- One row of the array. The identifier has to name its enumeration value, so it is not cut. -/
def row (entry : Entry) : String :=
  Text.alignLeft entry.identifier nameWidth ++ " => ( \"" ++ entry.paddedName ++ "\", " ++
    entry.address ++ ", " ++ entry.size ++ ", " ++ entry.subregions ++ ", ( " ++
    ", ".intercalate entry.interrupts.toList ++ " ), " ++
    (if entry.readOnly then "True" else "False") ++ ")\n"

/-- What stands between two rows, at the start of the second one's line. -/
def separator : String := "   ,"

/-- A row, and the separator if it is known that another row follows. -/
def separatedRow (entry : Entry) (more : Bool) : String :=
  if more then row entry ++ separator else row entry

/-- The array without its end, which is in the footer of a document. -/
def arrayCode (table : Table) : String :=
  let rows := (Lookahead.ofList table.entries).rest.1
  opening ++ (if rows.isEmpty then "" else "    ") ++
    String.join (rows.map fun (entry, more) => separatedRow entry more)

def code (table : Table) : Mode → String
  | .ada => enumerationCode table ++ arrayCode table

end PeriphMap.Table
