import PeriphMap.Table.Code

/-! Whole documents. A document is built before any of it is given away, so an error leaves nothing
behind. -/

namespace PeriphMap

namespace Document

def ofTable (config : Config) (table : Table) : String :=
  config.mode.template.header ++ "\n" ++ table.code config.mode ++
    config.mode.template.footer ++ "\n"

def ofDevices (config : Config) (devices : List Device) : Run String := do
  let table ← Table.ofDevices config devices
  .report (.generating config.mode table.entries.length devices.length)
  return ofTable config table

def devicesOfText (text : String) : Run (List Device) :=
  .ofExcept .malformedInput (Device.listOfText text)

def ofText (config : Config) (text : String) : Run String := do
  let devices ← devicesOfText text
  ofDevices config devices

/-- The devices listed in a file, given what came of reading it. -/
def devicesOfFile (path : String) (content : Except FileFault ByteArray) : Run (List Device) := do
  let bytes ← .ofExcept (.unreadable path) content
  let text ← match String.fromUTF8? bytes with
    | some text => pure text
    | none => .fail (.unreadable path .notUtf8)
  let devices ← devicesOfText text
  .report (.loaded devices.length path)
  return devices

def ofFile (config : Config) (path : String) (content : Except FileFault ByteArray) :
    Run String := do
  let devices ← devicesOfFile path content
  ofDevices config devices

end Document
end PeriphMap
