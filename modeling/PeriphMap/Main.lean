import PeriphMap.CommandLine.Execution

/-! The program on the file system of the machine. -/

namespace PeriphMap.Machine

/-- The operating system's account of an error, where there is one. -/
def osError : IO.Error → OsError
  | .alreadyExists _ code text => ⟨text, code.toNat⟩
  | .otherError code text => ⟨text, code.toNat⟩
  | .resourceBusy code text => ⟨text, code.toNat⟩
  | .resourceVanished code text => ⟨text, code.toNat⟩
  | .unsupportedOperation code text => ⟨text, code.toNat⟩
  | .hardwareFault code text => ⟨text, code.toNat⟩
  | .unsatisfiedConstraints code text => ⟨text, code.toNat⟩
  | .illegalOperation code text => ⟨text, code.toNat⟩
  | .protocolError code text => ⟨text, code.toNat⟩
  | .timeExpired code text => ⟨text, code.toNat⟩
  | .interrupted _ code text => ⟨text, code.toNat⟩
  | .noFileOrDirectory _ code text => ⟨text, code.toNat⟩
  | .invalidArgument _ code text => ⟨text, code.toNat⟩
  | .permissionDenied _ code text => ⟨text, code.toNat⟩
  | .resourceExhausted _ code text => ⟨text, code.toNat⟩
  | .inappropriateType _ code text => ⟨text, code.toNat⟩
  | .noSuchThing _ code text => ⟨text, code.toNat⟩
  | .unexpectedEof => ⟨"unexpected end of file", 0⟩
  | .userError text => ⟨text, 0⟩

def attempt {α : Type} (path : String) (action : IO α) : IO (Except FileFault α) := do
  if '\x00' ∈ path.toList then return .error .zeroInPath
  try
    return .ok (← action)
  catch e =>
    return .error (.os (osError e))

def randomSuffix : IO String := do
  let letters := "ABCDEFGHIJKLMNOPQRSTUVWXYZabcdefghijklmnopqrstuvwxyz0123456789".toList
  let picks ← (List.range 6).mapM fun _ => IO.rand 0 (letters.length - 1)
  return String.ofList (picks.map fun n => letters.getD n 'X')

instance : FileSystem IO where
  read path := attempt path do
    let handle ← IO.FS.Handle.mk path .read
    handle.readBinToEnd
  createTemporary directory := do
    let path := Path.join directory (".tmp" ++ (← randomSuffix))
    match ← attempt path (IO.FS.Handle.mk path .writeNew) with
    | .ok _ => return .ok path
    | .error fault => return .error ⟨fault, path⟩
  write path content := attempt path (IO.FS.writeBinFile path content)
  rename source target := attempt target (IO.FS.rename source target)
  remove path := do
    let _ ← attempt path (IO.FS.removeFile path)

end PeriphMap.Machine

def main (arguments : List String) : IO UInt32 := do
  let response : PeriphMap.CommandLine.Response ← PeriphMap.CommandLine.respond arguments
  IO.eprint response.errors
  IO.print response.output
  return response.status.toUInt32
