/-! Paths, as text. -/

namespace PeriphMap.Path

/-- The parts between the slashes. Blank parts show where slashes meet or the text ends. -/
def parts (path : String) : List String :=
  (path.toList.splitOn '/').map String.ofList

def ofParts (parts : List String) : String :=
  "/".intercalate parts

def isAbsolute (path : String) : Bool :=
  path.toList.head? = some '/'

/-- The parts without those at the end that do not lead anywhere. -/
def trimEnd (idle : String → Bool) (parts : List String) : List String :=
  (parts.reverse.dropWhile idle).reverse

def isIdle (part : String) : Bool :=
  part = "" || part = "."

/-- The parts before the last one that leads somewhere, if there is such a part. -/
def parentParts? (parts : List String) : Option (List String) :=
  match trimEnd isIdle parts with
  | [] => none
  | moving => some (trimEnd isIdle moving.dropLast)

/-- The directory that holds the file of a path. It is `.` when the path names none. -/
def directoryOf (path : String) : String :=
  match parts path with
  | "" :: rest => ((parentParts? rest).map fun parents => "/" ++ ofParts parents).getD "."
  | "." :: rest => ((parentParts? rest).map fun parents => ofParts ("." :: parents)).getD "."
  | all =>
    match parentParts? all with
    | none | some [] => "."
    | some parents => ofParts parents

def join (directory name : String) : String :=
  if directory.toList.getLast? = some '/' then directory ++ name else directory ++ "/" ++ name

end PeriphMap.Path
