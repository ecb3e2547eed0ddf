import PeriphMap.FileSystem
import PeriphMap.Path

/-! A tree of directories and files held in memory. It answers as a file system does, in the order
in which that looks at a path: from the left, each part before the next one. -/

namespace PeriphMap

/-- The names that lead from the root to a file or directory. -/
abbrev Location := List String

inductive Node where
  | directory
  | file (content : ByteArray)

structure FileTree where
  nodes : List (Location × Node)
  /-- Where relative paths start. -/
  workingDirectory : Location

namespace FileTree

def node? (tree : FileTree) (location : Location) : Option Node :=
  if location = [] then some .directory else tree.nodes.lookup location

def isDirectory (tree : FileTree) (location : Location) : Bool :=
  tree.node? location matches some .directory

/-- A node that is already there is replaced where it stands. -/
def putNode (location : Location) (node : Node) : List (Location × Node) → List (Location × Node)
  | [] => [(location, node)]
  | (l, n) :: rest =>
    if l = location then (l, node) :: rest else (l, n) :: putNode location node rest

def put (tree : FileTree) (location : Location) (node : Node) : FileTree :=
  { tree with nodes := putNode location node tree.nodes }

def erase (tree : FileTree) (location : Location) : FileTree :=
  { tree with nodes := tree.nodes.filter (·.1 ≠ location) }

/-! ### Paths -/

/-- No name in a directory has more bytes than this. -/
def longestName : Nat := 255

/-- A path has fewer bytes than this. -/
def pathLimit : Nat := 4096

def checkPath (path : String) : Except FileFault Unit :=
  if '\x00' ∈ path.toList then .error .zeroInPath
  else if path = "" then .error (.os .notFound)
  else if pathLimit ≤ path.utf8ByteSize then .error (.os .nameTooLong)
  else .ok ()

/-- Where one part of a path leads. -/
def step (tree : FileTree) (location : Location) (part : String) : Except FileFault Location :=
  if !tree.isDirectory location then .error (.os .notADirectory)
  else if part = "" ∨ part = "." then .ok location
  else if part = ".." then .ok location.dropLast
  else if longestName < part.utf8ByteSize then .error (.os .nameTooLong)
  else if (tree.node? (location ++ [part])).isNone then .error (.os .notFound)
  else .ok (location ++ [part])

def start (tree : FileTree) (path : String) : Location :=
  if Path.isAbsolute path then [] else tree.workingDirectory

/-- The file or directory of a path. -/
def locate (tree : FileTree) (path : String) : Except FileFault Location := do
  checkPath path
  (Path.parts path).foldlM tree.step (tree.start path)

/-- A place in a directory where a file may stand. -/
structure Place where
  directory : Location
  name : String
  /-- A slash follows the name, so only a directory would do. -/
  slash : Bool

def Place.location (place : Place) : Location :=
  place.directory ++ [place.name]

/-- The place that a path names in a directory, which has to be there. -/
def place (tree : FileTree) (path : String) : Except FileFault Place := do
  checkPath path
  let parts := Path.parts path
  let named := Path.trimEnd (· = "") parts
  let directory ← named.dropLast.foldlM tree.step (tree.start path)
  match named.getLast? with
  | none => .error (.os .busy)
  | some name =>
    if !tree.isDirectory directory then .error (.os .notADirectory)
    else if name = "." ∨ name = ".." then .error (.os .busy)
    else if longestName < name.utf8ByteSize then .error (.os .nameTooLong)
    else return ⟨directory, name, named.length < parts.length⟩

/-! ### Operations -/

def read (tree : FileTree) (path : String) : Except FileFault ByteArray := do
  let location ← tree.locate path
  match tree.node? location with
  | some (.file content) => return content
  | _ => .error (.os .isADirectory)

/-- Names of temporary files, one for each number. -/
def temporaryName (n : Nat) : String :=
  ".tmp" ++ String.ofList (List.replicate (6 + n) 'X')

/-- The first name for a temporary file that is free in a directory. -/
def freeName (tree : FileTree) (directory : Location) : String :=
  let free (n : Nat) := (tree.node? (directory ++ [temporaryName n])).isNone
  temporaryName (((List.range tree.nodes.length).find? free).getD tree.nodes.length)

def create (tree : FileTree) (path : String) : Except FileFault FileTree := do
  let place ← tree.place path
  if (tree.node? place.location).isSome then .error (.os .alreadyExists)
  else if place.slash then .error (.os .isADirectory)
  else return tree.put place.location (.file .empty)

def createTemporary (tree : FileTree) (directory : String) :
    Except CreationFault (String × FileTree) :=
  let name := tree.freeName ((tree.locate directory).toOption.getD [])
  let path := Path.join directory name
  match tree.create path with
  | .ok tree' => .ok (path, tree')
  | .error fault => .error ⟨fault, path⟩

def write (tree : FileTree) (path : String) (content : ByteArray) :
    Except FileFault FileTree := do
  let location ← tree.locate path
  match tree.node? location with
  | some (.file _) => return tree.put location (.file content)
  | _ => .error (.os .isADirectory)

/-- Only files are renamed, and no directory gives way to one. -/
def rename (tree : FileTree) (source target : String) : Except FileFault FileTree := do
  let location ← tree.locate source
  let content ← tree.read source
  let place ← tree.place target
  if place.slash then .error (.os .notADirectory)
  else if tree.isDirectory place.location then .error (.os .isADirectory)
  else return (tree.erase location).put place.location (.file content)

/-- A path that leads nowhere leaves the tree as it is. -/
def remove (tree : FileTree) (path : String) : FileTree :=
  match tree.locate path with
  | .ok location => tree.erase location
  | .error _ => tree

/-- An operation that leaves the tree as it is when it fails. -/
def attempt {ε : Type} (operation : FileTree → Except ε FileTree) :
    StateM FileTree (Except ε Unit) := fun tree =>
  match operation tree with
  | .ok tree' => (.ok (), tree')
  | .error fault => (.error fault, tree)

instance : FileSystem (StateM FileTree) where
  read path := fun tree => (tree.read path, tree)
  createTemporary directory := fun tree =>
    match tree.createTemporary directory with
    | .ok (path, tree') => (.ok path, tree')
    | .error fault => (.error fault, tree)
  write path content := attempt (·.write path content)
  rename source target := attempt (·.rename source target)
  remove path := modify (·.remove path)

/-! ### Making trees -/

/-- A directory and all those that lead to it. -/
def makeDirectory (tree : FileTree) (location : Location) : FileTree :=
  (List.range location.length).foldl (fun tree n => tree.put (location.take (n + 1)) .directory)
    tree

def makeFile (tree : FileTree) (location : Location) (content : ByteArray) : FileTree :=
  (tree.makeDirectory location.dropLast).put location (.file content)

end FileTree
end PeriphMap
