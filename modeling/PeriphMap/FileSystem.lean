/-! What the program asks of a file system, and the ways in which that can fail. -/

namespace PeriphMap

/-- An error of the operating system. -/
structure OsError where
  text : String
  code : Nat
deriving DecidableEq

namespace OsError

def notFound : OsError := ⟨"No such file or directory", 2⟩

def busy : OsError := ⟨"Device or resource busy", 16⟩

def alreadyExists : OsError := ⟨"File exists", 17⟩

def notADirectory : OsError := ⟨"Not a directory", 20⟩

def isADirectory : OsError := ⟨"Is a directory", 21⟩

def nameTooLong : OsError := ⟨"File name too long", 36⟩

def message (error : OsError) : String :=
  error.text ++ " (os error " ++ toString error.code ++ ")"

end OsError

/-- Why an operation on a file failed. -/
inductive FileFault where
  | os (error : OsError)
  /-- A path with a zero character never reaches the operating system. -/
  | zeroInPath
  | notUtf8
deriving DecidableEq

def FileFault.message : FileFault → String
  | os error => error.message
  | zeroInPath => "file name contained an unexpected NUL byte"
  | notUtf8 => "stream did not contain valid UTF-8"

/-- A file that could not be created. -/
structure CreationFault where
  fault : FileFault
  path : String

/-- The operations on files that the program needs, in a monad that keeps the files. -/
class FileSystem (m : Type → Type) where
  read (path : String) : m (Except FileFault ByteArray)
  /-- Makes a new empty file with a name of its own in a directory and gives its path. -/
  createTemporary (directory : String) : m (Except CreationFault String)
  write (path : String) (content : ByteArray) : m (Except FileFault Unit)
  /-- Gives a file another path, in place of the file that is there. -/
  rename (source target : String) : m (Except FileFault Unit)
  remove (path : String) : m Unit

end PeriphMap
