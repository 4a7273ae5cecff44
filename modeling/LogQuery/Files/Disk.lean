import LogQuery.ByteStream.Basic
import LogQuery.Text.Basic
import LogQuery.Text.Decode

/-! Files, directories and links as they stand on a disk at one time.

Every entry has a place: the names on the way to it from the root, links not followed. A path is
followed from the working directory, or from the root if it begins with a slash.
-/

set_option autoImplicit false

namespace LogQuery.Path

/-- The names of a path. An empty name stands for each slash at an end or beside another. -/
def names (path : String) : List String :=
  (Text.splitAt '/' path.toList).map String.ofList

def isAbsolute (path : String) : Bool := path.startsWith "/"

def join (directory name : String) : String :=
  if isAbsolute name || directory.isEmpty then name
  else if directory.endsWith "/" then directory ++ name
  else directory ++ "/" ++ name

end LogQuery.Path

namespace LogQuery

inductive Disk.Entry where
  | directory
  | file (data : List UInt8)
  /-- stands for what is found at a path from the directory of the link -/
  | link (target : String)
  deriving DecidableEq, Repr

abbrev Disk.Place := List String

structure Disk where
  workingDirectory : Disk.Place := []
  entries : List (Disk.Place × Disk.Entry) := []
  deriving Repr

namespace Disk

def notFound : Failure := ⟨.notFound, "No such file or directory (os error 2)"⟩
def notADirectory : Failure := ⟨.notADirectory, "Not a directory (os error 20)"⟩
def isADirectory : Failure := ⟨.isADirectory, "Is a directory (os error 21)"⟩
def nameTooLong : Failure := ⟨.invalidName, "File name too long (os error 36)"⟩
def tooManyLinks : Failure := ⟨.filesystemLoop, "Too many levels of symbolic links (os error 40)"⟩
def notText : Failure := ⟨.invalidData, "stream did not contain valid UTF-8"⟩
def zeroInName : Failure := ⟨.invalidInput, "file name contained an unexpected NUL byte"⟩

def entry? (disk : Disk) (place : Place) : Option Entry :=
  if place.isEmpty then some .directory else disk.entries.lookup place

inductive Stride where
  | arrived (place : Place)
  | link (target : String) (directory : Place) (rest : List String)

def stride (disk : Disk) : List String → Place → Except Failure Stride
  | [], place => .ok (.arrived place)
  | name :: rest, place =>
    if name == "" || name == "." then stride disk rest place
    else if name == ".." then stride disk rest place.dropLast
    else if 255 < name.utf8ByteSize then .error nameTooLong
    else
      let place' := place ++ [name]
      match disk.entry? place' with
      | none => .error notFound
      | some .directory => stride disk rest place'
      | some (.file _) => if rest.isEmpty then .ok (.arrived place') else .error notADirectory
      | some (.link target) => .ok (.link target place rest)

def follow (disk : Disk) : (links : Nat) → List String → Place → Except Failure Place
  | links, names, place =>
    match disk.stride names place with
    | .error failure => .error failure
    | .ok (.arrived place) => .ok place
    | .ok (.link target directory rest) =>
      match links with
      | 0 => .error tooManyLinks
      | links + 1 =>
        follow disk links (Path.names target ++ rest)
          (if Path.isAbsolute target then [] else directory)

def linkLimit : Nat := 40

def origin (disk : Disk) (path : String) : Place :=
  if Path.isAbsolute path then [] else disk.workingDirectory

def find (disk : Disk) (path : String) : Except Failure Place :=
  if path.toList.contains '\x00' then .error zeroInName
  else if path.isEmpty then .error notFound
  else if 4095 < path.utf8ByteSize then .error nameTooLong
  else disk.follow linkLimit (Path.names path) (disk.origin path)

/-- Opens a file for reading. A directory can be opened, but not read. -/
def openFile (disk : Disk) (path : String) : Except Failure ByteStream := do
  match disk.entry? (← disk.find path) with
  | some (.file data) => return [.bytes data]
  | some .directory => return [.failure isADirectory]
  | _ => throw notFound

def readText (disk : Disk) (path : String) : Except Failure String := do
  match (← disk.openFile path).readAll with
  | (_, some failure) => throw failure
  | (bytes, none) =>
    match Text.decode? bytes with
    | some text => return String.ofList text
    | none => throw notText

def namesIn (disk : Disk) (place : Place) : List String :=
  (disk.entries.filterMap fun (entry, _) =>
    if entry.dropLast == place then entry.getLast? else none).mergeSort

/-! ### Changes -/

def set (disk : Disk) (place : Place) (entry : Entry) : Disk :=
  { disk with entries := disk.entries.filter (·.1 != place) ++ [(place, entry)] }

def enter (disk : Disk) : List String → Place → Disk × Place
  | [], place => (disk, place)
  | name :: rest, place =>
    match disk.follow linkLimit [name] place with
    | .ok place => disk.enter rest place
    | .error _ => (disk.set (place ++ [name]) .directory).enter rest (place ++ [name])

def makeDirectory (disk : Disk) (path : String) : Disk :=
  (disk.enter (Path.names path) (disk.origin path)).1

def put (disk : Disk) (path : String) (entry : Entry) : Disk :=
  let names := Path.names path
  let (disk, place) := disk.enter names.dropLast (disk.origin path)
  disk.set (place ++ names.getLast?.toList) entry

/-- Writes a file, in place of the one that the path leads to. -/
def writeFile (disk : Disk) (path : String) (data : List UInt8) : Disk :=
  match disk.find path with
  | .ok place => disk.set place (.file data)
  | .error _ => disk.put path (.file data)

def makeLink (disk : Disk) (path target : String) : Disk := disk.put path (.link target)

/-- Takes away what stands at a path, with all that is in it. A link is taken away itself. -/
def remove (disk : Disk) (path : String) : Disk :=
  let names := Path.names path
  match disk.follow linkLimit names.dropLast (disk.origin path) with
  | .error _ => disk
  | .ok directory =>
    let place := directory ++ names.getLast?.toList
    { disk with entries := disk.entries.filter fun (entry, _) => !place.isPrefixOf entry }

end Disk

end LogQuery
