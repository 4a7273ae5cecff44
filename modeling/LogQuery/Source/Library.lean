import LogQuery.Source.Category

/-! The log sources of a configuration, on a disk that may change between questions.

Directories of rotated files are looked through once, when they are first asked about; those of
hourly files are looked at anew for each question.
-/

set_option autoImplicit false

namespace LogQuery

structure RotatedShelf where
  directories : List String
  recursion : Nat
  found : Option Catalog := none

namespace RotatedShelf

def catalog (shelf : RotatedShelf) (disk : Disk) : Catalog :=
  shelf.found.getD (Catalog.ofDirectories disk shelf.recursion shelf.directories)

def asked (shelf : RotatedShelf) (disk : Disk) : RotatedShelf :=
  { shelf with found := some (shelf.catalog disk) }

end RotatedShelf

def putInOrder {β : Type} (key : String) (value : β) : List (String × β) → List (String × β)
  | [] => [(key, value)]
  | (other, held) :: rest =>
    if key < other then (key, value) :: (other, held) :: rest
    else if key = other then (key, value) :: rest
    else (other, held) :: putInOrder key value rest

/-- The categories of hourly files, each with the directory that it is taken from: the last that
has it. Links are no categories. -/
def hourlyHomes (disk : Disk) (directories : List String) : List (String × String) :=
  directories.foldl
    (fun homes directory =>
      match disk.find directory with
      | .error _ => homes
      | .ok place =>
        (disk.namesIn place).foldl
          (fun homes name =>
            if disk.entry? (place ++ [name]) == some .directory then putInOrder name directory homes
            else homes)
          homes)
    []

structure Library where
  shelf : RotatedShelf
  hourlyDirectories : List String
  others : List Source := []
  input : ByteStream := []

namespace Library

def rotatedName : String := "generic"
def hourlyName : String := "scribe"
def inputName : String := "stdin"

def inputCategory : String := "-"

def sources (library : Library) (disk : Disk) : List Source :=
  [.ofCatalog rotatedName (library.shelf.catalog disk)] ++ library.others ++
    [.ofHomes hourlyName (hourlyHomes disk library.hourlyDirectories),
     .ofStreams inputName [(inputCategory, library.input)]]

def names (library : Library) : List String :=
  [rotatedName] ++ library.others.map (·.name) ++ [hourlyName, inputName]

/-- The library after a question, which may have been about rotated files. -/
def asked (library : Library) (disk : Disk) (aboutRotated : Bool) : Library :=
  if aboutRotated then { library with shelf := library.shelf.asked disk } else library

def listing (library : Library) (disk : Disk) (filter : Option String) : List String × Library :=
  (Source.listing (library.sources disk) filter, library.asked disk true)

def source? (library : Library) (disk : Disk) (name : String) : Option Source × Library :=
  ((library.sources disk).find? (·.name == name), library.asked disk (name == rotatedName))

def resolve (library : Library) (disk : Disk) (text : String) :
    Except CategoryError Chain × Library :=
  let isAboutRotated := match Address.read library.names text with
    | .malformed => false
    | .qualified name _ => name == rotatedName
    | .bare => true
  (Source.resolve (library.sources disk) text, library.asked disk isAboutRotated)

end Library

end LogQuery
