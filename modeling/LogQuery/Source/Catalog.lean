import LogQuery.Files.Walk
import LogQuery.Source.FileName

/-! Catalogs of rotated log files: the files below some directories, by category.

A category is named after its files, with the directories in front that they are in. Its files
come oldest first: the one rotated most often, and so on down to the live one.
-/

set_option autoImplicit false

namespace LogQuery

structure RotatedFile where
  path : String
  rotation : Option Nat
  packing : Packing
  deriving DecidableEq, Repr

/-- The order of the files of a category; files of one age are in the order of their paths. -/
def RotatedFile.comesBefore (a b : RotatedFile) : Bool :=
  match a.rotation, b.rotation with
  | some m, some n => n < m || (m == n && a.path ≤ b.path)
  | some _, none => true
  | none, some _ => false
  | none, none => a.path ≤ b.path

abbrev Catalog := List (String × List RotatedFile)

namespace Catalog

def categories (catalog : Catalog) : List String := catalog.map (·.1)

def files? (catalog : Catalog) (category : String) : Option (List RotatedFile) :=
  catalog.lookup category

def update (change : List RotatedFile → List RotatedFile) (category : String) : Catalog → Catalog
  | [] => [(category, change [])]
  | (other, files) :: rest =>
    if category < other then (category, change []) :: (other, files) :: rest
    else if category = other then (category, change files) :: rest
    else (other, files) :: update change category rest

def entryOf? (sighting : Disk.Sighting) : Option (String × RotatedFile) :=
  (LogFileName.parse? sighting.name).map fun { name, rotation, packing } =>
    ("/".intercalate (sighting.within ++ [name]), ⟨sighting.path, rotation, packing⟩)

def ofEntries (entries : List (String × RotatedFile)) : Catalog :=
  let grouped := entries.foldl
    (fun catalog (category, file) => update (· ++ [file]) category catalog) []
  grouped.map fun (category, files) => (category, files.mergeSort RotatedFile.comesBefore)

def ofDirectory (disk : Disk) (recursion : Nat) (directory : String) : Catalog :=
  ofEntries ((disk.walk (recursion + 1) directory).filterMap entryOf?)

/-- A catalog with the categories of another, which win. -/
def override (catalog later : Catalog) : Catalog :=
  later.foldl (fun catalog (category, files) => update (fun _ => files) category catalog) catalog

def ofDirectories (disk : Disk) (recursion : Nat) (directories : List String) : Catalog :=
  directories.foldl (fun catalog directory => catalog.override (ofDirectory disk recursion directory))
    []

end Catalog

end LogQuery
