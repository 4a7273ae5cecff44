import LogQuery.Files.Disk

/-! Walks through a directory and those below it. Links are followed, but never into a directory
that the walk is in already. -/

set_option autoImplicit false

namespace LogQuery.Disk

structure Sighting where
  path : String
  within : List String
  name : String
  deriving DecidableEq, Repr

structure Position where
  path : String
  within : List String := []
  place : Place
  around : List Place

def Position.below (position : Position) (name : String) (place : Place) : Position where
  path := Path.join position.path name
  within := position.within ++ [name]
  place
  around := place :: position.around

/-- The files in a directory and up to `depth - 1` levels below it. -/
def walkFrom (disk : Disk) : (depth : Nat) → Position → List Sighting
  | 0, _ => []
  | depth + 1, position =>
    (disk.namesIn position.place).flatMap fun name =>
      let sighting : Sighting := ⟨Path.join position.path name, position.within, name⟩
      let place := position.place ++ [name]
      match disk.entry? place with
      | some (.file _) => [sighting]
      | some .directory => walkFrom disk depth (position.below name place)
      | some (.link _) =>
        match disk.follow linkLimit [name] position.place with
        | .error _ => []
        | .ok place =>
          match disk.entry? place with
          | some (.file _) => [sighting]
          | some .directory =>
            if position.around.contains place then []
            else walkFrom disk depth (position.below name place)
          | _ => []
      | none => []

def walk (disk : Disk) (depth : Nat) (path : String) : List Sighting :=
  match disk.find path with
  | .error _ => []
  | .ok place =>
    match disk.entry? place with
    | some .directory => disk.walkFrom depth { path, place, around := [place] }
    | _ => []

end LogQuery.Disk
