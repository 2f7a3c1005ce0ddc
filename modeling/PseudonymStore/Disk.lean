import PseudonymStore.Text.Path
import PseudonymStore.StoreError
/-!
# The disk

What lies where a database is to be opened.  A missing file is created along with the directories above it, and an empty
file counts as a new database.  Everything else that is no database is refused, each obstacle in its own layer.
-/
namespace PseudonymStore

inductive DiskEntry where
  | directory
  | file (text : String)
  | database

/-- A place on a disk as seen from the working directory: names from the innermost outwards.  The directories above the
working directory are those whose names are all two dots. -/
abbrev Place := List String

namespace Place

def enter (place : Place) (name : String) : Place :=
  if name ≠ ".." then name :: place
  else if place.all (· = "..") then ".." :: place
  else place.drop 1

end Place

abbrev Disk := List (Place × DiskEntry)

namespace Disk

def entry? (d : Disk) (place : Place) : Option DiskEntry :=
  if place.all (· = "..") then some .directory else (d.find? (·.1 = place)).map (·.2)

def put (d : Disk) (place : Place) (entry : DiskEntry) : Disk :=
  (place, entry) :: d.filter (·.1 ≠ place)

/-- Goes from a directory along names and makes the directories that are missing: the disk then, and the place arrived
at. -/
def makeDirectories? (d : Disk) (place : Place) : (names : List String) → Option (Disk × Place)
  | [] => some (d, place)
  | name :: names =>
    let next := place.enter name
    if !Path.isName name then none
    else match d.entry? next with
      | some .directory => d.makeDirectories? next names
      | none => (d.put next .directory).makeDirectories? next names
      | some _ => none

/-- Opens the database at a path, or tells why it cannot be opened.  A path that ends like that of a directory is
refused even where nothing is yet. -/
def openAt (d : Disk) (path : String) : Except StoreError Unit :=
  let names := (Path.parts path).names
  let refuse layer detail := .error ((StoreError.ofFault ⟨layer, detail⟩).inOperation "open" none)
  match names.getLast? with
  | none => refuse .database "I/O error: Is a directory"
  | some name =>
    match if Path.fits (Path.directory path) then d.makeDirectories? [] names.dropLast else none with
    | none => refuse .file "Not a directory"
    | some (d, place) =>
      if Path.endsInDirectory path ∨ !Path.isName name ∨ !Path.fits path then
        refuse .database "I/O error: Not a file"
      else match d.entry? (place.enter name) with
        | none | some .database => .ok ()
        | some .directory => refuse .database "I/O error: Is a directory"
        | some (.file text) =>
          if text = "" then .ok () else refuse .database "I/O error: Data was not a database file"

end Disk

end PseudonymStore
