/-!
# Files

A tree of directories and files, addressed by paths from the working directory. Letter case counts. Every step
of a path but the last leads into a directory.
-/
namespace Xbase.Session

inductive Node where
  | file (bytes : List UInt8)
  | directory
deriving DecidableEq, Repr

/-- A place in the tree: the steps on the way to it from the working directory. Steps upwards, which are two
points, come first; the others are the names of directories, and its own. -/
abbrev Place := List String

def Place.parent (place : Place) : Place :=
  if place.all (· = "..") then place ++ [".."] else place.dropLast

/-- The steps of a path. A step that is empty or a point stays in its directory, two points go up. -/
def steps (path : String) : List String := path.splitOn "/"

def isStay (step : String) : Bool := step = "" || step = "."

/-- A tree of directories and files. The working directory is always there, and so are those above it. -/
structure Files where
  nodes : List (Place × Node)
deriving Repr

namespace Files

def empty : Files := ⟨[]⟩

def nodeAt (files : Files) (place : Place) : Option Node :=
  if place.all (· = "..") then some .directory else files.nodes.lookup place

/-- Puts a node at a place, instead of what is there. -/
def put (files : Files) (place : Place) (node : Node) : Files :=
  ⟨(place, node) :: files.nodes.filter (·.1 ≠ place)⟩

/-- The place that steps lead to from a directory. The last step need not lead to anything. -/
def locate (files : Files) (place : Place) : List String → Option Place
  | [] => some place
  | step :: rest =>
    if files.nodeAt place ≠ some .directory then none
    else if isStay step then locate files place rest
    else if step = ".." then locate files place.parent rest
    else locate files (place ++ [step]) rest

def read? (files : Files) (path : String) : Option (List UInt8) := do
  match ← files.nodeAt (← files.locate [] (steps path)) with
  | .file bytes => some bytes
  | .directory => none

def makeDirectories (files : Files) (place : Place) : List String → Option (Files × Place)
  | [] => some (files, place)
  | step :: rest =>
    if isStay step then makeDirectories files place rest
    else if step = ".." then makeDirectories files place.parent rest
    else
      let place := place ++ [step]
      match files.nodeAt place with
      | none => makeDirectories (files.put place .directory) place rest
      | some .directory => makeDirectories files place rest
      | some (.file _) => none

/-- Makes a directory, and those on the way to it. -/
def makeDirectory (files : Files) (path : String) : Option Files :=
  (files.makeDirectories [] (steps path)).map (·.1)

/-- Writes a file and makes the directories on the way to it. -/
def write (files : Files) (path : String) (bytes : List UInt8) : Option Files := do
  let (files, directory) ← files.makeDirectories [] (steps path).dropLast
  let name ← (steps path).getLast?
  if isStay name || name = ".." then none
  else
    let place := directory ++ [name]
    if files.nodeAt place = some .directory then none else some (files.put place (.file bytes))

def remove (files : Files) (path : String) : Option Files := do
  let place ← files.locate [] (steps path)
  match ← files.nodeAt place with
  | .file _ => some ⟨files.nodes.filter (·.1 ≠ place)⟩
  | .directory => none

end Files

/-- The last step of a path without its extension, which starts at the last point but not at the first
character. -/
def stem (name : String) : String :=
  match name.toList.reverse.dropWhile (· ≠ '.') with
  | [] => name
  | [_] => name
  | _ :: before => String.ofList before.reverse

def tableName (path : String) : String := stem ((steps path).getLast?.getD "")

/-- The last step of a path with another extension. A name that is only a point takes none: with the point of
an extension it is the step upwards. -/
def extend (name extension : String) : String :=
  if name = "." then ".." else name ++ "." ++ extension

def withExtension (path extension : String) : String :=
  "/".intercalate ((steps path).dropLast ++ [extend (tableName path) extension])

end Xbase.Session
