import Migrations.Error
import Migrations.Path

namespace Migrations

inductive Content where
  | text (t : Text)
  | binary (bytes : List UInt8)
  deriving DecidableEq, Repr

inductive Entry where
  | file (content : Content)
  | directory
  deriving DecidableEq, Repr

/-- The disk as a tree of directories and files below the working directory. The first entry of a
place counts. Operations fail only because of a file or a directory in the way. -/
structure Disk where
  entries : List (Location × Entry)
  deriving DecidableEq, Repr

namespace Disk

def empty : Disk := ⟨[]⟩

/-- What stands at a place. The working directory and all above it are always there. -/
def get? (d : Disk) (place : Location) : Option Entry :=
  if Path.isAnchor place then some .directory else (d.entries.find? (·.1 = place)).map (·.2)

def put (d : Disk) (place : Location) (entry : Entry) : Disk :=
  ⟨(place, entry) :: d.entries.filter (·.1 ≠ place)⟩

def erase (d : Disk) (place : Location) : Disk := ⟨d.entries.filter (·.1 ≠ place)⟩

def eraseTree (d : Disk) (place : Location) : Disk :=
  ⟨d.entries.filter fun e => !place.isPrefixOf e.1⟩

def file? (d : Disk) (place : Location) : Option Content :=
  match d.get? place with
  | some (.file content) => some content
  | _ => none

def isFile (d : Disk) (place : Location) : Bool := (d.file? place).isSome

def isDirectory (d : Disk) (place : Location) : Bool := d.get? place = some .directory

def filesIn (d : Disk) (directory : Location) : List Text :=
  (d.entries.map (·.1)).filterMap fun place =>
    match place.getLast? with
    | some name => if place.dropLast = directory ∧ d.isFile place then some name else none
    | none => none

/-- Makes the directories that are missing on the way from `place` through `parts`. Behind one that
was made, a file in the way counts as one that exists already. -/
def makeDirectories (d : Disk) (parts : List Text) (place : Location := []) (made : Bool := false) :
    Except DiskFault Disk :=
  match parts with
  | [] => .ok d
  | part :: rest =>
    let next := Path.follow place part
    match d.get? next with
    | some .directory => d.makeDirectories rest next made
    | some (.file _) => .error (if made || rest = [] then .alreadyExists else .notDirectory)
    | none => (d.put next .directory).makeDirectories rest next true

/-- Follows the parts of a path from a place. Nothing stands below a file, and what is missing has
nothing above it. -/
def walk (d : Disk) (place : Location) : List Text → Except DiskFault Location
  | [] => .ok place
  | part :: rest =>
    match d.get? place with
    | some .directory => d.walk (Path.follow place part) rest
    | some (.file _) => .error .notDirectory
    | none =>
      if part = Path.above then .error .notFound else d.walk (Path.follow place part) rest

def follow (d : Disk) (path : Text) : Except DiskFault Location :=
  d.walk (Path.start path) (Path.parts path)

/-- The place that a path leads to, where nothing has to stand yet. -/
def locate (d : Disk) (path : Text) : Except DiskFault Location :=
  if path = [] then .error .notFound else d.follow path

def filesAt (d : Disk) (directory : Text) : List Text :=
  match d.locate directory with
  | .ok place => d.filesIn place
  | .error _ => []

def reaches (d : Disk) (path : Text) : Bool :=
  (d.locate path).toOption.any fun place => (d.get? place).isSome

def reachesFile (d : Disk) (path : Text) : Bool := (d.locate path).toOption.any d.isFile

def readText (d : Disk) (path : Text) : Except DiskFault Text :=
  match d.locate path with
  | .error fault => .error fault
  | .ok place =>
    match d.get? place with
    | some (.file (.text t)) => .ok t
    | some (.file (.binary _)) => .error .notText
    | some .directory => .error .isDirectory
    | none => .error .notFound

def replaceFile (d : Disk) (path : Text) (content : Content) : Except DiskFault Disk :=
  if Path.namesDirectory path then .error .isDirectory
  else
    match d.locate path with
    | .error fault => .error fault
    | .ok place =>
      if d.isDirectory place then .error .isDirectory
      else if d.isDirectory place.dropLast then .ok (d.put place (.file content))
      else .error .notFound

def moveFile (d : Disk) (source : Location) (path : Text) : Except DiskFault Disk :=
  match d.file? source with
  | none => .error .notFound
  | some content => (d.erase source).replaceFile path content

def removeFile (d : Disk) (path : Text) : Except DiskFault Disk :=
  match d.locate path with
  | .error fault => .error fault
  | .ok place =>
    match d.get? place with
    | some (.file _) => .ok (d.erase place)
    | some .directory => .error .isDirectory
    | none => .error .notFound

theorem get?_put (d : Disk) {place : Location} (h : Path.isAnchor place = false) (entry : Entry)
    (other : Location) :
    (d.put place entry).get? other = if other = place then some entry else d.get? other := by
  by_cases he : other = place
  · subst he
    simp [get?, put, h]
  · have hne : ¬ place = other := fun e => he e.symm
    simp only [get?, put, he, if_false, List.find?_cons, hne, decide_false, List.find?_filter]
    congr 3
    funext e
    by_cases hp : e.1 = other
    · simp [hp, he]
    · simp [hp]

theorem get?_erase_of_ne (d : Disk) {place other : Location} (h : other ≠ place) :
    (d.erase place).get? other = d.get? other := by
  simp only [get?, erase, List.find?_filter]
  congr 3
  funext e
  by_cases hp : e.1 = other
  · simp [hp, h]
  · simp [hp]

theorem get?_erase (d : Disk) {place : Location} (h : Path.isAnchor place = false)
    (other : Location) :
    (d.erase place).get? other = if other = place then none else d.get? other := by
  by_cases he : other = place
  · subst he
    simp [get?, erase, h, List.find?_eq_none]
  · rw [if_neg he, get?_erase_of_ne d he]

end Disk

end Migrations
