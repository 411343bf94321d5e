import JiraMarkup.File

/-!
# Directories

A directory with all that is in it, as a file system: paths lead down from it
by names, and up again by two dots, but not out of it.
-/

namespace JiraMarkup

inductive Entry where
  | file (contents : ByteArray)
  | directory

/-- Where an entry is: the names that lead to it, the last one first. -/
abbrev Location := List Text

structure Directory where
  entries : List (Location × Entry)

namespace Directory

def entry? (d : Directory) (l : Location) : Option Entry :=
  (d.entries.find? (·.1 == l)).map (·.2)

def put (l : Location) (e : Entry) : List (Location × Entry) → List (Location × Entry)
  | [] => [(l, e)]
  | (l', e') :: entries => if l' = l then (l, e) :: entries else (l', e') :: put l e entries

def ofEntries (entries : List (Text × Entry)) : Directory :=
  ⟨entries.map fun (name, e) => ([name], e)⟩

def files (d : Directory) : List (Text × ByteArray) :=
  d.entries.filterMap fun
    | ([name], .file contents) => some (name, contents)
    | _ => none

/-! ## Paths -/

def maxNameSize : Nat := 255

def maxPathSize : Nat := 4095

def byteSize (t : Text) : Nat := (String.ofList t).utf8ByteSize

inductive Target where
  | directory
  | file (l : Location) (contents : ByteArray)
  /-- Nothing yet, in a directory that is there. -/
  | vacant (l : Location)

def follow (d : Directory) (l : Location) : List Text → Except FileError Target
  | [] => .ok .directory
  | name :: names =>
    if name = ['.'] then d.follow l names
    else if name = ['.', '.'] then
      match l with
      | [] => .error .notFound
      | _ :: l => d.follow l names
    else if maxNameSize < byteSize name then .error .nameTooLong
    else
      match d.entry? (name :: l), names with
      | none, [] => .ok (.vacant (name :: l))
      | none, _ => .error .notFound
      | some (.file contents), [] => .ok (.file (name :: l) contents)
      | some (.file _), _ => .error .notDirectory
      | some .directory, names => d.follow (name :: l) names

/-- What a path leads to; those from the root lead out of the directory. -/
def find (d : Directory) (p : Path) : Except FileError Target :=
  if p.isEmpty || p.head? == some '/' then .error .notFound
  else if maxPathSize < byteSize p then .error .nameTooLong
  else d.follow [] ((p.splitOn '/').filter (!·.isEmpty))

def endsInSlash (p : Path) : Bool := p.getLast? == some '/'

/-! ## Reading and writing -/

def read (d : Directory) (p : Path) : Except FileError ByteArray := do
  match ← d.find p with
  | .directory => .error .isDirectory
  | .file _ contents => if endsInSlash p then .error .notDirectory else .ok contents
  | .vacant _ => .error .notFound

def writeAt (d : Directory) (p : Path) (l : Location) (contents : ByteArray) :
    Except FileError Directory :=
  if endsInSlash p then .error .isDirectory else .ok ⟨put l (.file contents) d.entries⟩

def write (d : Directory) (p : Path) (contents : ByteArray) : Except FileError Directory := do
  match ← d.find p with
  | .directory => .error .isDirectory
  | .file l _ => d.writeAt p l contents
  | .vacant l => d.writeAt p l contents

instance : FileSystem Directory := ⟨read, write⟩

end Directory

end JiraMarkup
