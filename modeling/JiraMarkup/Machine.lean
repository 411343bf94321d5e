import JiraMarkup.Program

/-!
# Machines

A machine as a value: a file system, and the streams of one run on it. Runs
on machines are what there is to reason about.
-/

namespace JiraMarkup

abbrev Input := Except FileError ByteArray

instance : Coe ByteArray Input := ⟨.ok⟩

/-- A stream that takes bytes in their order, until it fails. -/
structure Sink where
  taken : ByteArray
  /-- how many more bytes it takes before it fails, and with which error; or else it takes all -/
  limit : Option (Nat × FileError)

namespace Sink

def empty : Sink := ⟨.empty, none⟩

def write (s : Sink) (bytes : ByteArray) : Except FileError Unit × Sink :=
  match s.limit with
  | none => (.ok (), ⟨s.taken ++ bytes, none⟩)
  | some (room, e) =>
    if bytes.size ≤ room then (.ok (), ⟨s.taken ++ bytes, some (room - bytes.size, e)⟩)
    else (.error e, ⟨s.taken ++ bytes.extract 0 room, some (0, e)⟩)

end Sink

structure Machine (F : Type) where
  files : F
  input : Input
  output : Sink := .empty
  log : List String := []
  complaints : String := ""

namespace Machine

open Program

variable {F : Type} [FileSystem F]

def readFile (path : Path) (machine : Machine F) : Except FileError ByteArray :=
  FileSystem.read machine.files path

def writeFile (path : Path) (contents : ByteArray) (machine : Machine F) :
    Except FileError Unit × Machine F :=
  match FileSystem.write machine.files path contents with
  | .ok files => (.ok (), { machine with files })
  | .error e => (.error e, machine)

def writeOutput (bytes : ByteArray) (machine : Machine F) : Except FileError Unit × Machine F :=
  let (result, output) := machine.output.write bytes
  (result, { machine with output })

instance : Host (StateM (Machine F)) where
  readFile path := do return (← get).readFile path
  readInput := do return (← get).input
  writeFile path contents := modifyGet (writeFile path contents)
  writeOutput bytes := modifyGet (writeOutput bytes)
  log line := modify fun machine => { machine with log := machine.log ++ [line] }
  complain t := modify fun machine => { machine with complaints := machine.complaints ++ t }

def run (wording : Settings.Wording) (filter : Option Text) (args : List Text) (machine : Machine F) :
    Status × Machine F :=
  (Program.run wording filter args : StateM (Machine F) Status) machine

end Machine

end JiraMarkup
