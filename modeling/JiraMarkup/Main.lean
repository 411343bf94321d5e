import JiraMarkup.Program

/-!
# Command line

The program on the machine that it is started on.
-/

namespace JiraMarkup.Program

/-- The error of a number, which may be given as a negative word. -/
def numberedError (code : UInt32) (description : String) : FileError :=
  .ofCode (if code < 0x80000000 then code else -code).toNat description

def fileError : IO.Error → FileError
  | .noFileOrDirectory _ code description => numberedError code description
  | .noSuchThing _ code description => numberedError code description
  | .inappropriateType _ code description => numberedError code description
  | .invalidArgument _ code description => numberedError code description
  | .permissionDenied _ code description => numberedError code description
  | .alreadyExists _ code description => numberedError code description
  | .resourceExhausted _ code description => numberedError code description
  | .otherError code description => numberedError code description
  | e => .other 0 (toString e)

def attempt {α : Type} (action : IO α) : IO (Except FileError α) := do
  try return .ok (← action)
  catch e => return .error (fileError e)

def fileNamed (path : Path) : String := String.ofList path

partial def readAll (stream : IO.FS.Stream) (before : ByteArray) : IO ByteArray := do
  let bytes ← stream.read 65536
  if bytes.isEmpty then return before else readAll stream (before ++ bytes)

instance : Host IO where
  readFile path := attempt (IO.FS.readBinFile (fileNamed path))
  readInput := attempt do readAll (← IO.getStdin) .empty
  writeFile path contents := attempt (IO.FS.writeBinFile (fileNamed path) contents)
  writeOutput bytes := attempt do
    let out ← IO.getStdout
    out.write bytes
    out.flush
  log line := do (← IO.getStderr).putStrLn line
  complain t := do (← IO.getStderr).putStr t

end JiraMarkup.Program

def main (args : List String) : IO UInt32 := do
  let filter ← IO.getEnv "RUST_LOG"
  let status ← JiraMarkup.Program.run .plain (filter.map String.toList) (args.map String.toList)
  return status.code
