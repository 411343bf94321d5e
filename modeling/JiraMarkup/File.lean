import JiraMarkup.Text

/-!
# Files

Files are read and written whole, under a path. What can go wrong with one is
told in the words of the operating system, with its number for the case.
-/

namespace JiraMarkup

abbrev Path := Text

inductive FileError where
  | notFound
  | denied
  | notDirectory
  | isDirectory
  | nameTooLong
  | other (code : Nat) (description : String)
deriving DecidableEq

namespace FileError

def ofCode (code : Nat) (description : String) : FileError :=
  match code with
  | 2 => notFound
  | 13 => denied
  | 20 => notDirectory
  | 21 => isDirectory
  | 36 => nameTooLong
  | _ => other code description

def code : FileError → Nat
  | notFound => 2
  | denied => 13
  | notDirectory => 20
  | isDirectory => 21
  | nameTooLong => 36
  | other code _ => code

def description : FileError → String
  | notFound => "No such file or directory"
  | denied => "Permission denied"
  | notDirectory => "Not a directory"
  | isDirectory => "Is a directory"
  | nameTooLong => "File name too long"
  | other _ description => description

def message (e : FileError) : String := e.description ++ " (os error " ++ toString e.code ++ ")"

end FileError

/-! ## Texts in files -/

inductive ReadError where
  | file (e : FileError)
  | invalidUtf8
deriving DecidableEq

def ReadError.message : ReadError → String
  | file e => e.message
  | invalidUtf8 => "stream did not contain valid UTF-8"

def decodeUtf8 (bytes : ByteArray) : Except ReadError Text :=
  match String.fromUTF8? bytes with
  | some s => .ok s.toList
  | none => .error .invalidUtf8

def readText : Except FileError ByteArray → Except ReadError Text
  | .ok bytes => decodeUtf8 bytes
  | .error e => .error (.file e)

def encodeUtf8 (t : Text) : ByteArray := (String.ofList t).toUTF8

/-! ## File systems -/

/-- States of a file system, which change only where writing succeeds. -/
class FileSystem (F : Type) where
  read : F → Path → Except FileError ByteArray
  write : F → Path → ByteArray → Except FileError F

end JiraMarkup
