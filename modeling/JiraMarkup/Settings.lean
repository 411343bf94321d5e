import JiraMarkup.Issue
import JiraMarkup.Markdown.Tree
import JiraMarkup.Text.Quoted
import JiraMarkup.Toml.Document

/-!
# Settings

What a settings file may say: the dialect, the footer of issues, and the
extensions that a preview reads. Whatever the file leaves out has its default,
each setting by itself, and what it says beyond these is ignored.
-/

namespace JiraMarkup

structure Settings where
  dialect : Dialect
  footer : Text
  extensions : Markdown.Extensions
deriving DecidableEq

namespace Settings

def defaultFooter : Text :=
  ("----\n" ++
    "If you're interested please comment here and come [join our \"Contributors\" community " ++
    "channel](https://community.mattermost.com/core/channels/tickets) on our daily build " ++
    "server, where you can discuss questions with community members and the Mattermost core " ++
    "team. For technical advice or questions, please  [join our \"Developers\" community " ++
    "channel](https://community.mattermost.com/core/channels/developers).\n\n" ++
    "New contributors please see our [Developer's Guide]" ++
    "(https://developers.mattermost.com/contribute/getting-started/).\n\n" ++
    "JIRA: https://mattermost.atlassian.net/browse/" ++ ticketMark ++ "\n").toList

def default : Settings := ⟨.legacy, defaultFooter, ⟨true, true⟩⟩

/-! ## Faults -/

inductive Expectation where
  | string
  | boolean
  | converterSection
  | issueSection
  | previewSection

def Expectation.describe : Expectation → String
  | string => "a string"
  | boolean => "a boolean"
  | converterSection => "struct ConverterConfig"
  | issueSection => "struct IssueConfig"
  | previewSection => "struct PreviewConfig"

inductive Cause where
  | invalidType (found : String) (expected : Expectation)
  | unknownDialect (name : Text)
  /-- A dialect as a table must have one key, with an empty value. -/
  | malformedDialect
  | numberTooLarge

structure Fault where
  cause : Cause
  position : Toml.Position

def Cause.message? : Cause → Option String
  | invalidType found expected => s!"invalid type: {found}, expected {expected.describe}"
  | unknownDialect name =>
    some ("unknown variant \x60" ++ String.ofList name ++
      "\x60, expected \x60legacy\x60 or \x60corrected\x60")
  | malformedDialect => none
  | numberTooLarge => none

/-! ## Values -/

def describeNumber (kind : String) (number : String) : String :=
  kind ++ " \x60" ++ number ++ "\x60"

/-- An integer with the width that it takes, beyond that of a machine word. -/
def describeInteger (n : Int) : String :=
  let shown := describeNumber "integer" (toString n)
  if -Int.pow 2 63 ≤ n ∧ n < Int.pow 2 64 then shown
  else if -Int.pow 2 127 ≤ n ∧ n < Int.pow 2 127 then shown ++ " as i128"
  else shown ++ " as u128"

def describeFloat (negative : Bool) (m : Toml.Magnitude) : String :=
  let signed := fun s => if negative then "-" ++ s else s
  describeNumber "floating point" <| match m with
    | .finite b => signed (String.ofList (Decimal.write b))
    | .infinite => signed "inf"
    | .notANumber => "NaN"
    | .tooLarge => signed "inf"

def describe : Toml.Value → String
  | .string s => "string " ++ Quoted.quote (String.ofList s)
  | .integer n => describeInteger n
  | .float negative m => describeFloat negative m
  | .boolean b => describeNumber "boolean" (toString b)
  | .dateTime => "map"
  | .array _ => "sequence"
  | .table _ => "map"

def isTooLarge : Toml.Value → Bool
  | .integer n => n < -Int.pow 2 127 || Int.pow 2 128 ≤ n
  | .float _ .tooLarge => true
  | _ => false

def mismatch {α : Type} (expected : Expectation) (position : Toml.Position) (v : Toml.Value) :
    Except Fault α :=
  if isTooLarge v then .error ⟨.numberTooLarge, position⟩
  else .error ⟨.invalidType (describe v) expected, position⟩

def readString (position : Toml.Position) : Toml.Value → Except Fault Text
  | .string s => .ok s
  | v => mismatch .string position v

def readBoolean (position : Toml.Position) : Toml.Value → Except Fault Bool
  | .boolean b => .ok b
  | v => mismatch .boolean position v

def dialectNamed (name : Text) (position : Toml.Position) : Except Fault Dialect :=
  if name = "legacy".toList then .ok .legacy
  else if name = "corrected".toList then .ok .corrected
  else .error ⟨.unknownDialect name, position⟩

/-- The name of a dialect, or a table with the name as its only key. -/
def readDialect (position : Toml.Position) : Toml.Value → Except Fault Dialect
  | .string s => dialectNamed s position
  | .table [(key, p, v)] => do
    let dialect ← dialectNamed key.name key.position
    match v with
    | .table [] => return dialect
    | .array [] => return dialect
    | _ => .error ⟨.malformedDialect, p⟩
  | _ => .error ⟨.malformedDialect, position⟩

mutual

/-- What is ignored must still be a value. -/
def ignore (position : Toml.Position) : Toml.Value → Except Fault Unit
  | .array items => ignoreItems items
  | .table entries => ignoreEntries entries
  | .integer n =>
    if isTooLarge (.integer n) then .error ⟨.numberTooLarge, position⟩ else .ok ()
  | .float negative m =>
    if isTooLarge (.float negative m) then .error ⟨.numberTooLarge, position⟩ else .ok ()
  | .string _ => .ok ()
  | .boolean _ => .ok ()
  | .dateTime => .ok ()

def ignoreItems : List (Toml.Position × Toml.Value) → Except Fault Unit
  | [] => .ok ()
  | (p, v) :: items => do ignore p v; ignoreItems items

def ignoreEntries : List (Toml.Key × Toml.Position × Toml.Value) → Except Fault Unit
  | [] => .ok ()
  | (_, p, v) :: entries => do ignore p v; ignoreEntries entries

end

/-! ## Sections -/

structure Field where
  name : String
  set : Settings → Toml.Position → Toml.Value → Except Fault Settings

def dialectField : Field :=
  ⟨"dialect", fun s p v => (fun d => { s with dialect := d }) <$> readDialect p v⟩

def footerField : Field :=
  ⟨"footer", fun s p v => (fun t => { s with footer := t }) <$> readString p v⟩

def tablesField : Field :=
  ⟨"tables", fun s p v =>
    (fun b => { s with extensions := { s.extensions with tables := b } }) <$>
      readBoolean p v⟩

def strikethroughField : Field :=
  ⟨"strikethrough", fun s p v =>
    (fun b => { s with extensions := { s.extensions with strikethrough := b } }) <$>
      readBoolean p v⟩

def setEntries (fields : List Field) (s : Settings) : List Toml.Entry → Except Fault Settings
  | [] => .ok s
  | (key, p, v) :: entries =>
    match fields.find? (·.name.toList == key.name) with
    | some field => do setEntries fields (← field.set s p v) entries
    | none => do ignore p v; setEntries fields s entries

def setItems (s : Settings) : List Field → List (Toml.Position × Toml.Value) →
    Except Fault Settings
  | field :: fields, (p, v) :: items => do setItems (← field.set s p v) fields items
  | _, _ => .ok s

/-- A section is a table, or an array of its settings in order. -/
def readSection (fields : List Field) (expected : Expectation) (s : Settings)
    (position : Toml.Position) : Toml.Value → Except Fault Settings
  | .table entries => setEntries fields s entries
  | .array items => setItems s fields items
  | .dateTime => .ok s
  | v => mismatch expected position v

def sections : List Field :=
  [⟨"converter", readSection [dialectField] .converterSection⟩,
    ⟨"issue", readSection [footerField] .issueSection⟩,
    ⟨"preview", readSection [tablesField, strikethroughField] .previewSection⟩]

/-- The settings of a table; the first fault in the order of keys counts. -/
def ofTable (t : Toml.Table) : Except Fault Settings := setEntries sections default t

end Settings

end JiraMarkup
