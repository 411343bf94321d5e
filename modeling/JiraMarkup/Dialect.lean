import JiraMarkup.BlockMarkup
import JiraMarkup.Inline
import JiraMarkup.LineMarkup
import JiraMarkup.Text.Quoted

/-!
# Dialects

A dialect is a chain of stages that turns a document of wiki markup into
Markdown. Each stage rewrites either every line or the joined text, and the
conversion can be followed by its records: the styles that a stage found, and
the number of lines before and behind it.
-/

namespace JiraMarkup

/-! ## Stages -/

inductive Rule where
  | line (rewrite : Text → Text)
  | document (rewrite : Text → Text)

namespace Rule

def kind : Rule → String
  | line _ => "line"
  | document _ => "document"

def onText : Rule → Text → Text
  | line f => f
  | document f => f

def apply : Rule → Document → Document
  | line f => Document.mapLines f
  | document f => Document.mapText f

end Rule

structure Stage where
  name : String
  rule : Rule
  styles : Text → List String := fun _ => []

namespace Stage

def apply (s : Stage) (d : Document) : Document := s.rule.apply d

def describe (s : Stage) : String :=
  "Stage \x7b name: " ++ Quoted.quote s.name ++ ", kind: " ++ Quoted.quote s.rule.kind ++ " \x7d"

def bulletList : Stage := ⟨"bullet_list", .line bulletItem.apply, fun _ => []⟩

def numberedList : Stage := ⟨"numbered_list", .line numberedItem.apply, fun _ => []⟩

def header : Stage := ⟨"header", .line heading.apply, fun _ => []⟩

def tableHeader : Stage := ⟨"table_header", .document soleTableHeader.apply, fun _ => []⟩

def codeBlock : Stage := ⟨"code_block", .document JiraMarkup.codeBlock.apply, fun _ => []⟩

def panelToTable : Stage := ⟨"panel_to_table", .document panelTable.apply, fun _ => []⟩

def inlineStyles : Stage :=
  ⟨"inline_styles", .line JiraMarkup.inlineStyles, firingStyles inlineChain⟩

def tableHeaderLines : Stage := ⟨"table_header_lines", .document tableHeaders.apply, fun _ => []⟩

def tableIndent : Stage := ⟨"table_indent", .line JiraMarkup.tableIndent.apply, fun _ => []⟩

end Stage

/-! ## Records of a conversion -/

inductive Record where
  | styleApplied (style : String)
  | stageApplied (stage : String) (linesIn linesOut : Nat)
deriving DecidableEq

/-- The records of one stage, the styles it finds line by line before its own. -/
def Stage.records (s : Stage) (d : Document) : List Record :=
  (d.lines.flatMap s.styles).map .styleApplied ++ [.stageApplied s.name d.size (s.apply d).size]

/-! ## Chains -/

inductive Dialect where
  /-- Converts a header row only where it is the whole document, and knows no panels. -/
  | legacy
  /-- Converts header rows and panels anywhere, and strips the indentation of table rows. -/
  | corrected
deriving DecidableEq, Inhabited

namespace Dialect

/-- In the corrected chain table heads are written behind the inline styles,
so that separator rows are not read as struck text. -/
def stages : Dialect → List Stage
  | legacy =>
    [.bulletList, .numberedList, .header, .tableHeader, .codeBlock, .inlineStyles]
  | corrected =>
    [.bulletList, .numberedList, .header, .codeBlock, .panelToTable, .inlineStyles,
      .tableHeaderLines, .tableIndent]

def convertDocument (dialect : Dialect) (d : Document) : Document :=
  dialect.stages.foldl (fun d s => s.apply d) d

def convert (dialect : Dialect) (t : Text) : Text :=
  (dialect.convertDocument (.ofText t)).toText

def recordsOf : List Stage → Document → List Record
  | [], _ => []
  | s :: stages, d => s.records d ++ recordsOf stages (s.apply d)

def records (dialect : Dialect) (d : Document) : List Record := recordsOf dialect.stages d

def stage? (dialect : Dialect) (name : String) : Option Stage :=
  dialect.stages.find? (·.name == name)

/-! ## Names -/

def name : Dialect → String
  | legacy => "legacy"
  | corrected => "corrected"

def constructorName : Dialect → String
  | legacy => "Legacy"
  | corrected => "Corrected"

structure UnknownDialect where
  name : String
deriving DecidableEq

def UnknownDialect.message (e : UnknownDialect) : String :=
  "unknown dialect " ++ Quoted.quote e.name ++ ", expected \"legacy\" or \"corrected\""

/-- Reads a name in any case of the ASCII letters. -/
def ofName (s : String) : Except UnknownDialect Dialect :=
  let lower := s.toList.map Char.toLower
  if lower = "legacy".toList then .ok legacy
  else if lower = "corrected".toList then .ok corrected
  else .error ⟨s⟩

end Dialect

end JiraMarkup
