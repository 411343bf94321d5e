import JiraMarkup.Proofs.PlainText
import JiraMarkup.Proofs.SeparatorRows
import JiraMarkup.Proofs.SettledLines

/-!
# Table heads in both dialects

The legacy dialect writes a table head before the inline styles are read, and
they take the rules of the separator row for struck text: the last dash of a
rule ends what the first dash of the rule in front of it has begun. So the rules
go two by two, and one of an odd number is left. The corrected dialect writes
table heads behind the inline styles.
-/

namespace JiraMarkup

/-! ## Rows of cells -/

/-- What can stand in a cell without a style having a say. -/
structure HeadCell where
  text : Text
  ne_nil : text ≠ []
  lettered : Lettered "0123456789" text

theorem HeadCell.not_mem (cell : HeadCell) {c : Char}
    (hc : isLetter c = false ∧ c ∉ "0123456789".toList := by decide) : c ∉ cell.text := cell.lettered.not_mem hc

def doubleBarredRow (cells : List Text) : Text := cells.flatMap ("||".toList ++ ·) ++ "||".toList

theorem doubleBarredRow_cons (cell : Text) (cells : List Text) :
    doubleBarredRow (cell :: cells) = "||".toList ++ (cell ++ doubleBarredRow cells) := by
  simp [doubleBarredRow]

theorem head?_doubleBarredRow (cells : List Text) : (doubleBarredRow cells).head? = some '|' := by
  cases cells with
  | nil => rfl
  | cons cell cells => rw [doubleBarredRow_cons]; rfl

theorem halvedBars_doubleBarredRow {cells : List Text} (h : ∀ cell ∈ cells, cell ≠ [] ∧ '|' ∉ cell) :
    halvedBars (doubleBarredRow cells) = barredRow cells := by
  induction cells with
  | nil => exact halvedBars_bars 1 (by simp)
  | cons cell cells ih =>
    rw [List.forall_mem_cons] at h
    obtain ⟨⟨hne, hcell⟩, hcells⟩ := h
    have hnext : ∀ c ∈ (doubleBarredRow cells).head?, c = '|' := by simp [head?_doubleBarredRow]
    have hhead : ∀ c ∈ (cell ++ doubleBarredRow cells).head?, c ≠ '|' := by
      obtain ⟨c, cell, rfl⟩ := List.exists_cons_of_ne_nil hne
      rintro d hd rfl
      exact hcell (Option.some.inj hd ▸ List.mem_cons_self)
    have hbars := halvedBars_bars 1 hhead
    rw [halvedBars_cell hne hcell hnext, ih hcells] at hbars
    rw [doubleBarredRow_cons, barredRow_cons]
    exact hbars

theorem lettered_doubleBarredRow (cells : List HeadCell) :
    Lettered "|0123456789" (doubleBarredRow (cells.map (·.text))) := by
  induction cells with
  | nil => exact .of_subset (by decide)
  | cons cell cells ih =>
    rw [List.map_cons, doubleBarredRow_cons]
    exact (Lettered.of_subset (by decide)).append (cell.lettered.mono.append ih)

theorem lettered_barredRow (cells : List HeadCell) : Lettered "|0123456789" (barredRow (cells.map (·.text))) := by
  induction cells with
  | nil => exact .of_subset (by decide)
  | cons cell cells ih =>
    rw [List.map_cons, barredRow_cons]
    exact (cell.lettered.mono.append ih).cons (by decide)

theorem exists_headerRow_of_cells {cells : List Text} (hne : cells ≠ []) (hline : '\n' ∉ doubleBarredRow cells) :
    ∃ r : HeaderRow, r.bars = doubleBarredRow cells ∧ r.markup = doubleBarredRow cells := by
  obtain ⟨cell, cells, rfl⟩ := List.exists_cons_of_ne_nil hne
  have hsplit : doubleBarredRow (cell :: cells) =
      "||".toList ++ (cell ++ cells.flatMap ("||".toList ++ ·)) ++ "||".toList := by
    simp [doubleBarredRow]
  rw [hsplit] at hline ⊢
  refine ⟨⟨[], cell ++ cells.flatMap ("||".toList ++ ·), [], by simp, by simp, fun hm => hline ?_⟩, rfl, ?_⟩
  · exact List.mem_append_left _ (List.mem_append_right _ hm)
  · exact List.append_nil _

theorem soleTableHeader_doubleBarredRow {cells : List HeadCell} (hne : cells ≠ []) :
    soleTableHeader.apply (doubleBarredRow (cells.map (·.text))) =
      joinLines [[], barredRow (cells.map (·.text)), ruledRow cells.length] := by
  have hcells : ∀ cell ∈ cells.map (·.text), cell ≠ [] ∧ '|' ∉ cell := by
    simp only [List.forall_mem_map]
    exact fun cell _ => ⟨cell.ne_nil, cell.not_mem⟩
  obtain ⟨row, hbars, hmarkup⟩ := exists_headerRow_of_cells (by simpa using hne)
    (lettered_doubleBarredRow cells).not_mem
  have hheader : row.header = barredRow (cells.map (·.text)) := by
    rw [HeaderRow.header, hbars, halvedBars_doubleBarredRow hcells]
  have hseparator : row.separator = ruledRow cells.length := by
    rw [HeaderRow.separator, hheader, ruledCells_barredRow hcells, List.length_map]
  rw [← hmarkup, row.soleTableHeader_apply, HeaderRow.markdown, hheader, hseparator]
  rfl

/-! ## Struck rules -/

/-- The separator row below `n` cells behind the inline styles. -/
def struckRow (n : Nat) : Text := (List.replicate (n / 2) "| ~~-- | --~~ ".toList).flatten ++ ruledRow (n % 2)

theorem struckRow_add_two (n : Nat) : struckRow (n + 2) = "| ~~-- | --~~ ".toList ++ struckRow n := by
  have hhalf : (n + 2) / 2 = n / 2 + 1 := by omega
  have hodd : (n + 2) % 2 = n % 2 := by omega
  rw [struckRow, struckRow, hhalf, hodd, List.replicate_succ, List.flatten_cons, List.append_assoc]

theorem head?_ruledRow (n : Nat) : (ruledRow n).head? = some '|' := by
  cases n with
  | zero => rfl
  | succ n => rw [ruledRow_succ]; rfl

/-- Two rules are read as struck text, and the search goes on with the bar behind them. -/
theorem strikethrough_rules (rest : Text) (hrest : rest.head? = some '|') :
    strikethrough (" --- | --- ".toList ++ rest) = some ⟨" ~~-- | --~~ ".toList, rest⟩ := by
  obtain ⟨rest, rfl⟩ := List.head?_eq_some_iff.mp hrest
  have hstruck : struck? ("-- | --- ".toList ++ '|' :: rest) = some ("-- | --".toList, ' ' :: '|' :: rest) := rfl
  exact strikethrough_of_struck hstruck

theorem strikethrough_apply_ruledRow (n : Nat) :
    Rewrite.apply ⟨.anywhere, strikethrough⟩ (ruledRow n) = struckRow n := by
  induction n using Nat.twoStepInduction with
  | zero => rfl
  | one => decide
  | more n ih _ =>
    have hne : " --- | --- ".toList ≠ [] := by decide
    have hbar : strikethrough ('|' :: (" --- | --- ".toList ++ ruledRow n)) = none := rfl
    have hrules := strikethrough_rules (ruledRow n) (head?_ruledRow n)
    have hmiss := Rewrite.apply_miss (r := ⟨.anywhere, strikethrough⟩) rfl hbar
    rw [Rewrite.apply_hit rfl hne hrules, ih] at hmiss
    rw [ruledRow_succ, ruledRow_succ, struckRow_add_two]
    exact hmiss

theorem lettered_ruledRow (n : Nat) : Lettered "| -" (ruledRow n) := by
  induction n with
  | zero => exact .of_subset (by decide)
  | succ n ih =>
    rw [ruledRow_succ]
    exact (Lettered.of_subset (by decide)).append ih

theorem lettered_struckRow (n : Nat) : Lettered "| -~" (struckRow n) := by
  rw [← strikethrough_apply_ruledRow]
  have hwritten : ∀ c ∈ "~".toList, c ∈ "| -~".toList := by decide
  exact (lettered_ruledRow n).mono.apply strikethrough_respells fun _ _ hs c hc => hwritten c (hs.written c hc)

theorem inlineStyles_ruledRow (n : Nat) : inlineStyles (ruledRow n) = struckRow n := by
  have hbefore := (lettered_ruledRow n).restyle_take (i := 6) (by decide)
  have hmarks : ∀ mark ∈ styleMarks.drop (6 + 1), Foreign "| -~" mark := by decide
  have hafter : ∀ mark ∈ styleMarks.drop (6 + 1),
      ¬ HasMarks mark (Rewrite.apply ⟨.anywhere, strikethrough⟩ (ruledRow n)) := by
    rw [strikethrough_apply_ruledRow]
    exact fun mark hm => (lettered_struckRow n).not_hasMarks (hmarks mark hm)
  exact (inlineStyles_eq_apply (i := 6) rfl hbefore hafter).trans (strikethrough_apply_ruledRow n)

/-! ## Conversions of a header row -/

theorem inlineStyles_cells {l : Text} (hl : Lettered "|0123456789" l) : inlineStyles l = l := by
  have hmarks : ∀ c ∈ triggers.toList, isLetter c = false ∧ c ∉ "|0123456789".toList := by decide
  exact inlineStyles_eq_self fun c hc ht => hl.not_mem (hmarks c ht) hc

theorem onLines_rows (f : Text → Text) {header separator : Text} (hheader : '\n' ∉ header)
    (hseparator : '\n' ∉ separator) :
    onLines f (joinLines [[], header, separator]) = joinLines [f [], f header, f separator] := by
  have hlines : ∀ l ∈ [[], header, separator], '\n' ∉ l := by simp [hheader, hseparator]
  rw [onLines, splitLines_joinLines (List.cons_ne_nil _ _) hlines]
  rfl

theorem tableIndent_row {l : Text} (hl : l.head? = some '|') : tableIndent.apply l = l := by
  obtain ⟨rest, rfl⟩ := List.head?_eq_some_iff.mp hl
  exact tableIndent_apply_indented (List.forall_mem_nil _) rest

section
variable {cells : List HeadCell} (hne : cells ≠ [])

theorem onLines_markLine_doubleBarredRow : onLines markLine (doubleBarredRow (cells.map (·.text))) =
    doubleBarredRow (cells.map (·.text)) := by
  have hrow := lettered_doubleBarredRow cells
  rw [onLines_of_not_mem _ hrow.not_mem]
  have hmarks : ∀ c ∈ "*#.".toList, isLetter c = false ∧ c ∉ "|0123456789".toList := by decide
  exact markLine_eq_self_of_not_mem fun c hc => hrow.not_mem (hmarks c hc)

include hne

theorem legacy_convert_headCells : Dialect.legacy.convert (doubleBarredRow (cells.map (·.text))) =
    joinLines [[], barredRow (cells.map (·.text)), struckRow cells.length] := by
  have hheader := lettered_barredRow cells
  have hseparator := lettered_ruledRow cells.length
  have hcode : codeBlock.apply (joinLines [[], barredRow (cells.map (·.text)), ruledRow cells.length]) =
      joinLines [[], barredRow (cells.map (·.text)), ruledRow cells.length] := by
    have hrows : Lettered "|0123456789 -\n"
        ('\n' :: (barredRow (cells.map (·.text)) ++ '\n' :: ruledRow cells.length)) :=
      (hheader.mono.append (hseparator.mono.cons (by decide))).cons (by decide)
    have hbrace : '{' ∉ '\n' :: (barredRow (cells.map (·.text)) ++ '\n' :: ruledRow cells.length) :=
      hrows.not_mem
    exact codeBlock_eq_self fun h => hbrace (h.subset (by decide))
  rw [Dialect.legacy_convert, onLines_markLine_doubleBarredRow, soleTableHeader_doubleBarredRow hne, hcode,
    onLines_rows _ hheader.not_mem hseparator.not_mem, inlineStyles_cells hheader, inlineStyles_ruledRow]
  rfl

theorem corrected_convert_headCells : Dialect.corrected.convert (doubleBarredRow (cells.map (·.text))) =
    joinLines [[], barredRow (cells.map (·.text)), ruledRow cells.length] := by
  have hrow := lettered_doubleBarredRow cells
  have hbrace : '{' ∉ doubleBarredRow (cells.map (·.text)) := hrow.not_mem
  have hcode := codeBlock_eq_self fun h => hbrace (h.subset (by decide))
  have hpanel := panelTable_eq_self fun h => hbrace (h.subset (by decide))
  have hheader := lettered_barredRow cells
  have hseparator := lettered_ruledRow cells.length
  rw [Dialect.corrected_convert, onLines_markLine_doubleBarredRow, hcode, hpanel,
    onLines_of_not_mem _ hrow.not_mem, inlineStyles_cells hrow, tableHeaders_apply_line hrow.not_mem,
    soleTableHeader_doubleBarredRow hne, onLines_rows _ hheader.not_mem hseparator.not_mem,
    tableIndent_row (head?_barredRow _), tableIndent_row (head?_ruledRow _)]
  rfl

/-- A header row of letters and digits becomes the head of a table. The legacy dialect strikes out the rules of
the separator row two by two, the corrected one keeps them. -/
theorem convert_headCells :
    Dialect.legacy.convert (doubleBarredRow (cells.map (·.text))) =
        joinLines [[], barredRow (cells.map (·.text)), struckRow cells.length] ∧
      Dialect.corrected.convert (doubleBarredRow (cells.map (·.text))) =
        joinLines [[], barredRow (cells.map (·.text)), ruledRow cells.length] :=
  ⟨legacy_convert_headCells hne, corrected_convert_headCells hne⟩

end

theorem convert_headCells_three :
    let cells : List HeadCell := [⟨"a".toList, by decide, by decide⟩, ⟨"B2".toList, by decide, by decide⟩,
      ⟨"c".toList, by decide, by decide⟩]
    cells ≠ [] ∧
      Dialect.legacy.convert "||a||B2||c||".toList = "\n|a|B2|c|\n| ~~-- | --~~ | --- |".toList ∧
      Dialect.corrected.convert "||a||B2||c||".toList = "\n|a|B2|c|\n| --- | --- | --- |".toList := by
  intro cells
  have hne : cells ≠ [] := List.cons_ne_nil _ _
  have hmarkup : doubleBarredRow (cells.map (·.text)) = "||a||B2||c||".toList := by decide
  have hstruck : joinLines [[], barredRow (cells.map (·.text)), struckRow cells.length] =
      "\n|a|B2|c|\n| ~~-- | --~~ | --- |".toList := by decide
  have hruled : joinLines [[], barredRow (cells.map (·.text)), ruledRow cells.length] =
      "\n|a|B2|c|\n| --- | --- | --- |".toList := by decide
  have hconvert := convert_headCells hne
  rw [hmarkup, hstruck, hruled] at hconvert
  exact ⟨hne, hconvert⟩

end JiraMarkup
