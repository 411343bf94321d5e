import JiraMarkup.Proofs.HeaderRows

/-!
# Separator rows

The row below a header row has a rule under every cell that is not empty, and a
bar wherever the header row has one. So the two rows are the head of a table
unless three bars of the markup stand side by side, which leave two bars and
nothing in between.
-/

namespace JiraMarkup

/-! ## Bars side by side -/

section
variable (k : Nat) {rest : Text}

theorem bars_infix_cell {cell : Text} (hcell : '|' ∉ cell) :
    List.replicate (k + 1) '|' <:+: cell ++ rest ↔ List.replicate (k + 1) '|' <:+: rest := by
  induction cell with
  | nil => rfl
  | cons c cell ih =>
    rw [List.mem_cons, not_or] at hcell
    have hc : ¬ List.replicate (k + 1) '|' <+: c :: (cell ++ rest) := fun hp =>
      hcell.1 (List.cons_prefix_cons.mp hp).1
    rw [List.cons_append, List.infix_cons_iff, ih hcell.2]
    simp only [hc, false_or]

theorem bars_prefix_run (hrest : ∀ c ∈ rest.head?, c ≠ '|') (n : Nat) :
    List.replicate k '|' <+: List.replicate n '|' ++ rest ↔ k ≤ n := by
  induction n generalizing k with
  | zero =>
    cases k with
    | zero => simp
    | succ k =>
      have hnone : ¬ List.replicate (k + 1) '|' <+: rest := by
        rintro ⟨t, rfl⟩
        exact hrest '|' rfl rfl
      simpa using hnone
  | succ n ih =>
    cases k with
    | zero => simp
    | succ k => simp only [List.replicate_succ, List.cons_append, List.cons_prefix_cons, true_and, ih,
        Nat.succ_le_succ_iff]

theorem bars_infix_run (hrest : ∀ c ∈ rest.head?, c ≠ '|') (n : Nat) :
    List.replicate (k + 1) '|' <:+: List.replicate n '|' ++ rest ↔
      k < n ∨ List.replicate (k + 1) '|' <:+: rest := by
  induction n with
  | zero => simp
  | succ n ih =>
    have hp := bars_prefix_run (k + 1) hrest (n + 1)
    rw [List.replicate_succ (n := n), List.cons_append] at hp ⊢
    rw [List.infix_cons_iff, hp, ih, ← or_assoc]
    refine or_congr_left ?_
    omega

end

theorem head?_halvedBars (t : Text) : (halvedBars t).head? = t.head? := by
  induction t using barRuns_induction with
  | nil => rfl
  | bars n rest hrest _ =>
    obtain ⟨m, hm⟩ : ∃ m, (n + 2) / 2 = m + 1 := ⟨n / 2, by omega⟩
    rw [halvedBars_bars n hrest, hm]
    rfl
  | cell cell rest hne hcell hrest _ =>
    obtain ⟨c, cell, rfl⟩ := List.exists_cons_of_ne_nil hne
    rw [halvedBars_cell hne hcell hrest]
    rfl

theorem bars_infix_halvedBars (t : Text) : "||".toList <:+: halvedBars t ↔ "|||".toList <:+: t := by
  induction t using barRuns_induction with
  | nil => simp [halvedBars, barRuns]
  | bars n rest hrest ih =>
    have hhead : ∀ c ∈ (halvedBars rest).head?, c ≠ '|' := by
      rw [head?_halvedBars]
      exact hrest
    have hhalved := bars_infix_run 1 hhead ((n + 2) / 2)
    have hrun := bars_infix_run 2 hrest (n + 1)
    have hlen : 1 < (n + 2) / 2 ↔ 2 < n + 1 := by omega
    rw [halvedBars_bars n hrest]
    exact hhalved.trans ((or_congr hlen ih).trans hrun.symm)
  | cell cell rest hne hcell hrest ih =>
    rw [halvedBars_cell hne hcell hrest]
    exact (bars_infix_cell 1 hcell).trans (ih.trans (bars_infix_cell 2 hcell).symm)

theorem head?_ruledCells {t : Text} (ht : ∀ c ∈ t.head?, c ≠ '|') : ∀ c ∈ (ruledCells t).head?, c ≠ '|' := by
  induction t using barRuns_induction with
  | nil => exact ht
  | bars n rest _ _ => exact absurd rfl (ht '|' rfl)
  | cell cell rest hne hcell hrest _ =>
    rw [ruledCells_cell hne hcell hrest]
    intro c hc
    obtain rfl : ' ' = c := Option.some.inj hc
    decide

theorem bars_infix_ruledCells (t : Text) : "||".toList <:+: ruledCells t ↔ "||".toList <:+: t := by
  induction t using barRuns_induction with
  | nil => simp [ruledCells, barRuns]
  | bars n rest hrest ih =>
    have hruled := bars_infix_run 1 (head?_ruledCells hrest) (n + 1)
    rw [ruledCells_bars n hrest]
    exact hruled.trans ((or_congr_right ih).trans (bars_infix_run 1 hrest (n + 1)).symm)
  | cell cell rest hne hcell hrest ih =>
    have hrule : '|' ∉ " --- ".toList := by decide
    rw [ruledCells_cell hne hcell hrest]
    exact (bars_infix_cell 1 hrule).trans (ih.trans (bars_infix_cell 1 hcell).symm)

/-! ## Rows of cells -/

def barredRow (cells : List Text) : Text := cells.flatMap ('|' :: ·) ++ ['|']

def ruledRow (n : Nat) : Text := (List.replicate n "| --- ".toList).flatten ++ ['|']

theorem barredRow_cons (cell : Text) (cells : List Text) :
    barredRow (cell :: cells) = '|' :: (cell ++ barredRow cells) := by
  simp [barredRow]

theorem ruledRow_succ (n : Nat) : ruledRow (n + 1) = "| --- ".toList ++ ruledRow n := by
  simp [ruledRow, List.replicate_succ]

theorem head?_barredRow (cells : List Text) : (barredRow cells).head? = some '|' := by
  cases cells with
  | nil => rfl
  | cons cell cells => rw [barredRow_cons]; rfl

theorem count_bar_barredRow {cells : List Text} (h : ∀ cell ∈ cells, '|' ∉ cell) :
    (barredRow cells).count '|' = cells.length + 1 := by
  induction cells with
  | nil => rfl
  | cons cell cells ih =>
    rw [List.forall_mem_cons] at h
    rw [barredRow_cons, List.count_cons_self, List.count_append, List.count_eq_zero.mpr h.1, ih h.2,
      List.length_cons, Nat.zero_add]

theorem ruledCells_barredRow {cells : List Text} (h : ∀ cell ∈ cells, cell ≠ [] ∧ '|' ∉ cell) :
    ruledCells (barredRow cells) = ruledRow cells.length := by
  induction cells with
  | nil => rfl
  | cons cell cells ih =>
    rw [List.forall_mem_cons] at h
    obtain ⟨⟨hne, hcell⟩, hcells⟩ := h
    have hnext : ∀ c ∈ (barredRow cells).head?, c = '|' := by simp [head?_barredRow]
    have hhead : ∀ c ∈ (cell ++ barredRow cells).head?, c ≠ '|' := by
      obtain ⟨c, cell, rfl⟩ := List.exists_cons_of_ne_nil hne
      rintro d hd rfl
      exact hcell (Option.some.inj hd ▸ List.mem_cons_self)
    have hbar := ruledCells_bars 0 hhead
    rw [barredRow_cons, List.length_cons, ruledRow_succ, ← ih hcells]
    rw [ruledCells_cell hne hcell hnext] at hbar
    exact hbar

/-- Without bars side by side a text is cut into cells up to its last bar. -/
theorem exists_barredRow {t : Text} (hlast : t.getLast? = some '|') (h : ¬ "||".toList <:+: t) :
    ∃ front cells, '|' ∉ front ∧ (∀ cell ∈ cells, cell ≠ [] ∧ '|' ∉ cell) ∧ t = front ++ barredRow cells := by
  induction t using barRuns_induction with
  | nil => cases hlast
  | bars n rest hrest ih =>
    have hinfix := (bars_infix_run 1 hrest (n + 1)).not.mp h
    rw [not_or] at hinfix
    obtain rfl : n = 0 := by omega
    by_cases hnil : rest = []
    · subst hnil
      exact ⟨[], [], List.not_mem_nil, by simp, rfl⟩
    · rw [List.getLast?_append_of_ne_nil _ hnil] at hlast
      obtain ⟨front, cells, hfront, hcells, rfl⟩ := ih hlast hinfix.2
      have hne : front ≠ [] := by
        rintro rfl
        exact hrest '|' (head?_barredRow cells) rfl
      refine ⟨[], front :: cells, List.not_mem_nil, List.forall_mem_cons.mpr ⟨⟨hne, hfront⟩, hcells⟩, ?_⟩
      rw [barredRow_cons]
      rfl
  | cell cell rest hne hcell hrest ih =>
    have hnil : rest ≠ [] := by
      rintro rfl
      rw [List.append_nil] at hlast
      exact hcell (List.mem_of_getLast? hlast)
    rw [List.getLast?_append_of_ne_nil _ hnil] at hlast
    obtain ⟨front, cells, hfront, hcells, rfl⟩ := ih hlast ((bars_infix_cell 1 hcell).not.mp h)
    cases front with
    | nil => exact ⟨cell, cells, hcell, hcells, rfl⟩
    | cons c front => exact absurd (hrest c rfl ▸ List.mem_cons_self) hfront

theorem bars_not_infix_ruledRow (n : Nat) : ¬ "||".toList <:+: ruledRow n := by
  induction n with
  | zero => decide
  | succ n ih =>
    have hrule : '|' ∉ " --- ".toList := by decide
    have hhead : ∀ c ∈ (" --- ".toList ++ ruledRow n).head?, c ≠ '|' := by simp
    have hbar := (bars_infix_run 1 hhead 1).not
    rw [ruledRow_succ]
    refine hbar.mpr (not_or.mpr ⟨by omega, ?_⟩)
    exact (bars_infix_cell 1 hrule).not.mpr ih

theorem ruledCells_eq_ruledRow_iff {t : Text} (hhead : t.head? = some '|') (hlast : t.getLast? = some '|') :
    ruledCells t = ruledRow (t.count '|' - 1) ↔ ¬ "||".toList <:+: t := by
  constructor
  · intro h
    rw [← bars_infix_ruledCells, h]
    exact bars_not_infix_ruledRow _
  · intro h
    obtain ⟨front, cells, hfront, hcells, rfl⟩ := exists_barredRow hlast h
    cases front with
    | nil =>
      rw [List.nil_append, ruledCells_barredRow hcells, count_bar_barredRow fun cell hc => (hcells cell hc).2]
      rfl
    | cons c front => exact absurd (Option.some.inj hhead ▸ List.mem_cons_self) hfront

/-! ## Heads of tables -/

theorem getLast?_halvedBars (t : Text) : (halvedBars t).getLast? = t.getLast? := by
  induction t using barRuns_induction with
  | nil => rfl
  | bars n rest hrest ih =>
    rw [halvedBars_bars n hrest, List.getLast?_append, List.getLast?_append, ih]
    simp [List.getLast?_replicate]
  | cell cell rest hne hcell hrest ih =>
    rw [halvedBars_cell hne hcell hrest, List.getLast?_append, List.getLast?_append, ih]

theorem count_le_count_halvedBars (t : Text) : t.count '|' ≤ 2 * (halvedBars t).count '|' := by
  induction t using barRuns_induction with
  | nil => simp
  | bars n rest hrest ih =>
    rw [halvedBars_bars n hrest, List.count_append, List.count_append, List.count_replicate_self,
      List.count_replicate_self]
    omega
  | cell cell rest hne hcell hrest ih =>
    rw [halvedBars_cell hne hcell hrest, List.count_append, List.count_append]
    omega

namespace HeaderRow

variable (r : HeaderRow)

def columns : Nat := r.header.count '|' - 1

theorem one_le_columns : 1 ≤ r.columns := by
  have hbars : 4 ≤ r.bars.count '|' := by
    simp [bars, List.count_append]
  have hhalf := count_le_count_halvedBars r.bars
  rw [columns, header]
  omega

theorem head?_header : r.header.head? = some '|' := head?_halvedBars r.bars

theorem getLast?_header : r.header.getLast? = some '|' := by
  rw [header, getLast?_halvedBars, bars, List.getLast?_append]
  rfl

theorem separator_eq_ruledRow_iff : r.separator = ruledRow r.columns ↔ ¬ "|||".toList <:+: r.bars := by
  rw [← bars_infix_halvedBars]
  exact ruledCells_eq_ruledRow_iff r.head?_header r.getLast?_header

theorem newline_not_mem_header : '\n' ∉ r.header := by
  have hbars : '\n' ∉ r.bars := by
    simp [bars, r.newline_not_mem]
  rw [header, ← singleBars_apply]
  refine (Rewrite.apply_respelled singleBars_respells r.bars).not_mem (fun _ _ h hn => ?_) hbars
  exact absurd (h.written _ hn) (by decide)

theorem newline_not_mem_separator : '\n' ∉ r.separator := by
  have hhead : ∀ c ∈ r.header.head?, c = '|' := by simp [r.head?_header]
  have hwritten := separatorCells_written hhead
  rw [separatorCells_apply hhead] at hwritten
  exact fun hn => absurd (hwritten _ hn) (by decide)

theorem splitLines_markdown : splitLines r.markdown = [[], r.header, r.separator] := by
  refine splitLines_joinLines (List.cons_ne_nil [] [r.header, r.separator]) ?_
  simp [r.newline_not_mem_header, r.newline_not_mem_separator]

end HeaderRow

/-- Every header row gives an empty line and two rows, in a longer text as on its own. The second row has a rule
for each column of the first, as the head of a table needs, unless three bars of the markup stand side by side. -/
theorem tableHead_ruled_iff (t : Text) :
    (soleTableHeader.fires t = true ↔ ∃ r : HeaderRow, r.markup = t) ∧
      (∀ r : HeaderRow, r.markup = t → splitLines (soleTableHeader.apply t) = [[], r.header, r.separator] ∧
        1 ≤ r.columns ∧ (r.separator = ruledRow r.columns ↔ ¬ "|||".toList <:+: r.bars)) ∧
      splitLines (tableHeaders.apply t) = (splitLines t).flatMap fun l => splitLines (soleTableHeader.apply l) := by
  refine ⟨soleTableHeader_fires_iff t, fun r hr => ⟨?_, r.one_le_columns, r.separator_eq_ruledRow_iff⟩, ?_⟩
  · rw [← hr, r.soleTableHeader_apply, r.splitLines_markdown]
  · have hlines : tableHeaders.apply t = onLines soleTableHeader.apply t :=
      eq_onLines tableHeaders_append_newline (fun _ => tableHeaders_apply_line) t
    have hne : (splitLines t).map soleTableHeader.apply ≠ [] := by simp [splitLines_ne_nil]
    rw [hlines, onLines, splitLines_joinLines_flatMap hne, List.flatMap_map]

theorem tableHead_ruled_iff_two :
    let r : HeaderRow := ⟨" ".toList, "a||b".toList, "\t".toList, by decide, by decide, by decide⟩
    r.markup = " ||a||b||\t".toList ∧ ¬ "|||".toList <:+: r.bars ∧
      splitLines (soleTableHeader.apply " ||a||b||\t".toList) = [[], r.header, "| --- | --- |".toList] := by
  intro r
  have hmarkup : r.markup = " ||a||b||\t".toList := by decide
  have hbars : ¬ "|||".toList <:+: r.bars := by decide
  have hruled : ruledRow r.columns = "| --- | --- |".toList := rfl
  obtain ⟨-, hrow, -⟩ := tableHead_ruled_iff " ||a||b||\t".toList
  obtain ⟨hlines, -, hseparator⟩ := hrow r hmarkup
  refine ⟨hmarkup, hbars, ?_⟩
  rw [hlines, hseparator.mpr hbars, hruled]

theorem not_tableHead_ruled : ¬ ∀ r : HeaderRow,
    splitLines (soleTableHeader.apply r.markup) = [[], r.header, ruledRow r.columns] := by
  intro h
  let r : HeaderRow := ⟨[], [], [], by simp, by simp, by simp⟩
  have hsplit : splitLines (soleTableHeader.apply r.markup) = [[], "||".toList, "||".toList] := rfl
  have hruled : ruledRow r.columns = "| --- |".toList := rfl
  have hrow := h r
  rw [hsplit, hruled] at hrow
  simp at hrow

end JiraMarkup
