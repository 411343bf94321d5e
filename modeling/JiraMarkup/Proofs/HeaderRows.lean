import JiraMarkup.Proofs.Lines
import JiraMarkup.Proofs.TableHead
import Mathlib.Data.List.SplitBy

/-!
# Header rows

Which texts are header rows, and what the two rows written for one look like:
bars and cells follow each other in runs, and each run is rewritten by itself.
In a text of several lines every line that is a header row is treated as such.
-/

namespace JiraMarkup

/-! ## Runs of bars -/

def barRuns (t : Text) : List Text := t.splitBy fun c d => (c == '|') == (d == '|')

/-- Every run of bars is cut to half its length, rounded up. -/
def halvedBars (t : Text) : Text :=
  (barRuns t).flatMap fun run => if '|' ∈ run then List.replicate ((run.length + 1) / 2) '|' else run

/-- A rule takes the place of every run between bars. -/
def ruledCells (t : Text) : Text :=
  (barRuns t).flatMap fun run => if '|' ∈ run then run else " --- ".toList

theorem barRuns_append (isBar : Bool) {run rest : Text} (hne : run ≠ [])
    (hrun : ∀ c ∈ run, (c == '|') = isBar) (hrest : ∀ c ∈ rest.head?, (c == '|') = !isBar) :
    barRuns (run ++ rest) = run :: barRuns rest := by
  have hchain : run.IsChain fun c d => ((c == '|') == (d == '|')) = true := by
    refine (List.pairwise_of_forall_mem_list fun _ hc _ hd => ?_).isChain
    rw [hrun _ hc, hrun _ hd, beq_self_eq_true]
  rw [barRuns, List.splitBy_append, List.splitBy_of_isChain hne hchain]
  · rfl
  · intro c hc d hd
    rw [hrun c (List.mem_of_getLast? hc), hrest d hd]
    cases isBar <;> rfl

theorem barRuns_bars (n : Nat) {rest : Text} (hrest : ∀ c ∈ rest.head?, c ≠ '|') :
    barRuns (List.replicate (n + 1) '|' ++ rest) = List.replicate (n + 1) '|' :: barRuns rest :=
  barRuns_append true (by simp) (fun _ hc => beq_iff_eq.mpr (List.eq_of_mem_replicate hc))
    fun c hc => beq_eq_false_iff_ne.mpr (hrest c hc)

theorem barRuns_cell {cell rest : Text} (hne : cell ≠ []) (hcell : '|' ∉ cell)
    (hrest : ∀ c ∈ rest.head?, c = '|') : barRuns (cell ++ rest) = cell :: barRuns rest :=
  barRuns_append false hne (fun _ hc => beq_eq_false_iff_ne.mpr fun he => hcell (he ▸ hc))
    fun c hc => beq_iff_eq.mpr (hrest c hc)

theorem barRuns_induction {P : Text → Prop} (nil : P [])
    (bars : ∀ n rest, (∀ c ∈ rest.head?, c ≠ '|') → P rest → P (List.replicate (n + 1) '|' ++ rest))
    (cell : ∀ cell rest, cell ≠ [] → '|' ∉ cell → (∀ c ∈ rest.head?, c = '|') → P rest → P (cell ++ rest))
    (t : Text) : P t := by
  induction hn : t.length using Nat.strongRecOn generalizing t with
  | _ n ih =>
    cases t with
    | nil => exact nil
    | cons c t =>
      have hlt : ∀ p : Char → Bool, (t.dropWhile p).length < n := fun p => by
        have hle := (List.dropWhile_suffix p (l := t)).length_le
        rw [List.length_cons] at hn
        omega
      by_cases hc : c = '|'
      · subst hc
        have hrun : t.takeWhile (· == '|') = List.replicate (t.takeWhile (· == '|')).length '|' :=
          List.eq_replicate_iff.mpr ⟨rfl, fun c hc => by simpa using List.mem_takeWhile_imp hc⟩
        have hsplit : '|' :: t =
            List.replicate ((t.takeWhile (· == '|')).length + 1) '|' ++ t.dropWhile (· == '|') := by
          rw [List.replicate_succ, ← hrun, List.cons_append, List.takeWhile_append_dropWhile]
        rw [hsplit]
        refine bars _ _ (fun c hc => ?_) (ih _ (hlt _) _ rfl)
        simpa using head_dropWhile (· == '|') t c hc
      · have hsplit : c :: t = c :: t.takeWhile (· != '|') ++ t.dropWhile (· != '|') := by
          rw [List.cons_append, List.takeWhile_append_dropWhile]
        rw [hsplit]
        refine cell _ _ (by simp) (fun hm => ?_) (fun c hc => ?_) (ih _ (hlt _) _ rfl)
        · rcases List.mem_cons.mp hm with he | hm
          · exact hc he.symm
          · simpa using List.mem_takeWhile_imp hm
        · simpa using head_dropWhile (· != '|') t c hc

section
variable (n : Nat) {cell rest : Text}

theorem halvedBars_bars (hrest : ∀ c ∈ rest.head?, c ≠ '|') :
    halvedBars (List.replicate (n + 1) '|' ++ rest) =
      List.replicate ((n + 2) / 2) '|' ++ halvedBars rest := by
  rw [halvedBars, barRuns_bars n hrest, List.flatMap_cons, if_pos (by simp), List.length_replicate]
  rfl

theorem ruledCells_bars (hrest : ∀ c ∈ rest.head?, c ≠ '|') :
    ruledCells (List.replicate (n + 1) '|' ++ rest) = List.replicate (n + 1) '|' ++ ruledCells rest := by
  rw [ruledCells, barRuns_bars n hrest, List.flatMap_cons, if_pos (by simp)]
  rfl

variable (hne : cell ≠ []) (hcell : '|' ∉ cell) (hrest : ∀ c ∈ rest.head?, c = '|')
include hne hcell hrest

theorem halvedBars_cell : halvedBars (cell ++ rest) = cell ++ halvedBars rest := by
  rw [halvedBars, barRuns_cell hne hcell hrest, List.flatMap_cons, if_neg hcell]
  rfl

theorem ruledCells_cell : ruledCells (cell ++ rest) = " --- ".toList ++ ruledCells rest := by
  rw [ruledCells, barRuns_cell hne hcell hrest, List.flatMap_cons, if_neg hcell]
  rfl

end

theorem count_bar_ruledCells (t : Text) : (ruledCells t).count '|' = t.count '|' := by
  induction t using barRuns_induction with
  | nil => rfl
  | bars n rest hrest ih => rw [ruledCells_bars n hrest, List.count_append, List.count_append, ih]
  | cell cell rest hne hcell hrest ih =>
    rw [ruledCells_cell hne hcell hrest, List.count_append, List.count_append, ih,
      List.count_eq_zero.mpr hcell]
    rfl

/-! ## The rows of a table head -/

theorem singleBars_beginsWith : singleBars.pattern.BeginsWith '|' := by
  intro d t m h
  obtain ⟨rest, hr, -⟩ := Option.map_eq_some_iff.mp h
  have ht : d :: t = "||".toList ++ rest := after?_eq_some_iff.mp hr
  exact (List.cons.inj ht).1

theorem singleBars_apply_run (n : Nat) {rest : Text} (hrest : ∀ c ∈ rest.head?, c ≠ '|') :
    singleBars.apply (List.replicate n '|' ++ rest) =
      List.replicate ((n + 1) / 2) '|' ++ singleBars.apply rest := by
  induction n using Nat.twoStepInduction with
  | zero => rfl
  | one =>
    have hnone : singleBars.pattern ('|' :: rest) = none := by
      refine Option.map_eq_none_iff.mpr (after?_eq_none_iff.mpr fun hp => ?_)
      obtain ⟨-, ⟨u, rfl⟩⟩ := List.cons_prefix_cons.mp hp
      exact hrest '|' rfl rfl
    exact Rewrite.apply_miss rfl hnone
  | more n ih _ =>
    have hmatch : singleBars.pattern ("||".toList ++ (List.replicate n '|' ++ rest)) =
        some ⟨['|'], List.replicate n '|' ++ rest⟩ := by
      show (after? "||" ("||".toList ++ (List.replicate n '|' ++ rest))).map _ = _
      rw [after?_append]
      rfl
    have happly := Rewrite.apply_of_some rfl singleBars_respells.consumes hmatch
    rw [ih] at happly
    have hhalf : (n + 2 + 1) / 2 = (n + 1) / 2 + 1 := by omega
    rw [hhalf]
    exact happly

theorem singleBars_apply (t : Text) : singleBars.apply t = halvedBars t := by
  induction t using barRuns_induction with
  | nil => rfl
  | bars n rest hrest ih => rw [halvedBars_bars n hrest, singleBars_apply_run (n + 1) hrest, ih]
  | cell cell rest hne hcell hrest ih =>
    rw [halvedBars_cell hne hcell hrest, Rewrite.apply_of_passes rfl (singleBars_beginsWith.passes hcell), ih]

theorem separatorCells_bar (t : Text) (n : Nat) :
    separatorCells.apply (List.replicate n '|' ++ '|' :: t) =
      List.replicate n '|' ++ separatorCells.apply ('|' :: t) := by
  induction n with
  | zero => rfl
  | succ n ih =>
    have hnone : separatorCells.pattern ('|' :: (List.replicate n '|' ++ '|' :: t)) = none := by
      cases n <;> simp [separatorCells, headerCell, List.replicate_succ]
    rw [List.replicate_succ, List.cons_append, Rewrite.apply_miss rfl hnone, ih]
    rfl

theorem headerCell_cell {cell rest : Text} (hne : cell ≠ []) (hcell : '|' ∉ cell)
    (hrest : ∀ c ∈ rest.head?, c = '|') : headerCell ('|' :: (cell ++ rest)) = some ⟨"| --- ".toList, rest⟩ := by
  have hstop : ∀ c ∈ rest.head?, (c != '|') = false := fun c hc => by
    rw [hrest c hc]
    rfl
  obtain ⟨htake, hdrop⟩ := takeWhile_append_boundary (bne_of_not_mem hcell) hstop
  simp [headerCell, htake, hdrop, hne]

theorem separatorCells_behind_bar {t : Text} (ht : ∀ c ∈ t.head?, c = '|')
    (h : separatorCells.apply ('|' :: t) = '|' :: ruledCells t) : separatorCells.apply t = ruledCells t := by
  cases t with
  | nil => rfl
  | cons c t =>
    obtain rfl := ht c rfl
    exact (List.cons.inj ((separatorCells_bar t 1).symm.trans h)).2

theorem separatorCells_apply_bar (t : Text) : separatorCells.apply ('|' :: t) = '|' :: ruledCells t := by
  induction t using barRuns_induction with
  | nil => rfl
  | bars n rest hrest ih =>
    have hcomm (u : Text) : '|' :: (List.replicate (n + 1) '|' ++ u) = List.replicate (n + 1) '|' ++ '|' :: u := by
      rw [← List.cons_append, ← List.replicate_succ, List.replicate_succ', List.append_assoc]
      rfl
    rw [hcomm, separatorCells_bar, ih, ruledCells_bars n hrest, hcomm]
  | cell cell rest hne hcell hrest ih =>
    have happly := Rewrite.apply_of_some rfl separatorCells_consumes
      (show separatorCells.pattern ('|' :: (cell ++ rest)) = _ from headerCell_cell hne hcell hrest)
    rw [happly, separatorCells_behind_bar hrest ih, ruledCells_cell hne hcell hrest]
    rfl

theorem separatorCells_apply {t : Text} (ht : ∀ c ∈ t.head?, c = '|') : separatorCells.apply t = ruledCells t :=
  separatorCells_behind_bar ht (separatorCells_apply_bar t)

/-! ## Header rows -/

structure HeaderRow where
  indent : Text
  cells : Text
  trail : Text
  indent_isIndent : ∀ c ∈ indent, isIndent c = true
  trail_isIndent : ∀ c ∈ trail, isIndent c = true
  newline_not_mem : '\n' ∉ cells

namespace HeaderRow

variable (r : HeaderRow)

def bars : Text := "||".toList ++ r.cells ++ "||".toList

def markup : Text := r.indent ++ (r.bars ++ r.trail)

def header : Text := halvedBars r.bars

def separator : Text := ruledCells r.header

def markdown : Text := '\n' :: r.header ++ '\n' :: r.separator

theorem tableHead_bars : tableHead r.bars = r.markdown := by
  have hhead : ∀ c ∈ (halvedBars r.bars).head?, c = '|' := by
    rw [← singleBars_apply, bars, List.append_assoc, singleBars_apply_bars]
    simp
  rw [tableHead, singleBars_apply, separatorCells_apply hhead]
  rfl

theorem newline_not_mem_markup : '\n' ∉ r.markup := by
  have hindent : ∀ {t : Text}, (∀ c ∈ t, isIndent c = true) → '\n' ∉ t := fun h hm =>
    absurd (h '\n' hm) (by decide)
  simp [markup, bars, hindent r.indent_isIndent, hindent r.trail_isIndent, r.newline_not_mem]

theorem headerRow?_markup : headerRow? r.markup = some r.bars := by
  have hbars : ∀ c ∈ (r.bars ++ r.trail).head?, isIndent c = false := by
    intro c hc
    obtain rfl : '|' = c := Option.some.inj hc
    rfl
  have hlast : ∀ c ∈ r.bars.reverse.head?, isIndent c = false := by
    intro c hc
    obtain rfl : '|' = c := by simpa [bars] using hc
    rfl
  have htrim : r.markup.dropWhile isIndent = r.bars ++ r.trail :=
    (takeWhile_append_boundary r.indent_isIndent hbars).2
  have htrail : ∀ c ∈ r.trail.reverse, isIndent c = true := fun c hc =>
    r.trail_isIndent c (List.mem_reverse.mp hc)
  have hrow : ((r.bars ++ r.trail).reverse.dropWhile isIndent).reverse = r.bars := by
    rw [List.reverse_append, (takeWhile_append_boundary htrail hlast).2, List.reverse_reverse]
  have hends : 4 ≤ r.bars.length ∧ "||".toList <+: r.bars ∧ "||".toList <:+ r.bars := by
    refine ⟨by simp [bars], ⟨r.cells ++ "||".toList, ?_⟩, List.suffix_append _ _⟩
    rw [bars, List.append_assoc]
  simp only [headerRow?, htrim, hrow]
  exact if_pos hends

end HeaderRow

theorem headerRow?_ends {line row : Text} (h : headerRow? line = some row) :
    ∃ cells, row = "||".toList ++ cells ++ "||".toList := by
  simp only [headerRow?] at h
  split at h
  · rename_i hrow
    rw [Option.some.inj h] at hrow
    obtain ⟨hlen, ⟨bars, rfl⟩, hsuffix⟩ := hrow
    -- The two double bars do not overlap.
    have hbars : "||".toList <:+ bars := by
      refine List.suffix_of_suffix_length_le hsuffix (List.suffix_append _ _) ?_
      simp at hlen ⊢
      omega
    obtain ⟨cells, rfl⟩ := hbars
    exact ⟨cells, (List.append_assoc _ _ _).symm⟩
  · cases h

theorem exists_headerRow {line row : Text} (hn : '\n' ∉ line) (h : headerRow? line = some row) :
    ∃ r : HeaderRow, r.markup = line := by
  obtain ⟨indent, trail, -, rfl, -, hindent⟩ := headerRow?_eq_some h
  obtain ⟨cells, rfl⟩ := headerRow?_ends h
  have hcells : '\n' ∉ cells := fun hm => hn (by simp [hm])
  rw [List.forall_mem_append] at hindent
  exact ⟨⟨indent, cells, trail, hindent.1, hindent.2, hcells⟩, (List.append_assoc _ _ _).symm⟩

theorem headerLine_of_not_mem {l : Text} (hl : '\n' ∉ l) :
    headerLine l = (headerRow? l).map fun row => ⟨tableHead row, []⟩ := by
  have hline : ∀ c ∈ l, (!isLineEnd c) = true := fun c hc => by
    rw [isLineEnd_of_not_mem hl c hc]
    rfl
  rw [headerLine, List.takeWhile_eq_self_iff.mpr hline, List.dropWhile_eq_nil_iff.mpr hline]

theorem soleTableHeader_of_not_mem {l : Text} (hl : '\n' ∉ l) : soleTableHeader.pattern l = headerLine l := by
  show (headerLine l).filter (·.rest.isEmpty) = headerLine l
  rw [headerLine_of_not_mem hl]
  cases headerRow? l <;> rfl

theorem HeaderRow.soleTableHeader_apply (r : HeaderRow) : soleTableHeader.apply r.markup = r.markdown := by
  have hmatch : soleTableHeader.pattern r.markup = some ⟨r.markdown, []⟩ := by
    rw [soleTableHeader_of_not_mem r.newline_not_mem_markup, headerLine_of_not_mem r.newline_not_mem_markup,
      r.headerRow?_markup, ← r.tableHead_bars]
    rfl
  rw [Rewrite.apply_textStart_of_some rfl soleTableHeader_respells.consumes hmatch, List.append_nil]

theorem soleTableHeader_fires_iff (t : Text) :
    soleTableHeader.fires t = true ↔ ∃ r : HeaderRow, r.markup = t := by
  rw [Rewrite.fires_textStart rfl soleTableHeader_respells.consumes, Option.isSome_iff_exists]
  constructor
  · rintro ⟨m, hm⟩
    obtain ⟨hline, hrest⟩ := soleTableHeader_eq_some hm
    obtain ⟨line, row, hrow, ht, hn, -⟩ := headerLine_eq_some hline
    rw [hrest, List.append_nil] at ht
    rw [ht]
    exact exists_headerRow hn hrow
  · rintro ⟨r, rfl⟩
    rw [soleTableHeader_of_not_mem r.newline_not_mem_markup, headerLine_of_not_mem r.newline_not_mem_markup,
      r.headerRow?_markup]
    exact ⟨_, rfl⟩

theorem soleTableHeader_eq_self_of_ne {t : Text} (h : ∀ r : HeaderRow, r.markup ≠ t) :
    soleTableHeader.apply t = t := by
  refine Rewrite.apply_textStart_of_not_fires rfl soleTableHeader_respells.consumes ?_
  rw [Bool.eq_false_iff, ne_eq, soleTableHeader_fires_iff]
  exact fun ⟨r, hr⟩ => h r hr

/-- The header rows are the texts that become a table head, whose rows have a bar each for a bar of the
other; all other texts, those of several lines among them, stay as they are. -/
theorem soleTableHeader_accepts :
    (∀ r : HeaderRow, soleTableHeader.apply r.markup = r.markdown ∧
        r.separator.count '|' = r.header.count '|') ∧
      (∀ t, (∀ r : HeaderRow, r.markup ≠ t) → soleTableHeader.apply t = t) ∧
      ∀ t, '\n' ∈ t → soleTableHeader.apply t = t := by
  refine ⟨fun r => ⟨r.soleTableHeader_apply, count_bar_ruledCells r.header⟩,
    fun t => soleTableHeader_eq_self_of_ne, fun t ht => soleTableHeader_eq_self_of_ne fun r hr => ?_⟩
  exact r.newline_not_mem_markup (hr ▸ ht)

example : soleTableHeader.apply "\t||a||||b |c||| ".toList = "\n|a||b |c||\n| --- || --- | --- ||".toList := rfl

/-! ## Header rows in a text of several lines -/

theorem tableHeaders_apply_line {l : Text} (hl : '\n' ∉ l) : tableHeaders.apply l = soleTableHeader.apply l := by
  have htext : tableHeaders.apply l = Rewrite.apply ⟨.textStart, headerLine⟩ l :=
    Rewrite.scan_lineStart headerLine hl true 0
  rw [htext]
  cases h : headerLine l with
  | none =>
    have hnone : soleTableHeader.pattern l = none := (soleTableHeader_of_not_mem hl).trans h
    rw [Rewrite.apply_textStart_of_none rfl h, Rewrite.apply_textStart_of_none rfl hnone]
  | some m =>
    have hsome : soleTableHeader.pattern l = some m := (soleTableHeader_of_not_mem hl).trans h
    rw [Rewrite.apply_textStart_of_some rfl headerLine_respells.consumes h,
      Rewrite.apply_textStart_of_some rfl soleTableHeader_respells.consumes hsome]

/-- Header rows are found in a text as they are found on each of its lines. -/
theorem tableHeaders_apply_eq_onLines (t : Text) : tableHeaders.apply t = onLines soleTableHeader.apply t :=
  eq_onLines tableHeaders_append_newline (fun _ => tableHeaders_apply_line) t

end JiraMarkup
