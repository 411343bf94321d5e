import JiraMarkup.LineMarkup
import JiraMarkup.Proofs.Scanning
import JiraMarkup.Proofs.Search

/-!
# Table heads

A header row is copied once. The separator row below it is written from its bars
alone: no character of a cell comes to stand there a second time.
-/

namespace JiraMarkup

/-! ## Bars and cells -/

theorem singleBars_respells : singleBars.pattern.Respells (Swaps "|" "|") := by
  intro t m h
  obtain ⟨rest, hr, rfl⟩ := Option.map_eq_some_iff.mp h
  exact ⟨"||".toList, by simp, after?_eq_some_iff.mp hr, .of_swap ⟨by simp, by simp, by simp⟩⟩

theorem singleBars_apply_bars (t : Text) :
    singleBars.apply ("||".toList ++ t) = '|' :: singleBars.scan true 0 t := by
  have h : singleBars.tryAt true ("||".toList ++ t) = some ⟨['|'], t⟩ := by
    show (after? "||" ("||".toList ++ t)).map _ = _
    rw [after?_append]; rfl
  rw [Rewrite.apply, Rewrite.scan_hit (by simp) h]; rfl

theorem headerCell_eq_some {t : Text} {m : Match} (h : headerCell t = some m) :
    ∃ cell, cell ≠ [] ∧ t = '|' :: cell ++ m.rest ∧ '|' ∉ cell ∧ (∀ c ∈ m.rest.head?, c = '|') ∧
      m.output = "| --- ".toList := by
  unfold headerCell at h
  split at h
  · rename_i t
    split at h
    · cases h
    · rename_i hne
      obtain rfl := Option.some.inj h
      refine ⟨t.takeWhile (· != '|'), by simpa using hne, by simp, fun hm => ?_, fun c hc => ?_, rfl⟩
      · simpa using List.mem_takeWhile_imp hm
      · simpa using head_dropWhile (· != '|') t c hc
  · cases h

theorem separatorCells_consumes : separatorCells.pattern.Consumes := by
  intro t m h
  obtain ⟨cell, -, ht, -⟩ := headerCell_eq_some h
  exact ⟨'|' :: cell, by simp, ht⟩

theorem headerCell_bar {t : Text} (h : headerCell ('|' :: t) = none) : ∀ c ∈ t.head?, c = '|' := by
  intro c hc
  cases t with
  | nil => cases hc
  | cons d t =>
    obtain rfl := Option.some.inj hc
    refine Classical.byContradiction fun hd => ?_
    simp [headerCell, hd] at h

theorem separatorCells_written {t : Text} (ht : ∀ c ∈ t.head?, c = '|') :
    ∀ c ∈ separatorCells.apply t, c ∈ "| -".toList := by
  have hs := Rewrite.scanned_scan separatorCells_consumes true t
  rw [← Rewrite.apply] at hs
  generalize separatorCells.apply t = u at hs
  generalize hopen : true = opened at hs
  induction hs with
  | nil => simp
  | @hit opened used rest output u hne h _ ih =>
    subst hopen
    obtain ⟨cell, -, -, -, hrest, ho⟩ := headerCell_eq_some (Rewrite.tryAt_eq_some h).2
    have ho : output = "| --- ".toList := ho
    intro c hc
    rcases List.mem_append.mp hc with hc | hc
    · simp [ho] at hc ⊢; tauto
    · exact ih hrest (Anchor.opensBehind_anywhere used).symm c hc
  | @miss opened c t u h _ ih =>
    subst hopen
    obtain rfl := ht c rfl
    intro d hd
    rcases List.mem_cons.mp hd with rfl | hd
    · simp
    · exact ih (headerCell_bar h) rfl d hd

/-! ## Header rows -/

theorem headerRow?_eq_some {line row : Text} (h : headerRow? line = some row) :
    ∃ indent trail bars, line = indent ++ row ++ trail ∧ row = "||".toList ++ bars ∧
      (∀ c ∈ indent ++ trail, isIndent c = true) := by
  simp only [headerRow?] at h
  split at h
  · rename_i hrow
    obtain ⟨-, ⟨bars, hbars⟩, -⟩ := hrow
    generalize ht : line.dropWhile isIndent = trimmed at *
    obtain rfl := Option.some.inj h
    refine ⟨line.takeWhile isIndent, (trimmed.reverse.takeWhile isIndent).reverse, bars, ?_, hbars.symm, ?_⟩
    · rw [List.append_assoc, ← List.reverse_append, List.takeWhile_append_dropWhile, List.reverse_reverse,
        ← ht, List.takeWhile_append_dropWhile]
    · intro c hc
      rcases List.mem_append.mp hc with hc | hc
      · exact List.mem_takeWhile_imp hc
      · exact List.mem_takeWhile_imp (List.mem_reverse.mp hc)
  · cases h

theorem headerLine_eq_some {t : Text} {m : Match} (h : headerLine t = some m) :
    ∃ line row, headerRow? line = some row ∧ t = line ++ m.rest ∧ '\n' ∉ line ∧
      m.output = tableHead row := by
  obtain ⟨row, hrow, rfl⟩ := Option.map_eq_some_iff.mp h
  refine ⟨_, row, hrow, by simp, fun hn => ?_, rfl⟩
  have := List.mem_takeWhile_imp hn
  simp [isLineEnd] at this

theorem tableHead_respelled (indent trail bars : Text) (hi : ∀ c ∈ indent ++ trail, isIndent c = true) :
    Respelled (Swaps "| \t" "\n| -") (indent ++ ("||".toList ++ bars) ++ trail)
      (tableHead ("||".toList ++ bars)) := by
  have hdrop : ∀ c ∈ indent ++ trail, c ∈ "| \t".toList := fun c hc => by
    have := isIndent_iff.mp (hi c hc)
    simp at this ⊢; tauto
  have hindent : Respelled (Swaps "| \t" "\n| -") indent ['\n'] :=
    .of_swap ⟨fun c hc => hdrop c (List.mem_append_left _ hc), by simp, by simp⟩
  have hrow : Respelled (Swaps "| \t" "\n| -") ("||".toList ++ bars)
      (singleBars.apply ("||".toList ++ bars)) :=
    (Rewrite.apply_respelled singleBars_respells _).mono fun _ _ h => h.widen (by simp) (by simp)
  have htrail : Respelled (Swaps "| \t" "\n| -") trail
      ('\n' :: separatorCells.apply (singleBars.apply ("||".toList ++ bars))) := by
    refine .of_swap ⟨fun c hc => hdrop c (List.mem_append_right _ hc), by simp, fun c hc => ?_⟩
    rcases List.mem_cons.mp hc with rfl | hc
    · simp
    · have := separatorCells_written (by rw [singleBars_apply_bars]; simp) c hc
      simp at this ⊢; tauto
  simpa [tableHead] using (hindent.append hrow).append htrail

theorem headerLine_respells : Pattern.Respells (Swaps "| \t" "\n| -") headerLine := by
  intro t m h
  obtain ⟨line, row, hrow, ht, -, ho⟩ := headerLine_eq_some h
  obtain ⟨indent, trail, bars, rfl, rfl, hi⟩ := headerRow?_eq_some hrow
  exact ⟨_, by simp, ht, ho ▸ tableHead_respelled indent trail bars hi⟩

theorem tableHeaders_respells : tableHeaders.pattern.Respells (Swaps "| \t" "\n| -") :=
  headerLine_respells

theorem soleTableHeader_eq_some {t : Text} {m : Match} (h : soleTableHeader.pattern t = some m) :
    headerLine t = some m ∧ m.rest = [] := by
  obtain ⟨hm, hr⟩ := Option.filter_eq_some_iff.mp h
  exact ⟨hm, by simpa using hr⟩

theorem soleTableHeader_respells : soleTableHeader.pattern.Respells (Swaps "| \t" "\n| -") :=
  fun t m h => headerLine_respells t m (soleTableHeader_eq_some h).1

theorem tableIndent_respells : tableIndent.pattern.Respells (Swaps " \t|" "|") := by
  intro t m h
  obtain ⟨rest, hr, rfl⟩ := Option.map_eq_some_iff.mp h
  refine ⟨t.takeWhile isIndent ++ ['|'], by simp, ?_, .of_swap ⟨fun c hc => ?_, by simp, by simp⟩⟩
  · have := after?_eq_some_iff.mp hr
    rw [List.append_assoc, show ['|'] ++ rest = t.dropWhile isIndent from this.symm,
      List.takeWhile_append_dropWhile]
  · rcases List.mem_append.mp hc with hc | hc
    · have := isIndent_iff.mp (List.mem_takeWhile_imp hc)
      simp at this ⊢; tauto
    · simp at hc ⊢; tauto

/-! ## The end of a line -/

theorem headerLine_append_newline (s b : Text) : headerLine (s ++ '\n' :: b) =
    (headerLine s).map fun m => ⟨m.output, m.rest ++ '\n' :: b⟩ := by
  rw [headerLine, headerLine, takeWhile_append_stop rfl, dropWhile_append_stop rfl, Option.map_map]
  rfl

theorem tableHeaders_append_newline (a b : Text) :
    tableHeaders.apply (a ++ '\n' :: b) = tableHeaders.apply a ++ '\n' :: tableHeaders.apply b :=
  Rewrite.apply_append_newline rfl rfl (fun s _ => headerLine_append_newline s b)
    tableHeaders_respells.consumes

/-! ## Texts without bars -/

theorem headerLine_eq_none {t : Text} (ht : ¬ "||".toList <:+: t) : headerLine t = none := by
  rw [Option.eq_none_iff_forall_ne_some]
  intro m h
  obtain ⟨line, row, hrow, hline, -⟩ := headerLine_eq_some h
  obtain ⟨indent, trail, bars, rfl, rfl, -⟩ := headerRow?_eq_some hrow
  exact ht ⟨indent, bars ++ trail ++ m.rest, by simp [hline]⟩

section
variable {t : Text} (ht : ¬ "||".toList <:+: t)
include ht

theorem tableHeaders_eq_self_of_absent : tableHeaders.apply t = t :=
  Rewrite.apply_eq_self fun _ hs => headerLine_eq_none fun hi => ht (hi.trans hs.isInfix)

theorem soleTableHeader_eq_self_of_absent : soleTableHeader.apply t = t := by
  refine Rewrite.apply_textStart_of_none rfl ?_
  simp [soleTableHeader, headerLine_eq_none ht]

end

section
variable {t : Text} (ht : '|' ∉ t)
include ht

theorem bars_absent : ¬ "||".toList <:+: t := fun hi => ht (hi.subset (by decide))

theorem tableHeaders_eq_self : tableHeaders.apply t = t := tableHeaders_eq_self_of_absent (bars_absent ht)

theorem soleTableHeader_eq_self : soleTableHeader.apply t = t :=
  soleTableHeader_eq_self_of_absent (bars_absent ht)

theorem tableIndent_eq_self : tableIndent.apply t = t := by
  have hbar : after? "|" (t.dropWhile isIndent) = none := by
    rw [after?_eq_none_iff]
    intro hp
    exact ht ((List.dropWhile_suffix _).subset (hp.subset (by simp)))
  exact Rewrite.apply_textStart_of_none rfl (Option.map_eq_none_iff.mpr hbar)

end

end JiraMarkup
