import JiraMarkup.Proofs.Locality
import Mathlib.Data.List.Infix

/-!
# Both dialects on any document

A document may hold line feeds inside its lines, or no line at all. The first
rule that splits the text anew puts it in order, and no later rule undoes that.
Apart from tables and panels the dialects convert alike.
-/

namespace JiraMarkup

/-! ## Results are well formed -/

theorem foldl_wellFormed_of_document {before after : List Stage} {s : Stage} {f : Text → Text}
    (hs : s.rule = .document f) (hafter : ∀ s ∈ after, s.rule.KeepsLines) (d : Document) :
    ((before ++ s :: after).foldl (fun d s => s.apply d) d).WellFormed := by
  rw [List.foldl_append, List.foldl_cons]
  have hsplit : ∀ d, (s.apply d).WellFormed := by
    intro d
    rw [Stage.apply, hs]
    exact Document.wellFormed_ofText _
  exact (foldl_stages hafter (hsplit _)).1

namespace Dialect

theorem exists_document_stage (dialect : Dialect) : ∃ before s after f,
    dialect.stages = before ++ s :: after ∧ s.rule = .document f := by
  cases dialect with
  | legacy =>
    exact ⟨[.bulletList, .numberedList, .header], .tableHeader, [.codeBlock, .inlineStyles], _, rfl, rfl⟩
  | corrected =>
    exact ⟨[.bulletList, .numberedList, .header], .codeBlock,
      [.panelToTable, .inlineStyles, .tableHeaderLines, .tableIndent], _, rfl, rfl⟩

/-- Whatever lines go in, the result has a line, holds no line feed inside one and is read back from
its text. -/
theorem convertDocument_reads_back (dialect : Dialect) (d : Document) :
    (dialect.convertDocument d).WellFormed ∧
      Document.ofText (dialect.convertDocument d).toText = dialect.convertDocument d := by
  obtain ⟨before, s, after, f, hstages, hs⟩ := dialect.exists_document_stage
  have hafter : ∀ s ∈ after, s.rule.KeepsLines := by
    intro s' hs'
    apply dialect.stages_keepLines
    rw [hstages]
    exact List.mem_append_right _ (List.mem_cons_of_mem _ hs')
  have hout : (dialect.convertDocument d).WellFormed := by
    rw [convertDocument, hstages]
    exact foldl_wellFormed_of_document hs hafter d
  exact ⟨hout, hout.ofText_toText⟩

end Dialect

/-! ## Where the dialects agree -/

namespace Dialect

theorem mapLines_markLine (d : Document) :
    ((d.mapLines bulletItem.apply).mapLines numberedItem.apply).mapLines heading.apply =
      d.mapLines markLine := by
  rw [Document.mapLines_mapLines, Document.mapLines_mapLines]
  rfl

theorem legacy_convertDocument (d : Document) : legacy.convertDocument d =
    ((d.mapLines markLine).mapText (codeBlock.apply ∘ soleTableHeader.apply)).mapLines
      inlineStyles := by
  rw [← mapLines_markLine, ← Document.mapText_mapText]
  rfl

theorem corrected_convertDocument (d : Document) : corrected.convertDocument d =
    ((((d.mapLines markLine).mapText (panelTable.apply ∘ codeBlock.apply)).mapLines
      inlineStyles).mapText tableHeaders.apply).mapLines tableIndent.apply := by
  rw [← mapLines_markLine, ← Document.mapText_mapText]
  rfl

theorem mapLines_tableIndent_mapText_tableHeaders {d : Document} (hd : d.WellFormed) (h : '|' ∉ d.toText) :
    (d.mapText tableHeaders.apply).mapLines tableIndent.apply = d := by
  have hheads : d.mapText tableHeaders.apply = d := by
    rw [Document.mapText, tableHeaders_eq_self h]
    exact hd.ofText_toText
  rw [hheads]
  exact Document.mapLines_eq_self fun l hl => tableIndent_eq_self fun hm => h (mem_joinLines hl hm)

section
variable {d : Document} (hbar : '|' ∉ d.toText) (hpanel : ¬ panelOpening.toList <:+: d.toText)
include hbar hpanel

/-- Without a bar and the opening of a panel the dialects give the same lines. -/
theorem legacy_convertDocument_eq_corrected : legacy.convertDocument d = corrected.convertDocument d := by
  -- Neither mark is written by the rules for lines or by the fencing.
  have hmark : ∀ mark : Text, (∀ c ∈ mark, c ∉ " *1.#\n".toList) → mark ≠ [] →
      ¬ mark <:+: d.toText → ¬ mark <:+: (d.mapLines markLine).toText := by
    intro mark hm hne h
    have hstep := stepwise_avoids (fun hn => hm '\n' hn (by decide)) hne
    exact hstep.line (markLine_avoids hm hne) d h
  have hbar' := hmark ['|'] (by decide) (by simp) (by rwa [List.singleton_infix_iff])
  have hpanel' := hmark panelOpening.toList (by decide) (by decide) hpanel
  rw [legacy_convertDocument, corrected_convertDocument]
  generalize (d.mapLines markLine) = marked at hbar' hpanel'
  have hfenced := codeBlock_avoids (by decide) (by simp) marked.toText hbar'
  rw [List.singleton_infix_iff] at hbar' hfenced
  have hstart : marked.mapText (codeBlock.apply ∘ soleTableHeader.apply) = marked.mapText codeBlock.apply := by
    rw [Document.mapText, Function.comp_apply, soleTableHeader_eq_self hbar']
    rfl
  have hpanels : marked.mapText (panelTable.apply ∘ codeBlock.apply) = marked.mapText codeBlock.apply := by
    rw [Document.mapText, Function.comp_apply,
      panelTable_eq_self (codeBlock_avoids (by decide) (by decide) _ hpanel')]
    rfl
  rw [hstart, hpanels]
  have hwell : (marked.mapText codeBlock.apply).WellFormed := Document.wellFormed_ofText _
  have hstyled : '|' ∉ ((marked.mapText codeBlock.apply).mapLines inlineStyles).toText := by
    refine (stepwise_not_mem '|').line (inlineStyles_not_mem (by decide)) _ ?_
    rwa [Document.toText_mapText]
  exact (mapLines_tableIndent_mapText_tableHeaders (hwell.mapLines inlineStyles_newline_not_mem)
    hstyled).symm

end

theorem legacy_convertDocument_eq_corrected_block :
    let d : Document := ⟨["* a\n* b".toList, "\x7bcode\x7dc".toList, "\x7bcode\x7d\x7bpanel\x7d".toList]⟩
    '|' ∉ d.toText ∧ ¬ panelOpening.toList <:+: d.toText ∧
      legacy.convertDocument d = corrected.convertDocument d ∧
      (legacy.convertDocument d).toText = "  * a\n* b\n```\nc\n```\x7bpanel\x7d".toList := by
  intro d
  have hbar : '|' ∉ d.toText := by decide
  have hpanel : ¬ panelOpening.toList <:+: d.toText := by decide
  exact ⟨hbar, hpanel, legacy_convertDocument_eq_corrected hbar hpanel, by decide⟩

end Dialect

end JiraMarkup
