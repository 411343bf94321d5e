import JiraMarkup.Dialect
import JiraMarkup.Proofs.CodeSpan
import JiraMarkup.Proofs.InlineSpan
import JiraMarkup.Proofs.LineMarkers
import JiraMarkup.Proofs.Lines
import JiraMarkup.Proofs.TableHead

/-!
# Conversions

A conversion is followed stage by stage: a relation between texts that holds of
every rewrite, and that lines and chains of rewrites keep, holds of the whole
chain. No stage lets a line feed into a line, so that a conversion may start
from lines or from their text.
-/

namespace JiraMarkup

/-! ## Relations kept by chains -/

/-- A relation between a text and its rewritten form that can be followed over the lines of a
document and over the stages of a chain. -/
structure Stepwise (R : Text → Text → Prop) : Prop where
  refl (t : Text) : R t t
  trans {s t u : Text} : R s t → R t u → R s u
  join {s t s' t' : Text} : R s t → R s' t' → R (s ++ '\n' :: s') (t ++ '\n' :: t')

def blockRewrites : List Rewrite :=
  [bulletItem, numberedItem, heading, soleTableHeader, codeBlock, panelTable, tableHeaders, tableIndent]

namespace Stepwise

variable {R : Text → Text → Prop} (hR : Stepwise R)
include hR

theorem joinLines {f : Text → Text} (hf : ∀ l, R l (f l)) :
    ∀ ls : List Text, R (joinLines ls) (JiraMarkup.joinLines (ls.map f))
  | [] => hR.refl []
  | [l] => hf l
  | l :: m :: ls => hR.join (hf l) (joinLines hf (m :: ls))

theorem line {f : Text → Text} (hf : ∀ l, R l (f l)) (d : Document) :
    R d.toText ((Rule.line f).apply d).toText := hR.joinLines hf d.lines

omit hR in
theorem document {f : Text → Text} (hf : ∀ t, R t (f t)) (d : Document) :
    R d.toText ((Rule.document f).apply d).toText := by
  rw [Rule.apply, Document.toText_mapText]
  exact hf d.toText

theorem restyle {chain : List InlineStyle} (h : ∀ style ∈ chain, ∀ l, R l (style.rewrite.apply l))
    (line : Text) : R line (restyle chain line) := by
  induction chain generalizing line with
  | nil => exact hR.refl line
  | cons style chain ih =>
    exact hR.trans (h style List.mem_cons_self line) (ih (fun s hs => h s (List.mem_cons_of_mem _ hs)) _)

theorem foldl_stages {stages : List Stage} (h : ∀ s ∈ stages, ∀ d, R d.toText (s.apply d).toText)
    (d : Document) : R d.toText (stages.foldl (fun d s => s.apply d) d).toText := by
  induction stages generalizing d with
  | nil => exact hR.refl d.toText
  | cons s stages ih =>
    exact hR.trans (h s List.mem_cons_self d) (ih (fun s hs => h s (List.mem_cons_of_mem _ hs)) _)

theorem convertDocument (hblock : ∀ r ∈ blockRewrites, ∀ t, R t (r.apply t))
    (hinline : ∀ l, R l (inlineStyles l)) (dialect : Dialect) (d : Document) :
    R d.toText (dialect.convertDocument d).toText := by
  simp only [blockRewrites, List.forall_mem_cons] at hblock
  obtain ⟨hbullet, hnumbered, hheading, hsole, hcode, hpanel, hheads, hindent, -⟩ := hblock
  refine hR.foldl_stages ?_ d
  cases dialect with
  | legacy =>
    simp only [Dialect.stages, List.forall_mem_cons]
    exact ⟨hR.line hbullet, hR.line hnumbered, hR.line hheading, document hsole, document hcode,
      hR.line hinline, by simp⟩
  | corrected =>
    simp only [Dialect.stages, List.forall_mem_cons]
    exact ⟨hR.line hbullet, hR.line hnumbered, hR.line hheading, document hcode, document hpanel,
      hR.line hinline, document hheads, hR.line hindent, by simp⟩

theorem convert (hblock : ∀ r ∈ blockRewrites, ∀ t, R t (r.apply t))
    (hinline : ∀ l, R l (inlineStyles l)) (dialect : Dialect) (t : Text) : R t (dialect.convert t) := by
  have h := hR.convertDocument hblock hinline dialect (.ofText t)
  rwa [Document.toText_ofText] at h

end Stepwise

/-! ## Line feeds -/

def Rule.KeepsLines : Rule → Prop
  | line f => ∀ l, '\n' ∉ l → '\n' ∉ f l
  | document _ => True

theorem Rule.KeepsLines.apply_wellFormed {rule : Rule} (h : rule.KeepsLines) {d : Document}
    (hd : d.WellFormed) : (rule.apply d).WellFormed := by
  cases rule with
  | line f => exact hd.mapLines h
  | document f => exact Document.wellFormed_ofText _

theorem apply_newline_not_mem {r : Rewrite} {d w : String} (h : r.pattern.Respells (Swaps d w))
    (hw : '\n' ∉ w.toList) (l : Text) (hl : '\n' ∉ l) : '\n' ∉ r.apply l :=
  (Rewrite.apply_respelled h l).not_mem (fun _ _ h hn => hw (h.written _ hn)) hl

theorem bulletItem_newline_not_mem : ∀ l, '\n' ∉ l → '\n' ∉ bulletItem.apply l :=
  apply_newline_not_mem (listMarker_respells '*' "* ") (by decide)

theorem numberedItem_newline_not_mem : ∀ l, '\n' ∉ l → '\n' ∉ numberedItem.apply l :=
  apply_newline_not_mem (listMarker_respells '#' "1. ") (by decide)

theorem heading_newline_not_mem : ∀ l, '\n' ∉ l → '\n' ∉ heading.apply l :=
  apply_newline_not_mem heading_respells (by decide)

theorem markLine_newline_not_mem (l : Text) (hl : '\n' ∉ l) : '\n' ∉ markLine l :=
  heading_newline_not_mem _ (numberedItem_newline_not_mem _ (bulletItem_newline_not_mem l hl))

theorem tableIndent_newline_not_mem : ∀ l, '\n' ∉ l → '\n' ∉ tableIndent.apply l :=
  apply_newline_not_mem tableIndent_respells (by decide)

theorem stepwise_not_mem (c : Char) : Stepwise fun s t => c ∉ s → c ∉ t where
  refl _ h := h
  trans h h' hs := h' (h hs)
  join h h' hs := by
    simp only [List.mem_append, List.mem_cons, not_or] at hs ⊢
    exact ⟨h hs.1, hs.2.1, h' hs.2.2⟩

theorem inlineStyles_not_mem {c : Char} (hc : c ∉ writtenMarks.toList) (l : Text) :
    c ∉ l → c ∉ inlineStyles l := by
  refine (stepwise_not_mem c).restyle (fun style hs l => ?_) l
  exact (Rewrite.apply_respelled (inlineChain_writes style hs) l).not_mem
    fun _ _ h hn => hc (h _ hn)

theorem inlineStyles_newline_not_mem (l : Text) : '\n' ∉ l → '\n' ∉ inlineStyles l :=
  inlineStyles_not_mem (by decide) l

/-! ## Chains as compositions -/

def Rule.onWhole : Rule → Text → Text
  | line f => onLines f
  | document f => f

theorem Rule.toText_apply (rule : Rule) {d : Document} (hd : d.WellFormed) :
    (rule.apply d).toText = rule.onWhole d.toText := by
  cases rule with
  | line f =>
    exact congrArg (fun ls => joinLines (ls.map f))
      (splitLines_joinLines hd.lines_ne_nil hd.newline_not_mem).symm
  | document f => exact Document.toText_mapText f d

/-- Lines stay lines along a chain, which hence is the composition of its rules. -/
theorem foldl_stages {stages : List Stage} (h : ∀ s ∈ stages, s.rule.KeepsLines) {d : Document}
    (hd : d.WellFormed) : (stages.foldl (fun d s => s.apply d) d).WellFormed ∧
      (stages.foldl (fun d s => s.apply d) d).toText =
        stages.foldl (fun t s => s.rule.onWhole t) d.toText := by
  induction stages generalizing d with
  | nil => exact ⟨hd, rfl⟩
  | cons s stages ih =>
    have hs := (h s List.mem_cons_self).apply_wellFormed hd
    rw [List.foldl_cons, List.foldl_cons, ← s.rule.toText_apply hd]
    exact ih (fun s hs => h s (List.mem_cons_of_mem _ hs)) hs

theorem onLines_markLine (t : Text) :
    onLines heading.apply (onLines numberedItem.apply (onLines bulletItem.apply t)) =
      onLines markLine t := by
  rw [onLines_onLines bulletItem_newline_not_mem, onLines_onLines]
  · rfl
  · exact fun l hl => numberedItem_newline_not_mem _ (bulletItem_newline_not_mem l hl)

namespace Dialect

theorem stages_keepLines (dialect : Dialect) : ∀ s ∈ dialect.stages, s.rule.KeepsLines := by
  cases dialect with
  | legacy =>
    simp only [stages, List.forall_mem_cons]
    exact ⟨bulletItem_newline_not_mem, numberedItem_newline_not_mem, heading_newline_not_mem, trivial,
      trivial, inlineStyles_newline_not_mem, by simp⟩
  | corrected =>
    simp only [stages, List.forall_mem_cons]
    exact ⟨bulletItem_newline_not_mem, numberedItem_newline_not_mem, heading_newline_not_mem, trivial,
      trivial, inlineStyles_newline_not_mem, trivial, tableIndent_newline_not_mem, by simp⟩

theorem convertDocument_wellFormed (dialect : Dialect) {d : Document} (hd : d.WellFormed) :
    (dialect.convertDocument d).WellFormed := (foldl_stages dialect.stages_keepLines hd).1

theorem convert_eq_foldl (dialect : Dialect) (t : Text) :
    dialect.convert t = dialect.stages.foldl (fun t s => s.rule.onWhole t) t := by
  rw [convert, convertDocument, (foldl_stages dialect.stages_keepLines (Document.wellFormed_ofText t)).2,
    Document.toText_ofText]

theorem legacy_convert (t : Text) : legacy.convert t =
    onLines inlineStyles (codeBlock.apply (soleTableHeader.apply (onLines markLine t))) := by
  rw [convert_eq_foldl, ← onLines_markLine]
  simp only [stages, List.foldl_cons, List.foldl_nil, Stage.bulletList, Stage.numberedList, Stage.header,
    Stage.tableHeader, Stage.codeBlock, Stage.inlineStyles, Rule.onWhole]

theorem corrected_convert (t : Text) : corrected.convert t =
    onLines tableIndent.apply (tableHeaders.apply (onLines inlineStyles
      (panelTable.apply (codeBlock.apply (onLines markLine t))))) := by
  rw [convert_eq_foldl, ← onLines_markLine]
  simp only [stages, List.foldl_cons, List.foldl_nil, Stage.bulletList, Stage.numberedList, Stage.header,
    Stage.codeBlock, Stage.panelToTable, Stage.inlineStyles, Stage.tableHeaderLines, Stage.tableIndent,
    Rule.onWhole]

theorem convertDocument_nil (dialect : Dialect) :
    dialect.convertDocument ⟨[]⟩ = dialect.convertDocument (.ofText []) := by
  cases dialect <;> rfl

/-- Converting lines and converting their text give the same lines. -/
theorem lines_convertDocument (dialect : Dialect) {ls : List Text} (h : ∀ l ∈ ls, '\n' ∉ l) :
    (dialect.convertDocument ⟨ls⟩).lines = splitLines (dialect.convert (joinLines ls)) := by
  have hstart : dialect.convertDocument ⟨ls⟩ = dialect.convertDocument (.ofText (joinLines ls)) := by
    by_cases hls : ls = []
    · rw [hls]; exact convertDocument_nil dialect
    · exact congrArg _ (Document.WellFormed.ofText_toText ⟨hls, h⟩).symm
  have hout := dialect.convertDocument_wellFormed (Document.wellFormed_ofText (joinLines ls))
  rw [hstart, convert, Document.toText]
  exact (splitLines_joinLines hout.lines_ne_nil hout.newline_not_mem).symm

theorem lines_convertDocument_block :
    (∀ l ∈ ["\x7bcode\x7dmake\x7bcode\x7d".toList, "* last".toList], '\n' ∉ l) ∧
      (legacy.convertDocument ⟨["\x7bcode\x7dmake\x7bcode\x7d".toList, "* last".toList]⟩).lines =
        splitLines (legacy.convert "\x7bcode\x7dmake\x7bcode\x7d\n* last".toList) :=
  ⟨by decide, lines_convertDocument legacy (by decide)⟩

end Dialect

end JiraMarkup
