import JiraMarkup.Proofs.Conversion
import JiraMarkup.Proofs.StyleMarks

/-!
# Plain text

A style needs two marks around its span, a block rule its mark in front of a
line. Text that has no more than single marks, none of them in front of a line,
comes out as it went in; the corrected dialect, too, changes in it no more than
the indentation of rows.
-/

namespace JiraMarkup

/-! ## Plain lines -/

def BeginsItem (marker : Char) (l : Text) : Prop :=
  ∃ indent n blank rest, (∀ c ∈ indent, c ∈ " \t".toList) ∧ blank ∈ "\t\x0c\r ".toList ∧
    l = indent ++ List.replicate (n + 1) marker ++ blank :: rest

def BeginsHeading (l : Text) : Prop :=
  ∃ digit rest, digit ∈ "0123456".toList ∧ l = 'h' :: digit :: '.' :: rest

def BeginsQuote (l : Text) : Prop :=
  ∃ blank rest, blank ∈ "\t\x0c\r ".toList ∧ l = "bq.".toList ++ blank :: rest

def IndentedRow (l : Text) : Prop :=
  ∃ indent rest, indent ≠ [] ∧ (∀ c ∈ indent, c ∈ " \t".toList) ∧ l = indent ++ '|' :: rest

/-- No mark in front of the line, and at most one of each that can stand inside. -/
structure PlainLine (l : Text) : Prop where
  count_le_one : ∀ mark ∈ "*_+^~-!".toList, l.count mark ≤ 1
  no_item : ∀ marker ∈ "*#".toList, ¬ BeginsItem marker l
  no_heading : ¬ BeginsHeading l
  no_quote : ¬ BeginsQuote l

structure PlainText (t : Text) : Prop where
  brace_not_mem : '{' ∉ t
  bracket_not_mem : '[' ∉ t
  bars_absent : ¬ "||".toList <:+: t
  plainLine : ∀ l ∈ splitLines t, PlainLine l

/-! ## Marks in front of a line -/

section
variable {l : Text} (hl : '\n' ∉ l)
include hl

theorem isBlank_iff_of_mem {c : Char} (hc : c ∈ l) : isBlank c = true ↔ c ∈ "\t\x0c\r ".toList := by
  have hn : c ≠ '\n' := fun he => hl (he ▸ hc)
  simp [isBlank_iff, hn]
  tauto

theorem listMarker_eq_none_iff {marker : Char} (bullet : String) (hm : isBlank marker = false) :
    listMarker marker bullet l = none ↔ ¬ BeginsItem marker l := by
  have hi : isIndent marker = false := by
    simp only [isBlank, Bool.or_eq_false_iff] at hm
    simp [isIndent, hm]
  constructor
  · rintro h ⟨indent, n, blank, rest, hindent, hb, rfl⟩
    have hb' : isBlank blank = true := (isBlank_iff_of_mem hl (by simp)).mpr hb
    have hne : (blank :: rest).head? ≠ some marker := by
      rintro he
      rw [← Option.some.inj he, hb'] at hm
      cases hm
    have hrun := listMarker_run bullet hi (fun c hc => isIndent_iff.mpr (hindent c hc)) hne n
    rw [h] at hrun
    simp [hb'] at hrun
  · intro h
    rw [Option.eq_none_iff_forall_ne_some]
    intro m hsome
    obtain ⟨indent, blanks, depth, rfl, hindent, hd, hne, hbs, -⟩ := listMarker_eq_some hsome
    obtain ⟨blank, blanks, rfl⟩ := List.exists_cons_of_ne_nil hne
    obtain ⟨n, rfl⟩ := Nat.exists_eq_succ_of_ne_zero hd
    refine h ⟨indent, n, blank, blanks ++ m.rest, fun c hc => isIndent_iff.mp (hindent c hc), ?_, by simp⟩
    exact (isBlank_iff_of_mem hl (by simp)).mp (hbs blank List.mem_cons_self)

theorem headingLine_eq_none_iff : headingLine l = none ↔ ¬ BeginsHeading l := by
  constructor
  · rintro h ⟨digit, rest, hd, rfl⟩
    have hlevel : ∀ d ∈ "0123456".toList, (headingLevel? d).isSome = true := by decide
    obtain ⟨level, hlevel⟩ := Option.isSome_iff_exists.mp (hlevel digit hd)
    have hrest : '\n' ∉ rest := fun hm => hl (by simp [hm])
    rw [headingLine_title hlevel hrest] at h
    cases h
  · intro h
    rw [Option.eq_none_iff_forall_ne_some]
    intro m hm
    obtain ⟨digit, level, ht, hd, -⟩ := headingLine_eq_some hm
    exact h ⟨digit, m.rest, (headingLevel?_eq_some hd).1, ht⟩

theorem blockquote_eq_none_iff : blockquote l = none ↔ ¬ BeginsQuote l := by
  constructor
  · rintro h ⟨blank, rest, hb, rfl⟩
    have hb' : isBlank blank = true := (isBlank_iff_of_mem hl (by simp)).mpr hb
    have hguard : (guard (((blank :: rest).head?.any isBlank) = true) : Option Unit) = some () := by
      simp [hb', guard]
    simp only [blockquote, after?_append, Option.bind_eq_bind, Option.bind_some, hguard] at h
    cases h
  · intro h
    rw [Option.eq_none_iff_forall_ne_some]
    intro m hm
    obtain ⟨blanks, hne, hb, rfl, -⟩ := blockquote_eq_some hm
    obtain ⟨blank, blanks, rfl⟩ := List.exists_cons_of_ne_nil hne
    refine h ⟨blank, blanks ++ m.rest, ?_, by simp⟩
    exact (isBlank_iff_of_mem hl (by simp)).mp (hb blank List.mem_cons_self)

end

theorem tableIndent_apply_indented {indent : Text} (hi : ∀ c ∈ indent, isIndent c = true) (rest : Text) :
    tableIndent.apply (indent ++ '|' :: rest) = '|' :: rest := by
  have hmatch : tableIndent.pattern (indent ++ '|' :: rest) = some ⟨['|'], rest⟩ := by
    have hbar : ('|' :: rest).dropWhile isIndent = "|".toList ++ rest := rfl
    show (after? "|" _).map _ = _
    rw [List.dropWhile_append_of_pos hi, hbar, after?_append]
    rfl
  exact Rewrite.apply_textStart_of_some rfl tableIndent_respells.consumes hmatch

theorem tableIndent_eq_self_iff (l : Text) : tableIndent.apply l = l ↔ ¬ IndentedRow l := by
  constructor
  · rintro h ⟨indent, rest, hne, hi, rfl⟩
    rw [tableIndent_apply_indented (fun c hc => isIndent_iff.mpr (hi c hc))] at h
    exact hne (List.append_left_eq_self.mp h.symm)
  · intro h
    cases hbar : after? "|" (l.dropWhile isIndent) with
    | none => exact Rewrite.apply_textStart_of_none rfl (Option.map_eq_none_iff.mpr hbar)
    | some rest =>
      have hl : l = l.takeWhile isIndent ++ '|' :: rest := by
        conv_lhs => rw [← List.takeWhile_append_dropWhile (p := isIndent) (l := l),
          after?_eq_some_iff.mp hbar]
        rfl
      have hindent : l.takeWhile isIndent = [] := by
        refine Classical.byContradiction fun hne => h ⟨_, rest, hne, fun c hc => ?_, hl⟩
        exact isIndent_iff.mp (List.mem_takeWhile_imp hc)
      rw [hindent] at hl
      rw [hl]
      exact tableIndent_apply_indented (List.forall_mem_nil _) rest

/-! ## Rules on plain lines -/

section
variable {l : Text} (hl : PlainLine l)
include hl

theorem PlainLine.markLine_eq_self (hn : '\n' ∉ l) : markLine l = l := by
  have hbullet : bulletItem.apply l = l := Rewrite.apply_textStart_of_none rfl
    ((listMarker_eq_none_iff hn "* " (by decide)).mpr (hl.no_item '*' (by decide)))
  have hnumbered : numberedItem.apply l = l := Rewrite.apply_textStart_of_none rfl
    ((listMarker_eq_none_iff hn "1. " (by decide)).mpr (hl.no_item '#' (by decide)))
  rw [markLine, hbullet, hnumbered]
  exact Rewrite.apply_textStart_of_none rfl ((headingLine_eq_none_iff hn).mpr hl.no_heading)

theorem PlainLine.not_hasMarks (hbrace : '{' ∉ l) (hbracket : '[' ∉ l) {mark : String × String}
    (hm : '{' ∈ (mark.1 ++ mark.2).toList ∨ '[' ∈ (mark.1 ++ mark.2).toList ∨
      ∃ c ∈ "*_+^~-!".toList, (mark.1 ++ mark.2).toList = [c, c]) : ¬ HasMarks mark l := by
  intro h
  rcases hm with hm | hm | ⟨c, hc, hm⟩
  · exact hbrace (h.2.subset hm)
  · exact hbracket (h.2.subset hm)
  · have htwice := h.2
    rw [hm] at htwice
    have := List.replicate_sublist_iff.mp (show (List.replicate 2 c).Sublist l from htwice)
    have := hl.count_le_one c hc
    omega

theorem PlainLine.inlineStyles_eq_self (hn : '\n' ∉ l) (hbrace : '{' ∉ l) (hbracket : '[' ∉ l) :
    inlineStyles l = l := by
  have hquote : Rewrite.apply ⟨.textStart, blockquote⟩ l = l :=
    Rewrite.apply_textStart_of_none rfl ((blockquote_eq_none_iff hn).mpr hl.no_quote)
  -- The mark of a quotation may stand inside the line, the others may not.
  have hbefore : restyle (inlineChain.take 11) l = l :=
    restyle_eq_self (List.forall₂_take 11 inlineChain_opens) fun mark hm =>
      hl.not_hasMarks hbrace hbracket (by revert mark; decide)
  have hafter : ∀ mark ∈ styleMarks.drop 12, ¬ HasMarks mark l := fun mark hm =>
    hl.not_hasMarks hbrace hbracket (by revert mark; decide)
  have h := inlineStyles_eq_apply (i := 11) rfl hbefore (fun mark hm => hquote.symm ▸ hafter mark hm)
  exact h.trans hquote

end

/-! ## Conversions of plain text -/

section
variable {t : Text} (ht : PlainText t)
include ht

theorem PlainText.onLines_markLine : onLines markLine t = t :=
  (onLines_eq_self_iff markLine_newline_not_mem).mpr fun l hl =>
    (ht.plainLine l hl).markLine_eq_self (not_mem_of_mem_splitLines hl)

theorem PlainText.codeBlock_eq_self : codeBlock.apply t = t :=
  JiraMarkup.codeBlock_eq_self fun h => ht.brace_not_mem (h.subset (by decide))

theorem PlainText.onLines_inlineStyles : onLines inlineStyles t = t := by
  refine (onLines_eq_self_iff inlineStyles_newline_not_mem).mpr fun l hl => ?_
  have hmem : ∀ c ∈ l, c ∈ t := fun c hc => joinLines_splitLines t ▸ mem_joinLines hl hc
  exact (ht.plainLine l hl).inlineStyles_eq_self (not_mem_of_mem_splitLines hl)
    (fun h => ht.brace_not_mem (hmem _ h)) fun h => ht.bracket_not_mem (hmem _ h)

/-- The legacy dialect leaves plain text alone, and so does the corrected one if no row is indented. -/
theorem PlainText.convert_eq_self : Dialect.legacy.convert t = t ∧
    (Dialect.corrected.convert t = t ↔ ∀ l ∈ splitLines t, ¬ IndentedRow l) := by
  constructor
  · rw [Dialect.legacy_convert, ht.onLines_markLine, soleTableHeader_eq_self_of_absent ht.bars_absent,
      ht.codeBlock_eq_self, ht.onLines_inlineStyles]
  · have hpanel : panelTable.apply t = t :=
      panelTable_eq_self fun h => ht.brace_not_mem (h.subset (by decide))
    rw [Dialect.corrected_convert, ht.onLines_markLine, ht.codeBlock_eq_self, hpanel, ht.onLines_inlineStyles,
      tableHeaders_eq_self_of_absent ht.bars_absent, onLines_eq_self_iff tableIndent_newline_not_mem]
    exact forall₂_congr fun l _ => tableIndent_eq_self_iff l

end

theorem PlainText.convert_eq_self_lines :
    let t := "| a*b ]\n*c d\x7d -e\nh7. bq. x_\n|y".toList
    PlainText t ∧ Dialect.legacy.convert t = t ∧ Dialect.corrected.convert t = t := by
  intro t
  have hlines : splitLines t =
      ["| a*b ]".toList, "*c d\x7d -e".toList, "h7. bq. x_".toList, "|y".toList] := by decide
  have hplain : ∀ l : Text, '\n' ∉ l → (∀ mark ∈ "*_+^~-!".toList, l.count mark ≤ 1) →
      (∀ marker ∈ "*#".toList, listMarker marker "" l = none) → headingLine l = none →
      blockquote l = none → PlainLine l := by
    intro l hn hcount hitem hheading hquote
    refine ⟨hcount, fun marker hm => ?_, (headingLine_eq_none_iff hn).mp hheading,
      (blockquote_eq_none_iff hn).mp hquote⟩
    exact (listMarker_eq_none_iff hn "" (by revert marker; decide)).mp (hitem marker hm)
  have ht : PlainText t := by
    refine ⟨by decide, by decide, by decide, ?_⟩
    rw [hlines]
    simp only [List.forall_mem_cons]
    refine ⟨hplain _ ?_ ?_ ?_ ?_ ?_, hplain _ ?_ ?_ ?_ ?_ ?_, hplain _ ?_ ?_ ?_ ?_ ?_,
      hplain _ ?_ ?_ ?_ ?_ ?_, by simp⟩ <;> decide
  have hrows : ∀ l ∈ splitLines t, ¬ IndentedRow l := by
    simp only [hlines, ← tableIndent_eq_self_iff]
    decide
  exact ⟨ht, ht.convert_eq_self.1, ht.convert_eq_self.2.mpr hrows⟩

end JiraMarkup
