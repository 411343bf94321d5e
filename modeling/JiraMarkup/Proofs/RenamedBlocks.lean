import JiraMarkup.Proofs.Renaming

/-!
# Blocks of renamed texts

The patterns of list items, headings, tables, panels and code blocks find in a
renamed text what they find in the text, renamed. The lemmas follow the
definitions, reader by reader.
-/

namespace JiraMarkup

namespace Renaming

variable (f : Renaming)

/-! ## List items and headings -/

theorem mark_commutes {mark : String} {output : Text} (hm : Inside mark.toList) (ho : Inside output) :
    Pattern.Commutes (fun t => (after? mark t).map (⟨output, ·⟩)) f := by
  intro t
  simp only [f.after?_map hm, Option.map_map, Function.comp_def, Match.rename, f.map_eq_self ho]

theorem listMarker_commutes {marker : Char} {bullet : String} (hm : ¬ Outside marker)
    (hb : Inside bullet.toList) : (listMarker marker bullet).Commutes f := by
  intro t
  simp only [listMarker, f.dropWhile_map f.respects_isIndent, f.takeWhile_map (f.respects_beq hm),
    f.dropWhile_map (f.respects_beq hm), f.head?_any_map f.respects_isBlank,
    f.dropWhile_map f.respects_isBlank, f.length_map]
  split
  · rfl
  · simp only [Option.map_some, Match.rename, List.map_append, List.map_replicate, f.map_eq_self hb,
      f.char_eq (show ¬ Outside ' ' by decide)]

theorem headingLine_commutes : heading.pattern.Commutes f := by
  intro t
  have hh : ∀ {c}, f.char c = 'h' ↔ c = 'h' := f.char_eq_iff (by decide)
  have hdot : ∀ {c}, f.char c = '.' ↔ c = '.' := f.char_eq_iff (by decide)
  show headingLine (t.map f.char) = (headingLine t).map (·.rename f)
  by_cases ht : ∃ d title, t = 'h' :: d :: '.' :: title
  · obtain ⟨d, title, rfl⟩ := ht
    simp only [List.map_cons, hh.mpr, hdot.mpr, headingLine, f.headingLevel?_char,
      f.any_map f.respects_isLineEnd]
    cases headingLevel? d with
    | none => rfl
    | some level =>
      have hhash : f.char '#' = '#' := f.char_eq (by decide)
      simp only
      split
      · rfl
      · simp [Match.rename, hhash]
  · have hnone : headingLine t = none := by
      rw [Option.eq_none_iff_forall_ne_some]
      intro m hm
      obtain ⟨d, -, h, -⟩ := headingLine_eq_some hm
      exact ht ⟨d, m.rest, h⟩
    have hnone' : headingLine (t.map f.char) = none := by
      rw [Option.eq_none_iff_forall_ne_some]
      intro m hm
      obtain ⟨d, -, h, -⟩ := headingLine_eq_some hm
      simp only [List.map_eq_cons_iff, hh, hdot] at h
      obtain ⟨_, _, rfl, rfl, d, _, rfl, -, _, u, rfl, rfl, -⟩ := h
      exact ht ⟨d, u, rfl⟩
    rw [hnone, hnone']
    rfl

/-! ## Tables -/

theorem singleBars_commutes : singleBars.pattern.Commutes f :=
  f.mark_commutes (by decide) (by decide)

theorem separatorCells_commutes : separatorCells.pattern.Commutes f := by
  intro t
  show headerCell (t.map f.char) = (headerCell t).map (·.rename f)
  cases t with
  | nil => rfl
  | cons c t =>
    have hbar : f.char c = '|' ↔ c = '|' := f.char_eq_iff (by decide)
    by_cases hc : c = '|'
    · subst hc
      have hne := f.respects_bne (show ¬ Outside '|' by decide)
      rw [List.map_cons, hbar.mpr rfl, headerCell, headerCell, f.takeWhile_map hne, f.dropWhile_map hne,
        List.isEmpty_map]
      split
      · rfl
      · rw [Option.map_some, Match.rename, f.map_eq_self (s := "| --- ".toList)]
    · simp [headerCell, hc, hbar]

theorem tableHead_map (row : Text) : tableHead (row.map f.char) = (tableHead row).map f.char := by
  have hn : f.char '\n' = '\n' := f.char_eq (by decide)
  simp only [tableHead, Rewrite.apply_map f.singleBars_commutes, Rewrite.apply_map f.separatorCells_commutes,
    List.map_cons, List.map_append, List.cons_append, hn]

theorem headerRow?_map (line : Text) :
    headerRow? (line.map f.char) = (headerRow? line).map (·.map f.char) := by
  have hbars : Inside "||".toList := by decide
  simp only [headerRow?, f.dropWhile_map f.respects_isIndent, ← List.map_reverse, f.length_map,
    f.prefix_map_iff hbars, f.suffix_map_iff hbars]
  split <;> rfl

theorem headerLine_commutes : Pattern.Commutes headerLine f := by
  intro t
  have hend := f.respects_isLineEnd.negated
  rw [headerLine, headerLine, f.takeWhile_map hend, f.dropWhile_map hend, f.headerRow?_map, Option.map_map,
    Option.map_map]
  simp [Function.comp_def, Match.rename, f.tableHead_map]

theorem soleTableHeader_commutes : soleTableHeader.pattern.Commutes f := by
  intro t
  show (headerLine _).filter _ = ((headerLine t).filter _).map _
  rw [f.headerLine_commutes t]
  cases headerLine t with
  | none => rfl
  | some m => simp [Option.filter, Match.rename]

theorem tableIndent_commutes : tableIndent.pattern.Commutes f := by
  intro t
  show (after? "|" _).map _ = ((after? "|" _).map _).map _
  rw [f.dropWhile_map f.respects_isIndent]
  exact f.mark_commutes (by decide) (by decide) (t.dropWhile isIndent)

/-! ## Panels -/

theorem dropNewline_map (t : Text) : dropNewline (t.map f.char) = (dropNewline t).map f.char := by
  cases t with
  | nil => rfl
  | cons c t =>
    have hn : f.char c = '\n' ↔ c = '\n' := f.char_eq_iff (by decide)
    by_cases hc : c = '\n'
    · rw [List.map_cons, hn.mpr hc, hc]
      rfl
    · simp [dropNewline, hc, hn]

theorem panelBody?_map (t : Text) :
    panelBody? (t.map f.char) = (panelBody? t).map fun p => (p.1.map f.char, p.2.map f.char) := by
  induction t with
  | nil => rfl
  | cons c t ih =>
    have hclosing : Inside panelClosing.toList := by decide
    have hafter := f.after?_map hclosing (c :: t)
    rw [List.map_cons] at hafter
    rw [List.map_cons, panelBody?, panelBody?, hafter, ih, f.after?_map hclosing]
    cases after? panelClosing (c :: t) with
    | some rest => rfl
    | none =>
      simp only [Option.map_none, f.char_eq_iff (show ¬ Outside '\n' by decide)]
      split
      · rw [Option.map_map, Option.map_map]
        rfl
      · rw [Option.map_map, Option.map_map]
        rfl


theorem panel?_map (t : Text) : panel? (t.map f.char) =
    (panel? t).map fun p => ⟨p.title.map f.char, p.body.map f.char, p.rest.map f.char⟩ := by
  have hopening : Inside panelOpening.toList := by decide
  have hbrace := f.respects_bne (show ¬ Outside '}' by decide)
  rw [panel?, panel?, f.after?_map hopening]
  cases after? panelOpening t with
  | none => rfl
  | some inner =>
    simp only [Option.map_some, Option.bind_eq_bind, Option.bind_some, f.takeWhile_map hbrace,
      f.dropWhile_map hbrace, f.after?_map (show Inside "\x7d".toList by decide)]
    cases after? "\x7d" (inner.dropWhile (· != '}')) with
    | none => rfl
    | some opened =>
      simp only [Option.map_some, Option.bind_some, f.dropNewline_map, f.panelBody?_map]
      cases panelBody? (dropNewline opened) <;> rfl

theorem panelTable_commutes : panelTable.pattern.Commutes f := by
  intro t
  show (panel? _).map _ = ((panel? t).map _).map _
  have hopening : "\n| ".toList.map f.char = "\n| ".toList := f.map_eq_self
  have hmiddle : " |\n| --- |\n| ".toList.map f.char = " |\n| --- |\n| ".toList := f.map_eq_self
  have hclosing : " |".toList.map f.char = " |".toList := f.map_eq_self
  rw [f.panel?_map, Option.map_map, Option.map_map]
  simp only [Function.comp_def, Match.rename, List.map_append, hopening, hmiddle, hclosing]

/-! ## Code blocks -/

theorem dropSeparator_map (t : Text) : dropSeparator (t.map f.char) = (dropSeparator t).map f.char := by
  cases t with
  | nil => rfl
  | cons c t =>
    have hcolon : f.char c = ':' ↔ c = ':' := f.char_eq_iff (by decide)
    have hbar : f.char c = '|' ↔ c = '|' := f.char_eq_iff (by decide)
    by_cases h₁ : c = ':'
    · rw [List.map_cons, hcolon.mpr h₁, h₁]
      rfl
    · by_cases h₂ : c = '|'
      · rw [List.map_cons, hbar.mpr h₂, h₂]
        rfl
      · simp [dropSeparator, h₁, h₂, hcolon, hbar]

theorem attributeName?_map (t : Text) :
    attributeName? (t.map f.char) = (attributeName? t).map (·.map f.char) := by
  have hnames : ∀ name ∈ codeAttributes, Inside (name ++ "=").toList := by decide
  rw [attributeName?, attributeName?, f.dropSeparator_map]
  generalize codeAttributes = names at hnames
  induction names with
  | nil => rfl
  | cons name names ih =>
    rw [List.forall_mem_cons] at hnames
    rw [List.findSome?_cons, List.findSome?_cons, f.after?_map hnames.1]
    cases after? (name ++ "=") (dropSeparator t) with
    | some r => rfl
    | none => exact ih hnames.2

theorem occurs_codeClosing_map (t : Text) : occurs codeClosing (t.map f.char) = occurs codeClosing t :=
  f.occurs_map (by decide) t

theorem tagCanEnd_map (t : Text) : tagCanEnd (t.map f.char) = tagCanEnd t := by
  rw [tagCanEnd, tagCanEnd, f.breakFirst?_map (by decide) f.respects_isLineEnd]
  cases breakFirst? isLineEnd "\x7d" t with
  | none => rfl
  | some p => exact f.occurs_codeClosing_map p.2

theorem attribute?_map (t : Text) : attribute? (t.map f.char) = (attribute? t).map (·.map f.char) := by
  rw [attribute?, attribute?, f.attributeName?_map]
  cases attributeName? t with
  | none => rfl
  | some r =>
    cases r with
    | nil => rfl
    | cons c value =>
      simp only [Option.map_some, List.map_cons, f.tagCanEnd_map,
        f.respects_bne (show ¬ Outside '\n' by decide) c]
      split <;> rfl

theorem tagEnd?_map (t : Text) : tagEnd? (t.map f.char) = (tagEnd? t).map (·.map f.char) := by
  cases t with
  | nil => rfl
  | cons c t =>
    have hbrace : f.char c = '}' ↔ c = '}' := f.char_eq_iff (by decide)
    by_cases hc : c = '}'
    · subst hc
      rw [List.map_cons, hbrace.mpr rfl, tagEnd?, tagEnd?, f.occurs_codeClosing_map]
      split <;> rfl
    · simp [tagEnd?, hc, hbrace]

theorem valueEnd?_map (n : Nat) (t : Text) :
    valueEnd? n (t.map f.char) = (valueEnd? n t).map (·.map f.char) := by
  induction t generalizing n with
  | nil => cases n <;> rfl
  | cons c t ih =>
    cases n with
    | succ n => exact ih n
    | zero =>
      have hattr := f.attribute?_map (c :: t)
      have hend := f.tagEnd?_map (c :: t)
      rw [List.map_cons] at hattr hend
      rw [List.map_cons, valueEnd?, valueEnd?, hattr, hend]
      cases attribute? (c :: t) with
      | some value => simp only [Option.map_some, f.length_map, ih]
      | none =>
        cases tagEnd? (c :: t) with
        | some body => rfl
        | none =>
          simp only [Option.map_none, f.char_eq_iff (show ¬ Outside '\n' by decide), ih]
          split <;> rfl

theorem attributesEnd?_map (t : Text) :
    attributesEnd? (t.map f.char) = (attributesEnd? t).map (·.map f.char) := by
  rw [attributesEnd?, attributesEnd?, f.attribute?_map]
  cases attribute? t with
  | none => exact f.tagEnd?_map t
  | some value => exact f.valueEnd?_map 0 value

theorem language?_map (t : Text) :
    language? (t.map f.char) = (language? t).map fun p => (p.1.map f.char, p.2.map f.char) := by
  induction t with
  | nil => rfl
  | cons c t ih =>
    simp only [List.map_cons, language?, f.isLower_char, ih, f.attributesEnd?_map]
    split
    · cases language? t with
      | some p => rfl
      | none =>
        simp only [Option.map_none]
        rw [Option.map_map, Option.map_map]
        rfl
    · rfl

theorem openingTag?_map (t : Text) :
    openingTag? (t.map f.char) = (openingTag? t).map fun p => (p.1.map f.char, p.2.map f.char) := by
  rw [openingTag?, openingTag?, f.after?_map (by decide), f.attributesEnd?_map]
  cases after? ":" t with
  | none => cases attributesEnd? t <;> rfl
  | some u =>
    simp only [Option.map_some, Option.bind_some, f.language?_map]
    cases language? u with
    | some p => rfl
    | none => cases attributesEnd? t <;> rfl

theorem fence_map (language body : Text) :
    fence (language.map f.char) (body.map f.char) = (fence language body).map f.char := by
  have htrim : trimNewlines (body.map f.char) = (trimNewlines body).map f.char := by
    rw [trimNewlines, f.dropNewline_map, ← List.map_reverse, f.dropNewline_map, ← List.map_reverse,
      trimNewlines]
  have hn : f.char '\n' = '\n' := f.char_eq (by decide)
  have hopening : "```".toList.map f.char = "```".toList := f.map_eq_self
  have hclosing : "\n```".toList.map f.char = "\n```".toList := f.map_eq_self
  simp only [fence, htrim, List.map_append, List.map_cons, hopening, hclosing, hn]

theorem codeSpan_commutes : Pattern.Commutes codeSpan f := by
  intro t
  rw [codeSpan, codeSpan, f.after?_map (by decide)]
  cases after? codeOpening t with
  | none => rfl
  | some tag =>
    simp only [Option.map_some, Option.bind_eq_bind, Option.bind_some, f.openingTag?_map]
    cases openingTag? tag with
    | none => rfl
    | some p =>
      have hbreak := f.breakFirst?_map (show Inside codeClosing.toList by decide)
        (show f.Respects fun _ => false from fun _ => rfl) p.2
      simp only [Option.map_some, Option.bind_some, hbreak]
      cases breakFirst? (fun _ => false) codeClosing p.2 with
      | none => rfl
      | some q => exact congrArg (fun u => some (Match.mk u (q.2.map f.char))) (f.fence_map p.1 q.1)

/-! ## All block rules -/

theorem blockRewrites_commute : ∀ r ∈ blockRewrites, r.pattern.Commutes f := by
  simp only [blockRewrites, List.forall_mem_cons]
  refine ⟨?bulletItem, ?numberedItem, f.headingLine_commutes, f.soleTableHeader_commutes,
    f.codeSpan_commutes, f.panelTable_commutes, f.headerLine_commutes, f.tableIndent_commutes, by simp⟩
  case bulletItem => exact f.listMarker_commutes (by decide) (by decide)
  case numberedItem => exact f.listMarker_commutes (by decide) (by decide)

end Renaming

end JiraMarkup
