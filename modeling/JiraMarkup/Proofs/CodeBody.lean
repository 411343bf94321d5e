import JiraMarkup.Proofs.CodeTag
import JiraMarkup.Proofs.Locality
import JiraMarkup.Proofs.StyleMarks

/-!
# The body of a code block

A block that stands on lines of its own is fenced with its language, but its
body is rewritten like any other text: the rules for lines read it before it is
fenced and the styles after that. It arrives as it was only if they leave it
alone.
-/

namespace JiraMarkup

def framed (first last body : Text) : Text := first ++ '\n' :: (body ++ '\n' :: last)

def taggedBlock (lang body : Text) : Text :=
  framed (codeOpening.toList ++ ':' :: (lang ++ ['}'])) codeClosing.toList body

def fencedBlock (lang body : Text) : Text := framed ("```".toList ++ lang) "```".toList body

/-- The stages that rewrite a body: all but the one that fences it and the one that only a text of a
single line can match. -/
def Dialect.bodyStages (dialect : Dialect) : List Stage :=
  dialect.stages.filter fun s => s.name != "code_block" && s.name != "table_header"

def Dialect.convertBody (dialect : Dialect) (body : Text) : Text :=
  (dialect.bodyStages.foldl (fun d (s : Stage) => s.apply d) (Document.ofText body)).toText

theorem onLines_framed {f : Text → Text} {first last : Text} (hfirst : '\n' ∉ first) (hlast : '\n' ∉ last)
    (body : Text) : onLines f (framed first last body) = framed (f first) (f last) (onLines f body) := by
  rw [framed, onLines_append_newline, onLines_append_newline, onLines_of_not_mem f hfirst,
    onLines_of_not_mem f hlast, framed]

/-! ## The stages on a body -/

namespace Dialect

theorem legacy_bodyStages :
    legacy.bodyStages = [.bulletList, .numberedList, .header, .inlineStyles] := by
  simp [bodyStages, stages, Stage.bulletList, Stage.numberedList, Stage.header, Stage.tableHeader,
    Stage.codeBlock, Stage.inlineStyles]

theorem corrected_bodyStages :
    corrected.bodyStages = [.bulletList, .numberedList, .header, .panelToTable, .inlineStyles,
      .tableHeaderLines, .tableIndent] := by
  simp [bodyStages, stages, Stage.bulletList, Stage.numberedList, Stage.header, Stage.codeBlock,
    Stage.panelToTable, Stage.inlineStyles, Stage.tableHeaderLines, Stage.tableIndent]

theorem convertBody_eq_foldl (dialect : Dialect) (body : Text) :
    dialect.convertBody body = dialect.bodyStages.foldl (fun t s => s.rule.onWhole t) body := by
  have hkeep : ∀ s ∈ dialect.bodyStages, s.rule.KeepsLines :=
    fun s hs => dialect.stages_keepLines s (List.mem_of_mem_filter hs)
  rw [convertBody, (foldl_stages hkeep (Document.wellFormed_ofText body)).2, Document.toText_ofText]

theorem legacy_convertBody (body : Text) :
    legacy.convertBody body = onLines inlineStyles (onLines markLine body) := by
  rw [convertBody_eq_foldl, legacy_bodyStages, ← onLines_markLine]
  simp only [List.foldl_cons, List.foldl_nil, Stage.bulletList, Stage.numberedList, Stage.header,
    Stage.inlineStyles, Rule.onWhole]

theorem corrected_convertBody (body : Text) : corrected.convertBody body =
    onLines tableIndent.apply (tableHeaders.apply (onLines inlineStyles
      (panelTable.apply (onLines markLine body)))) := by
  rw [convertBody_eq_foldl, corrected_bodyStages, ← onLines_markLine]
  simp only [List.foldl_cons, List.foldl_nil, Stage.bulletList, Stage.numberedList, Stage.header,
    Stage.panelToTable, Stage.inlineStyles, Stage.tableHeaderLines, Stage.tableIndent, Rule.onWhole]

end Dialect

/-! ## Lines around a body -/

def Plain (l : Text) : Prop := ∀ c ∈ l, c ∉ (triggers ++ "|\n").toList

theorem Plain.absent {l : Text} (h : Plain l) {mark : Text} {c : Char}
    (hc : c ∈ (triggers ++ "|\n").toList) (hm : c ∈ mark) : ¬ mark <:+: l :=
  fun hi => h c (hi.subset hm) hc

theorem Plain.inlineStyles_eq_self {l : Text} (h : Plain l) : inlineStyles l = l :=
  JiraMarkup.inlineStyles_eq_self fun c hc ht => h c hc (by simp [ht])

theorem Plain.panelTable_eq_self {l : Text} (h : Plain l) : panelTable.apply l = l :=
  JiraMarkup.panelTable_eq_self (h.absent (c := '{') (by decide) (by decide))

theorem Plain.bar_not_mem {l : Text} (h : Plain l) : '|' ∉ l := fun hm => h _ hm (by decide)

theorem Plain.tableHeaders_eq_self {l : Text} (h : Plain l) : tableHeaders.apply l = l :=
  JiraMarkup.tableHeaders_eq_self h.bar_not_mem

theorem Plain.tableIndent_eq_self {l : Text} (h : Plain l) : tableIndent.apply l = l :=
  JiraMarkup.tableIndent_eq_self h.bar_not_mem

theorem markLine_codeOpening (t : Text) :
    markLine (codeOpening.toList ++ t) = codeOpening.toList ++ t := by
  have hopening : codeOpening.toList ++ t = '{' :: ("code".toList ++ t) := rfl
  have hitem : ∀ (marker : Char) (bullet : String), '{' ≠ marker →
      Rewrite.apply ⟨.textStart, listMarker marker bullet⟩ (codeOpening.toList ++ t) =
        codeOpening.toList ++ t := fun marker bullet hm => by
    refine Rewrite.apply_textStart_of_none rfl ?_
    simp [hopening, listMarker, isIndent, hm]
  have hbullet : bulletItem.apply (codeOpening.toList ++ t) = codeOpening.toList ++ t :=
    hitem '*' "* " (by decide)
  have hnumbered : numberedItem.apply (codeOpening.toList ++ t) = codeOpening.toList ++ t :=
    hitem '#' "1. " (by decide)
  rw [markLine, hbullet, hnumbered]
  exact Rewrite.apply_textStart_of_none rfl rfl

/-! ## The block alone -/

section
variable {lang b : Text} (hne : lang ≠ []) (hlow : ∀ c ∈ lang, 'a' ≤ c ∧ c ≤ 'z')
include hne hlow

theorem codeSpan_taggedBlock (hb : ¬ codeClosing.toList <:+: b) :
    codeSpan (taggedBlock lang b) = some ⟨fencedBlock lang b, []⟩ := by
  have habsent : ¬ codeClosing.toList <:+: '\n' :: b ++ '\n' :: [] := by
    rw [infix_append_newline_iff (by decide) (by decide), not_or]
    exact ⟨codeClosing_absent hb, by decide⟩
  have hspan := CodeTag.codeSpan_text ⟨lang, [], hlow⟩ habsent []
  have hsplit : CodeTag.text ⟨lang, [], hlow⟩ ++ ('\n' :: b ++ ['\n'] ++ codeClosing.toList ++ []) =
      taggedBlock lang b := by
    simp [CodeTag.text, CodeTag.languageText, CodeTag.attributesText, hne, taggedBlock, framed]
  have htrim : trimNewlines ('\n' :: b ++ ['\n']) = b := by simp [trimNewlines, dropNewline]
  have hfence : fence lang ('\n' :: b ++ ['\n']) = fencedBlock lang b := by
    rw [fence, htrim, fencedBlock, framed, List.append_assoc, List.cons_append]; rfl
  rwa [hsplit, hfence] at hspan

theorem codeBlock_taggedBlock (hb : ¬ codeClosing.toList <:+: b) :
    codeBlock.apply (taggedBlock lang b) = fencedBlock lang b := by
  have hspan := codeSpan_taggedBlock hne hlow hb
  have hne : taggedBlock lang b ≠ [] := by rw [taggedBlock, framed]; simp
  rw [← List.append_nil (taggedBlock lang b)] at hspan ⊢
  rw [Rewrite.apply, Rewrite.scan_hit hne (show codeBlock.tryAt true _ = _ from hspan),
    Rewrite.scan, List.append_nil]

end

/-! ## The chain on a block -/

theorem fencedBlock_inj {lang b b' : Text} : fencedBlock lang b = fencedBlock lang b' ↔ b = b' := by
  simp only [fencedBlock, framed, List.append_cancel_left_eq, List.cons.injEq, true_and,
    List.append_cancel_right_eq]

section
variable {lang b : Text} (hlow : ∀ c ∈ lang, 'a' ≤ c ∧ c ≤ 'z')
include hlow

theorem onLines_markLine_taggedBlock :
    onLines markLine (taggedBlock lang b) = taggedBlock lang (onLines markLine b) := by
  have hopen : '\n' ∉ codeOpening.toList ++ ':' :: (lang ++ ['}']) := by
    have hlang : '\n' ∉ lang := fun h => absurd (hlow _ h) (by decide)
    simp [codeOpening, hlang]
  have hclose : markLine codeClosing.toList = codeClosing.toList := markLine_codeOpening ['}']
  rw [taggedBlock, onLines_framed hopen (by decide), markLine_codeOpening, hclose, taggedBlock]

omit hlow in
theorem plain_backticks : Plain "```".toList := by unfold Plain; decide

theorem plain_fence : Plain ("```".toList ++ lang) := by
  intro c hc hm
  rcases List.mem_append.mp hc with hc | hc
  · exact plain_backticks c hc hm
  · exact (show ∀ c ∈ (triggers ++ "|\n").toList, ¬ ('a' ≤ c ∧ c ≤ 'z') by decide) c hm (hlow c hc)

/-- A rule that reads plain lines apart from the rest and leaves them alone works on the body. -/
theorem apply_fencedBlock {g : Text → Text} (hg : ∀ l, Plain l → g l = l)
    (happ : ∀ a b, Plain a ∨ Plain b → g (a ++ '\n' :: b) = g a ++ '\n' :: g b) :
    g (fencedBlock lang b) = fencedBlock lang (g b) := by
  have hopen := plain_fence hlow
  have hclose := plain_backticks
  rw [fencedBlock, framed, happ _ _ (Or.inl hopen), happ _ _ (Or.inr hclose), hg _ hopen, hg _ hclose]
  rfl

theorem onLines_fencedBlock {f : Text → Text} (hf : ∀ l, Plain l → f l = l) :
    onLines f (fencedBlock lang b) = fencedBlock lang (onLines f b) := by
  refine apply_fencedBlock hlow (fun l hl => ?_) fun a b _ => onLines_append_newline f a b
  rw [onLines_of_not_mem f fun hn => hl _ hn (by decide), hf l hl]

theorem panelTable_fencedBlock :
    panelTable.apply (fencedBlock lang b) = fencedBlock lang (panelTable.apply b) :=
  apply_fencedBlock hlow (fun _ hl => hl.panelTable_eq_self) fun _ _ h =>
    panelTable_spans.apply_append_newline rfl (h.imp (fun h => h.absent (c := '{') (by decide) (by decide))
      fun h => h.absent (c := '{') (by decide) (by decide))

theorem tableHeaders_fencedBlock :
    tableHeaders.apply (fencedBlock lang b) = fencedBlock lang (tableHeaders.apply b) :=
  apply_fencedBlock hlow (fun _ hl => hl.tableHeaders_eq_self) fun a b _ => tableHeaders_append_newline a b

variable (hne : lang ≠ []) (hb : ¬ codeOpening.toList <:+: b)
include hne hb

/-- The chain fences a block and rewrites its body by the other stages: the body arrives as it was
exactly if these leave it alone. -/
theorem convert_taggedBlock (dialect : Dialect) :
    dialect.convert (taggedBlock lang b) = fencedBlock lang (dialect.convertBody b) ∧
      (dialect.convert (taggedBlock lang b) = fencedBlock lang b ↔ dialect.convertBody b = b) := by
  have hclosing : ¬ codeClosing.toList <:+: b := fun h =>
    hb ((show codeOpening.toList <:+: codeClosing.toList from ⟨[], ['}'], rfl⟩).trans h)
  have hfence := codeBlock_taggedBlock hne hlow
    (onLines_markLine_avoids (by decide) (by decide) b hclosing)
  have hconvert : dialect.convert (taggedBlock lang b) = fencedBlock lang (dialect.convertBody b) := by
    cases dialect with
    | legacy =>
      have hsole (b : Text) : soleTableHeader.apply (taggedBlock lang b) = taggedBlock lang b :=
        soleTableHeader_append_newline _ _
      rw [Dialect.legacy_convert, onLines_markLine_taggedBlock hlow, hsole, hfence,
        onLines_fencedBlock hlow fun _ hl => hl.inlineStyles_eq_self, Dialect.legacy_convertBody]
    | corrected =>
      rw [Dialect.corrected_convert, onLines_markLine_taggedBlock hlow, hfence, panelTable_fencedBlock hlow,
        onLines_fencedBlock hlow fun _ hl => hl.inlineStyles_eq_self, tableHeaders_fencedBlock hlow,
        onLines_fencedBlock hlow fun _ hl => hl.tableIndent_eq_self, Dialect.corrected_convertBody]
  exact ⟨hconvert, by rw [hconvert, fencedBlock_inj]⟩

end

theorem convert_taggedBlock_go :
    (∀ c ∈ "go".toList, 'a' ≤ c ∧ c ≤ 'z') ∧ "go".toList ≠ [] ∧
      ¬ codeOpening.toList <:+: "# *a*\nb".toList ∧
      Dialect.legacy.convert (taggedBlock "go".toList "# *a*\nb".toList) =
        fencedBlock "go".toList "  1. **a**\nb".toList := by
  have hlow : ∀ c ∈ "go".toList, 'a' ≤ c ∧ c ≤ 'z' := by decide
  have hb : ¬ codeOpening.toList <:+: "# *a*\nb".toList := by decide
  have hbody : Dialect.legacy.convertBody "# *a*\nb".toList = "  1. **a**\nb".toList := by decide
  refine ⟨hlow, by decide, hb, ?_⟩
  rw [← hbody]
  exact (convert_taggedBlock hlow (by decide) hb .legacy).1

theorem not_convert_taggedBlock_verbatim :
    ¬ ∀ (dialect : Dialect) (lang b : Text), lang ≠ [] → (∀ c ∈ lang, 'a' ≤ c ∧ c ≤ 'z') →
      ¬ codeOpening.toList <:+: b → dialect.convert (taggedBlock lang b) = fencedBlock lang b := by
  intro h
  have hverbatim := h .legacy "go".toList "*a*".toList (by decide) (by decide) (by decide)
  exact absurd hverbatim (by decide)

end JiraMarkup
