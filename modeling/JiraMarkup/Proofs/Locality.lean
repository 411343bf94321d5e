import JiraMarkup.Proofs.Conversion

/-!
# Conversion line by line

Two texts are converted apart, one above the other, unless a code block or a
panel reaches over the line end between them. In the legacy dialect neither may
be a header row, which is one only as long as it stands alone.
-/

namespace JiraMarkup

/-! ## Marks that are not written -/

def Avoids (mark s t : Text) : Prop := ¬ mark <:+: s → ¬ mark <:+: t

theorem stepwise_avoids {mark : Text} (hm : '\n' ∉ mark) (hne : mark ≠ []) : Stepwise (Avoids mark) where
  refl _ h := h
  trans h h' hs := h' (h hs)
  join h h' hs := by
    rw [infix_append_newline_iff hm hne, not_or] at hs ⊢
    exact ⟨h hs.1, h' hs.2⟩

theorem avoids_apply {r : Rewrite} {swap : Text → Text → Prop} {mark : Text} (hr : r.pattern.Respells swap)
    (hne : mark ≠ []) (hw : ∀ old new, swap old new → new ≠ [] ∧ ∀ c ∈ new, c ∉ mark) (t : Text) :
    Avoids mark t (r.apply t) := fun ht hm =>
  ht ((Rewrite.apply_respelled hr t).occurs_of_occurs hne hw hm)

theorem markLine_avoids {mark : Text} (hm : ∀ c ∈ mark, c ∉ " *1.#\n".toList) (hne : mark ≠ [])
    (l : Text) : Avoids mark l (markLine l) := by
  have hstep := stepwise_avoids (fun h => hm '\n' h (by decide)) hne
  have hswaps : ∀ {d w : String} (old new : Text), w.toList ⊆ " *1.#\n".toList → Swaps d w old new →
      new ≠ [] ∧ ∀ c ∈ new, c ∉ mark :=
    fun old new hw h => ⟨h.new_ne_nil, fun c hc hcm => hm c hcm (hw (h.written c hc))⟩
  have hbullet : Avoids mark l (bulletItem.apply l) :=
    avoids_apply (listMarker_respells '*' "* ") hne (fun o n => hswaps o n (by decide)) l
  have hnumbered : Avoids mark (bulletItem.apply l) (numberedItem.apply (bulletItem.apply l)) :=
    avoids_apply (listMarker_respells '#' "1. ") hne (fun o n => hswaps o n (by decide)) _
  have hheading : Avoids mark (numberedItem.apply (bulletItem.apply l)) (markLine l) :=
    avoids_apply heading_respells hne (fun o n => hswaps o n (by decide)) _
  exact hstep.trans (hstep.trans hbullet hnumbered) hheading

theorem onLines_markLine_avoids {mark : Text} (hm : ∀ c ∈ mark, c ∉ " *1.#\n".toList) (hne : mark ≠ [])
    (t : Text) : Avoids mark t (onLines markLine t) := by
  have hstep := stepwise_avoids (fun h => hm '\n' h (by decide)) hne
  have h := hstep.joinLines (markLine_avoids hm hne) (splitLines t)
  rwa [joinLines_splitLines] at h

theorem codeBlock_avoids {mark : Text} (hm : ∀ c ∈ mark, c ∉ "`\n".toList) (hne : mark ≠ []) (t : Text) :
    Avoids mark t (codeBlock.apply t) :=
  avoids_apply codeSpan_respells hne
    (fun _ _ h => ⟨h.new_ne_nil, fun c hc hcm => hm c hcm (h.written c hc)⟩) t

/-! ## Document rules at the end of a line -/

/-- A pattern that matches only at an opening mark, and that a closing mark has to end: lines behind a
text that hold none do not matter. -/
structure Pattern.Spans (p : Pattern) (opening closing : Text) : Prop where
  consumes : p.Consumes
  newline_not_mem : '\n' ∉ opening
  opening_ne_nil : opening ≠ []
  eq_none : ∀ t, ¬ opening <+: t → p t = none
  append_newline : ∀ b, ¬ closing <:+: b → ∀ s,
    p (s ++ '\n' :: b) = (p s).map fun m => ⟨m.output, m.rest ++ '\n' :: b⟩

theorem Pattern.Spans.apply_append_newline {r : Rewrite} {opening closing a b : Text}
    (hp : r.pattern.Spans opening closing) (hr : r.anchor = .anywhere)
    (h : ¬ opening <:+: a ∨ ¬ closing <:+: b) :
    r.apply (a ++ '\n' :: b) = r.apply a ++ '\n' :: r.apply b := by
  have hstart : ∀ s, opening <+: s ++ '\n' :: b → opening <+: s :=
    fun s => (prefix_append_newline_iff hp.newline_not_mem).mp
  have hb : r.pattern ('\n' :: b) = none :=
    hp.eq_none _ fun ho => hp.opening_ne_nil (List.prefix_nil.mp (hstart [] ho))
  refine Rewrite.apply_append_newline (by rw [hr]; rfl) hb (fun s hs => ?_) hp.consumes
  rcases h with ha | hb
  · have hs : ¬ opening <+: s := fun ho => ha (ho.isInfix.trans hs.isInfix)
    have hsb : ¬ opening <+: s ++ '\n' :: b := fun ho => hs (hstart s ho)
    rw [hp.eq_none s hs, hp.eq_none _ hsb]
    rfl
  · exact hp.append_newline b hb s

theorem codeBlock_spans : codeBlock.pattern.Spans codeOpening.toList codeClosing.toList where
  consumes := codeSpan_respells.consumes
  newline_not_mem := by decide
  opening_ne_nil := by decide
  eq_none _ := codeSpan_eq_none
  append_newline _ := codeSpan_append_newline

theorem panelTable_spans : panelTable.pattern.Spans panelOpening.toList panelClosing.toList where
  consumes := panelTable_respells.consumes
  newline_not_mem := by decide
  opening_ne_nil := by decide
  eq_none t ht := by
    show (panel? t).map _ = none
    rw [panel?_eq_none ht, Option.map_none]
  append_newline b hb s := by
    show (panel? _).map _ = ((panel? s).map _).map _
    rw [panel?_append_newline hb, Option.map_map, Option.map_map]
    rfl

/-! ## Texts that are one header row -/

theorem soleTableHeader_lead {t : Text} {m : Match} (h : soleTableHeader.pattern t = some m) :
    '\n' ∉ t ∧ lead t = some '|' := by
  obtain ⟨hm, hrest⟩ := soleTableHeader_eq_some h
  obtain ⟨line, row, hrow, rfl, hn, -⟩ := headerLine_eq_some hm
  rw [hrest, List.append_nil]
  obtain ⟨indent, trail, bars, rfl, rfl, hi⟩ := headerRow?_eq_some hrow
  refine ⟨hn, ?_⟩
  rw [List.append_assoc]
  exact lead_append (fun d hd => hi d (List.mem_append_left _ hd)) (by decide) _

theorem soleTableHeader_append_newline (a b : Text) :
    soleTableHeader.apply (a ++ '\n' :: b) = a ++ '\n' :: b := by
  refine Rewrite.apply_textStart_of_none rfl (Option.eq_none_iff_forall_ne_some.mpr fun m h => ?_)
  exact (soleTableHeader_lead h).1 (by simp)

theorem soleTableHeader_onLines_markLine {t : Text} (h : soleTableHeader.fires t = false) :
    soleTableHeader.apply (onLines markLine t) = onLines markLine t := by
  by_cases hn : '\n' ∈ t
  · obtain ⟨a, b, rfl⟩ := List.append_of_mem hn
    rw [onLines_append_newline, soleTableHeader_append_newline]
  · rw [onLines_of_not_mem markLine hn]
    refine Rewrite.apply_textStart_of_none rfl (Option.eq_none_iff_forall_ne_some.mpr fun m hm => ?_)
    rcases markLine_eq_or_lead t with hl | ⟨c, hc, hl⟩
    · rw [Rewrite.fires_textStart rfl soleTableHeader_respells.consumes, ← hl, hm] at h
      cases h
    · obtain rfl := Option.some.inj (hl.symm.trans (soleTableHeader_lead hm).2)
      exact absurd hc (by decide)

/-! ## Two texts, one above the other -/

section
variable {a b : Text} (hcode : ¬ codeOpening.toList <:+: a ∨ ¬ codeClosing.toList <:+: b)
include hcode

theorem code_onLines_markLine : ¬ codeOpening.toList <:+: onLines markLine a ∨
    ¬ codeClosing.toList <:+: onLines markLine b :=
  hcode.imp (onLines_markLine_avoids (by decide) (by decide) a)
    (onLines_markLine_avoids (by decide) (by decide) b)

theorem legacy_convert_append (ha : soleTableHeader.fires a = false)
    (hb : soleTableHeader.fires b = false) :
    Dialect.legacy.convert (a ++ '\n' :: b) =
      Dialect.legacy.convert a ++ '\n' :: Dialect.legacy.convert b := by
  simp only [Dialect.legacy_convert]
  rw [onLines_append_newline, soleTableHeader_append_newline, soleTableHeader_onLines_markLine ha,
    soleTableHeader_onLines_markLine hb,
    codeBlock_spans.apply_append_newline rfl (code_onLines_markLine hcode), onLines_append_newline]

theorem corrected_convert_append (hpanel : ¬ panelOpening.toList <:+: a ∨ ¬ panelClosing.toList <:+: b) :
    Dialect.corrected.convert (a ++ '\n' :: b) =
      Dialect.corrected.convert a ++ '\n' :: Dialect.corrected.convert b := by
  have hmarked := hpanel.imp (onLines_markLine_avoids (by decide) (by decide) a)
    (onLines_markLine_avoids (by decide) (by decide) b)
  have hfenced := hmarked.imp (codeBlock_avoids (by decide) (by decide) _)
    (codeBlock_avoids (by decide) (by decide) _)
  simp only [Dialect.corrected_convert]
  rw [onLines_append_newline, codeBlock_spans.apply_append_newline rfl (code_onLines_markLine hcode),
    panelTable_spans.apply_append_newline rfl hfenced, onLines_append_newline,
    tableHeaders_append_newline, onLines_append_newline]

/-- Texts between which no span reaches over the line end are converted apart. -/
theorem convert_append_newline :
    ((¬ panelOpening.toList <:+: a ∨ ¬ panelClosing.toList <:+: b) →
      Dialect.corrected.convert (a ++ '\n' :: b) =
        Dialect.corrected.convert a ++ '\n' :: Dialect.corrected.convert b) ∧
    (soleTableHeader.fires a = false → soleTableHeader.fires b = false →
      Dialect.legacy.convert (a ++ '\n' :: b) =
        Dialect.legacy.convert a ++ '\n' :: Dialect.legacy.convert b) :=
  ⟨corrected_convert_append hcode, legacy_convert_append hcode⟩

end

theorem convert_append_newline_panel :
    ¬ codeOpening.toList <:+: "\x7bpanel:title=A\x7dx\x7bpanel\x7d".toList ∧
      ¬ panelClosing.toList <:+: "\x7bcode\x7dy\x7bcode\x7d".toList ∧
      Dialect.corrected.convert "\x7bpanel:title=A\x7dx\x7bpanel\x7d\n\x7bcode\x7dy\x7bcode\x7d".toList =
        "\n| A |\n| --- |\n| x |\n```\ny\n```".toList ∧
      Dialect.legacy.convert "\x7bpanel:title=A\x7dx\x7bpanel\x7d\n\x7bcode\x7dy\x7bcode\x7d".toList =
        "A\n```\ny\n```".toList := by
  have hcode : ¬ codeOpening.toList <:+: "\x7bpanel:title=A\x7dx\x7bpanel\x7d".toList := by decide
  have hpanel : ¬ panelClosing.toList <:+: "\x7bcode\x7dy\x7bcode\x7d".toList := by decide
  obtain ⟨hcorrected, hlegacy⟩ :=
    convert_append_newline (b := "\x7bcode\x7dy\x7bcode\x7d".toList) (Or.inl hcode)
  refine ⟨hcode, hpanel, (hcorrected (Or.inr hpanel)).trans ?_, (hlegacy ?_ ?_).trans ?_⟩ <;> decide

end JiraMarkup
