import JiraMarkup.Proofs.PanelSpan

/-!
# Panels on lines of their own

A panel becomes a table only if its body is one line. The pattern reads the body
up to the end of its first line, and unless the closing tag follows there, it
finds no panel: the markup is copied, and the search goes on behind it.
-/

namespace JiraMarkup

/-! ## Panels -/

structure FramedPanel where
  before : Text
  title : Text
  body : Text
  before_absent : ¬ panelOpening.toList <:+: before
  title_clean : '}' ∉ title ∧ '\n' ∉ title
  body_absent : ¬ "\x7bpanel".toList <:+: body
  body_head : body.head? ≠ some '\n'
  body_last : body.getLast? ≠ some '\n'

namespace FramedPanel

def tail (body : Text) : Text := '}' :: '\n' :: (body ++ '\n' :: panelClosing.toList)

def markup (panel : FramedPanel) : Text :=
  panel.before ++ panelOpening.toList ++ panel.title ++ tail panel.body

def markdown (panel : FramedPanel) : Text :=
  panel.before ++ "\n| ".toList ++ panel.title ++ " |\n| --- |\n| ".toList ++ panel.body ++ " |".toList

end FramedPanel

/-! ## The body -/

/-- A body ends behind its first line or nowhere. -/
theorem panelBody?_line {l t : Text} (hn : '\n' ∉ l) (hl : ¬ panelClosing.toList <:+: l) :
    panelBody? (l ++ '\n' :: t) = (after? panelClosing t).map (l, ·) := by
  induction l with
  | nil =>
    have hclosing : after? panelClosing ('\n' :: t) = none := after?_newline (by decide) (by decide) t
    simp [panelBody?, hclosing]
  | cons c l ih =>
    rw [List.mem_cons, not_or] at hn
    rw [List.infix_cons_iff, not_or] at hl
    have hclosing : after? panelClosing (c :: l ++ '\n' :: t) = none := by
      rw [after?_eq_none_iff, prefix_append_newline_iff (by decide)]
      exact hl.1
    rw [List.cons_append] at hclosing ⊢
    rw [panelBody?, hclosing]
    simp [Ne.symm hn.1, ih hn.2 hl.2]
    rfl

section
variable {body : Text} (hbody : ¬ "\x7bpanel".toList <:+: body)
include hbody

theorem panelBody?_framed (t : Text) : panelBody? (body ++ '\n' :: (panelClosing.toList ++ t)) =
    if '\n' ∈ body then none else some (body, t) := by
  have habsent : ∀ {l : Text}, l <:+: body → ¬ panelClosing.toList <:+: l := by
    intro l hl h
    have hmark : "\x7bpanel".toList <:+: panelClosing.toList := ⟨[], ['}'], rfl⟩
    exact hbody ((hmark.trans h).trans hl)
  by_cases hn : '\n' ∈ body
  · rw [if_pos hn]
    obtain ⟨a, b, rfl, ha⟩ := List.eq_append_cons_of_mem hn
    have hb : after? panelClosing (b ++ '\n' :: (panelClosing.toList ++ t)) = none := by
      rw [after?_eq_none_iff, prefix_append_newline_iff (by decide)]
      intro hp
      exact habsent (l := b) ⟨a ++ ['\n'], [], by simp⟩ hp.isInfix
    rw [List.append_assoc, List.cons_append, panelBody?_line ha (habsent ⟨[], '\n' :: b, rfl⟩), hb]
    rfl
  · rw [if_neg hn, panelBody?_line hn (habsent (List.infix_refl body)), after?_append]
    rfl

theorem panel?_framed {title : Text} (htitle : '}' ∉ title) (t : Text) :
    panel? (panelOpening.toList ++ (title ++ (FramedPanel.tail body ++ t))) =
      if '\n' ∈ body then none else some ⟨title, body, t⟩ := by
  have h := panel?_opened htitle ('\n' :: (body ++ '\n' :: (panelClosing.toList ++ t)))
  rw [show dropNewline ('\n' :: (body ++ '\n' :: (panelClosing.toList ++ t))) =
    body ++ '\n' :: (panelClosing.toList ++ t) from rfl, panelBody?_framed hbody] at h
  simp only [FramedPanel.tail, List.cons_append, List.append_assoc]
  rw [h]
  split <;> rfl

end

/-! ## The search in a panel -/

theorem panelTable_eq_none {t : Text} (h : ¬ panelOpening.toList <+: t) : panelTable.pattern t = none :=
  Option.map_eq_none_iff.mpr (panel?_eq_none h)

theorem panelTable_beginsWith : panelTable.pattern.BeginsWith '{' := by
  intro c t m hm
  by_contra hc
  have hopening : ¬ panelOpening.toList <+: c :: t := by
    intro hp
    exact hc (List.cons_prefix_cons.mp hp).1.symm
  rw [panelTable_eq_none hopening] at hm
  cases hm

theorem panelTable_passes_line {l : Text} (h : ¬ "\x7bpanel".toList <:+: l) :
    panelTable.pattern.Passes (l ++ ['\n']) := by
  intro u hu hs v
  rcases List.suffix_concat_iff.mp hs with rfl | ⟨s, rfl, hsl⟩
  · exact absurd rfl hu
  · refine panelTable_eq_none fun hp => h ?_
    rw [List.append_assoc, List.singleton_append, prefix_append_newline_iff (by decide)] at hp
    have hmark : "\x7bpanel".toList <+: panelOpening.toList := ⟨":title=".toList, rfl⟩
    exact (hmark.trans hp).isInfix.trans hsl.isInfix

theorem panelTable_passes_closing : panelTable.pattern.Passes panelClosing.toList := by
  have hrest : panelTable.pattern.Passes "panel\x7d".toList := panelTable_beginsWith.passes (by decide)
  refine Pattern.Passes.cons (fun v => panelTable_eq_none ?_) hrest
  show ¬ panelOpening.toList <+: "\x7bpanel".toList ++ '}' :: v
  rw [prefix_append_stop_iff (by decide)]
  decide

theorem panelTable_passes_tail {body : Text} (hbody : ¬ "\x7bpanel".toList <:+: body) :
    panelTable.pattern.Passes (FramedPanel.tail body) := by
  have hframe : panelTable.pattern.Passes ['}', '\n'] := panelTable_beginsWith.passes (by decide)
  have h := (hframe.append (panelTable_passes_line hbody)).append panelTable_passes_closing
  have htail : FramedPanel.tail body = ['}', '\n'] ++ (body ++ ['\n']) ++ panelClosing.toList := by
    simp [FramedPanel.tail]
  rw [htail]
  exact h

theorem panelTable_several_lines {body u : Text} (hbody : ¬ "\x7bpanel".toList <:+: body) (hn : '\n' ∈ body)
    (hu : '}' ∉ u) (t : Text) : panelTable.pattern (u ++ (FramedPanel.tail body ++ t)) = none := by
  by_cases hopening : panelOpening.toList <+: u
  · obtain ⟨title, rfl⟩ := hopening
    have htitle : '}' ∉ title := fun h => hu (List.mem_append_right _ h)
    have hpanel := panel?_framed hbody htitle t
    rw [if_pos hn] at hpanel
    rw [List.append_assoc]
    exact Option.map_eq_none_iff.mpr hpanel
  · refine panelTable_eq_none fun hp => hopening ?_
    exact (prefix_append_stop_iff (c := '}') (by decide)).mp hp

/-! ## Panels in a text -/

namespace FramedPanel

variable (panel : FramedPanel)

theorem apply_before (t : Text) :
    panelTable.apply (panel.before ++ (panelOpening.toList ++ t)) =
      panel.before ++ panelTable.apply (panelOpening.toList ++ t) := by
  refine Rewrite.apply_append rfl fun u hu hs => panelTable_eq_none ?_
  exact not_prefix_append_of_absent (show panelOpening.toList = '{' :: "panel:title=".toList from rfl)
    (by decide) panel.before_absent hu hs

theorem apply_markup (post : Text) : panelTable.apply (panel.markup ++ post) =
    (if '\n' ∈ panel.body then panel.markup else panel.markdown) ++ panelTable.apply post := by
  have hsplit : panel.markup ++ post =
      panel.before ++ (panelOpening.toList ++ (panel.title ++ (tail panel.body ++ post))) := by
    simp [markup]
  have hpanel := panel?_framed panel.body_absent panel.title_clean.1 post
  rw [hsplit, apply_before]
  by_cases hn : '\n' ∈ panel.body
  · have hbrace : '}' ∉ panelOpening.toList ++ panel.title := by
      simp [panelOpening, panel.title_clean.1]
    have hcopy : ∀ u, u ≠ [] → u <:+ panelOpening.toList ++ panel.title →
        panelTable.pattern (u ++ (tail panel.body ++ post)) = none := by
      intro u _ hu
      exact panelTable_several_lines panel.body_absent hn (fun h => hbrace (hu.subset h)) post
    rw [if_pos hn, ← List.append_assoc panelOpening.toList, Rewrite.apply_append rfl hcopy,
      Rewrite.apply_of_passes rfl (panelTable_passes_tail panel.body_absent)]
    simp [markup]
  · rw [if_neg hn] at hpanel ⊢
    have hmatch : panelTable.pattern _ = some _ := Option.map_eq_some_iff.mpr ⟨_, hpanel, rfl⟩
    rw [Rewrite.apply_of_some rfl panelTable_respells.consumes hmatch]
    simp [markdown]

theorem markup_ne_markdown (s t : Text) : panel.markup ++ s ≠ panel.markdown ++ t := by
  simp [markup, markdown, panelOpening]

end FramedPanel

/-- A panel becomes a table exactly if its body is one line, and otherwise its markup is copied. -/
theorem panelTable_apply_iff (panel : FramedPanel) (post : Text) :
    (panelTable.apply (panel.markup ++ post) = panel.markdown ++ panelTable.apply post ↔
        '\n' ∉ panel.body) ∧
      (panelTable.apply (panel.markup ++ post) = panel.markup ++ panelTable.apply post ↔
        '\n' ∈ panel.body) := by
  rw [panel.apply_markup]
  by_cases hn : '\n' ∈ panel.body
  · simp [hn, panel.markup_ne_markdown]
  · simp [hn, (panel.markup_ne_markdown _ _).symm]

theorem not_panelTable_apply_markup : ¬ ∀ (panel : FramedPanel) (post : Text),
    panelTable.apply (panel.markup ++ post) = panel.markdown ++ panelTable.apply post := by
  intro h
  let panel : FramedPanel := ⟨[], ['T'], "a\nb".toList, by decide, by decide, by decide,
    by decide, by decide⟩
  exact absurd (h panel []) (by decide)

end JiraMarkup
