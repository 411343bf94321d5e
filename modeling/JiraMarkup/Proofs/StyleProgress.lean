import JiraMarkup.Dialect
import JiraMarkup.Proofs.InlineSpan

/-!
# Progress of the styles

No style takes back what another one did. A style that drops an opening brace
cannot be made good, as none writes one. As long as the braces stay, stars and
angle brackets are only written, and dashes, exclamation marks, bars and the
letter of a quotation only dropped, and every match does one or the other. A line
is what it was only if no style found anything in it.
-/

namespace JiraMarkup

/-! ## Advances -/

def gains (t : Text) : Nat := t.countP (· ∈ "*<".toList)

def losses (t : Text) : Nat := t.countP (· ∈ "-!|q".toList)

/-- The second text has lost braces, or it has as many and is ahead in what was written and dropped. -/
def Advances (s t : Text) : Prop :=
  t.count '{' < s.count '{' ∨ t.count '{' = s.count '{' ∧ gains s + losses t < gains t + losses s

instance (s t : Text) : Decidable (Advances s t) := inferInstanceAs (Decidable (_ ∨ _))

namespace Advances

variable {s t u s' t' : Text}

theorem trans (h : Advances s t) (h' : Advances t u) : Advances s u := by
  unfold Advances at *
  omega

theorem ne (h : Advances s t) : t ≠ s := by
  rintro rfl
  unfold Advances at h
  omega

theorem append (h : Advances s t) (h' : Advances s' t' ∨ t' = s') : Advances (s ++ s') (t ++ t') := by
  unfold Advances gains losses at *
  simp only [List.count_append, List.countP_append]
  rcases h' with h' | rfl <;> omega

theorem prepend (u : Text) (h : Advances s t) : Advances (u ++ s) (u ++ t) := by
  unfold Advances gains losses at *
  simp only [List.count_append, List.countP_append]
  omega

theorem append_dropped (h : Advances s t) (hu : gains u = 0) : Advances (s ++ u) t := by
  unfold Advances gains losses at *
  simp only [List.count_append, List.countP_append]
  omega

theorem of_count_lt (h : t.count '{' < s.count '{') : Advances s t := Or.inl h

theorem between {opening closing : String} (span : Text)
    (h : Advances (s ++ s') (opening.toList ++ closing.toList)) :
    Advances (s ++ span ++ s') (between opening closing span) := by
  unfold Advances gains losses JiraMarkup.between at *
  simp only [List.count_append, List.countP_append] at *
  omega

end Advances

/-! ## Every match advances -/

def Pattern.Advances (p : Pattern) : Prop :=
  ∀ t m, p t = some m → ∃ used, used ≠ [] ∧ t = used ++ m.rest ∧ JiraMarkup.Advances used m.output

theorem Pattern.Advances.consumes {p : Pattern} (h : p.Advances) : p.Consumes := by
  intro t m hm
  obtain ⟨used, hne, ht, -⟩ := h t m hm
  exact ⟨used, hne, ht⟩

section
variable {mark : Char} {opening closing : String}
  (h : Advances ([mark] ++ [mark]) (opening.toList ++ closing.toList))
include h

theorem longSpan_advances (starts : Char → Bool) :
    (longSpan mark starts (between opening closing)).Advances := by
  intro t m hm
  obtain ⟨c, span, ht, -, ho⟩ := longSpan_eq_some hm
  refine ⟨[mark] ++ (c :: span) ++ [mark], by simp, by simp [ht], ?_⟩
  rw [ho]
  exact h.between (c :: span)

theorem shortSpan_advances : (shortSpan mark (between opening closing)).Advances := by
  intro t m hm
  obtain ⟨span, ht, -, ho⟩ := shortSpan_eq_some hm
  refine ⟨[mark] ++ span ++ [mark], by simp, by simp [ht], ?_⟩
  rw [ho]
  exact h.between span

end

theorem monospace_advances : Pattern.Advances monospace := by
  intro t m hm
  obtain ⟨span, -, -, ht, ho⟩ := monospace_eq_some hm
  refine ⟨_, by simp, ht, ?_⟩
  rw [ho]
  exact Advances.between span (by decide)

theorem strikethrough_advances : Pattern.Advances strikethrough := by
  intro t m hm
  obtain ⟨before, span, after, hne, ht, ho⟩ := strikethrough_eq_some hm
  have hspan : Advances ("-".toList ++ span ++ "-".toList) (between "~~" "~~" span) :=
    Advances.between span (by decide)
  refine ⟨before ++ ("-".toList ++ span ++ "-".toList) ++ after, by simp [hne], by simp [ht], ?_⟩
  rw [ho]
  exact (hspan.prepend before).append (Or.inr rfl)

theorem preformatted_advances : Pattern.Advances preformatted := by
  intro t m hm
  obtain ⟨rest, hr, rfl⟩ := Option.map_eq_some_iff.mp hm
  refine ⟨_, by simp, after?_eq_some_iff.mp hr, .of_count_lt ?_⟩
  simp

theorem unnamedLink_advances : Pattern.Advances unnamedLink := by
  intro t m hm
  obtain ⟨span, -, ht, ho⟩ := unnamedLink_eq_some hm
  refine ⟨_, by simp, ht, ?_⟩
  rw [ho]
  exact Advances.between span (by decide)

theorem namedLink_advances : Pattern.Advances namedLink := by
  intro t m hm
  obtain ⟨name, target, -, -, ht, ho⟩ := namedLink_eq_some hm
  have hname : Advances ("[".toList ++ name ++ "|".toList) (between "[" "](" name) :=
    Advances.between name (by decide)
  have htarget : Advances ("[".toList ++ name ++ "|".toList ++ target) (between "[" "](" name ++ target) :=
    hname.append (Or.inr rfl)
  refine ⟨_, by simp, ht, ?_⟩
  rw [ho]
  unfold Advances gains losses at *
  simp at *
  omega

theorem blockquote_advances : Pattern.Advances blockquote := by
  intro t m hm
  obtain ⟨blanks, -, hb, ht, ho⟩ := blockquote_eq_some hm
  have hblanks : gains blanks = 0 := by
    have hmarks : ∀ c ∈ "*<".toList, isBlank c = false := by decide
    unfold gains
    rw [List.countP_eq_zero]
    intro c hc hmem
    have hc' := hb c hc
    rw [hmarks c (by simpa using hmem)] at hc'
    cases hc'
  refine ⟨_, by simp, ht, ?_⟩
  rw [ho]
  exact Advances.append_dropped (by decide) hblanks

theorem color_advances : Pattern.Advances color := by
  intro t m hm
  obtain ⟨name, -, ht⟩ := color_eq_some hm
  have hopening : "\x7bcolor:".toList.count '{' = 1 := by decide
  refine ⟨_, by simp, ht, .of_count_lt ?_⟩
  simp only [List.count_append, hopening]
  omega

theorem panelTitle_advances : Pattern.Advances panelTitle := by
  intro t m hm
  obtain ⟨p, hp, rfl⟩ := Option.map_eq_some_iff.mp hm
  obtain ⟨nl, nl', -, -, ht⟩ := panel?_eq_some hp
  have hopening : panelOpening.toList.count '{' = 1 := by decide
  refine ⟨_, by simp, ht, .of_count_lt ?_⟩
  simp only [List.count_append, hopening]
  omega

theorem inlineChain_advances : ∀ style ∈ inlineChain, style.rewrite.pattern.Advances := by
  simp only [inlineChain, List.forall_mem_cons]
  refine ⟨?bold, ?italic, monospace_advances, ?insert, ?superscript, ?subscript, strikethrough_advances,
    preformatted_advances, unnamedLink_advances, ?image, namedLink_advances, blockquote_advances,
    color_advances, panelTitle_advances, by simp⟩
  case bold => exact longSpan_advances (by decide) _
  case italic => exact longSpan_advances (by decide) _
  case insert => exact shortSpan_advances (by decide)
  case superscript => exact shortSpan_advances (by decide)
  case subscript => exact shortSpan_advances (by decide)
  case image => exact longSpan_advances (by decide) _

/-! ## Scans -/

namespace Rewrite

variable {r : Rewrite}

theorem Scanned.advances (h : r.pattern.Advances) {opened : Bool} {t u : Text} (hs : Scanned r opened t u) :
    r.firesFrom opened t = false ∧ u = t ∨ r.firesFrom opened t = true ∧ Advances t u := by
  induction hs with
  | nil => exact Or.inl ⟨rfl, rfl⟩
  | @hit opened used rest output u hne ht _ ih =>
    obtain ⟨used', hused, he, hadv⟩ := h _ _ (tryAt_eq_some ht).2
    obtain rfl := List.append_cancel_right he
    refine Or.inr ⟨?_, hadv.append ?_⟩
    · obtain ⟨c, used, rfl⟩ := List.exists_cons_of_ne_nil hne
      rw [List.cons_append] at ht ⊢
      simp [firesFrom, ht]
    · rcases ih with ⟨-, hu⟩ | ⟨-, hu⟩
      · exact Or.inr hu
      · exact Or.inl hu
  | @miss opened c t u ht _ ih =>
    rcases ih with ⟨hf, rfl⟩ | ⟨hf, hu⟩
    · exact Or.inl ⟨by simp [firesFrom, ht, hf], rfl⟩
    · exact Or.inr ⟨by simp [firesFrom, hf], hu.prepend [c]⟩

theorem apply_advances (h : r.pattern.Advances) (t : Text) :
    r.fires t = false ∧ r.apply t = t ∨ r.fires t = true ∧ Advances t (r.apply t) :=
  (scanned_scan h.consumes true t).advances h

end Rewrite

/-! ## Chains -/

theorem restyle_advances {chain : List InlineStyle} (h : ∀ style ∈ chain, style.rewrite.pattern.Advances)
    (l : Text) : firingStyles chain l = [] ∧ restyle chain l = l ∨
      firingStyles chain l ≠ [] ∧ Advances l (restyle chain l) := by
  induction chain generalizing l with
  | nil => exact Or.inl ⟨rfl, rfl⟩
  | cons style chain ih =>
    rw [List.forall_mem_cons] at h
    have hrest := ih h.2 (style.rewrite.apply l)
    rw [restyle, List.foldl_cons, ← restyle, firingStyles]
    rcases Rewrite.apply_advances h.1 l with ⟨hf, he⟩ | ⟨hf, hadv⟩
    · rw [he] at hrest ⊢
      simpa [hf] using hrest
    · refine Or.inr ⟨by simp [hf], ?_⟩
      rcases hrest with ⟨-, he⟩ | ⟨-, hadv'⟩
      · rw [he]
        exact hadv
      · exact hadv.trans hadv'

theorem firingStyles_eq_nil_iff {chain : List InlineStyle}
    (h : ∀ style ∈ chain, style.rewrite.pattern.Advances) (l : Text) :
    firingStyles chain l = [] ↔ ∀ style ∈ chain, style.rewrite.fires l = false := by
  induction chain with
  | nil => simp [firingStyles]
  | cons style chain ih =>
    rw [List.forall_mem_cons] at h ⊢
    rw [firingStyles]
    rcases Rewrite.apply_advances h.1 l with ⟨hf, he⟩ | ⟨hf, -⟩
    · rw [he]
      simpa [hf] using ih h.2
    · simp [hf]

/-- Whatever styles are combined, in any order, a line comes back only if none of them matches it. -/
theorem restyle_eq_self_iff {chain : List InlineStyle} (h : chain ⊆ inlineChain) (l : Text) :
    (restyle chain l = l ↔ firingStyles chain l = []) ∧
      (restyle chain l = l ↔ ∀ style ∈ chain, style.rewrite.fires l = false) := by
  have hadv : ∀ style ∈ chain, style.rewrite.pattern.Advances :=
    fun style hs => inlineChain_advances style (h hs)
  have hnil : restyle chain l = l ↔ firingStyles chain l = [] := by
    rcases restyle_advances hadv l with ⟨hf, he⟩ | ⟨hf, hl⟩
    · simp [hf, he]
    · simp [hf, hl.ne]
  exact ⟨hnil, hnil.trans (firingStyles_eq_nil_iff hadv l)⟩

theorem Stage.styleApplied_mem_records_iff (l : Text) :
    (∃ style, .styleApplied style ∈ Stage.inlineStyles.records ⟨[l]⟩) ↔ firingStyles inlineChain l ≠ [] := by
  have hstyles : Stage.inlineStyles.styles = firingStyles inlineChain := rfl
  simp [Stage.records, hstyles, List.eq_nil_iff_forall_not_mem]

/-- The styles leave a line alone exactly if none of them matches it, and a style is recorded exactly
if the line is changed. -/
theorem inlineStyles_eq_self_iff (l : Text) :
    (inlineStyles l = l ↔ ∀ style ∈ inlineChain, style.rewrite.fires l = false) ∧
      ((∃ style, .styleApplied style ∈ Stage.inlineStyles.records ⟨[l]⟩) ↔ inlineStyles l ≠ l) := by
  obtain ⟨hnil, hfires⟩ := restyle_eq_self_iff (List.Subset.refl inlineChain) l
  exact ⟨hfires, (Stage.styleApplied_mem_records_iff l).trans (not_congr hnil).symm⟩

end JiraMarkup
