import JiraMarkup.Proofs.MarkedLines
import JiraMarkup.Proofs.StyleMarks

/-!
# Marks under the styles

What the rules for list items and headings write in front of a line stays there
when the styles are applied, whatever stands behind it. The star of a bullet is
followed by a space and so opens nothing; the space itself may be read with
struck text, but then it is written again.
-/

namespace JiraMarkup

/-! ## Rewrites that keep the front of a text -/

/-- However a text goes on behind `p`, the rewrite leaves `p` in front of it. -/
def Rewrite.Keeps (r : Rewrite) (p : Text) : Prop := ∀ t, ∃ u, r.apply (p ++ t) = p ++ u

namespace Rewrite.Keeps

variable {r : Rewrite} {p q : Text}

theorem of_passes (hr : r.anchor = .anywhere) (h : r.pattern.Passes p) : r.Keeps p := fun t =>
  ⟨r.apply t, apply_of_passes hr h t⟩

theorem passes_append (hr : r.anchor = .anywhere) (hp : r.pattern.Passes p) (hq : r.Keeps q) :
    r.Keeps (p ++ q) := by
  intro t
  obtain ⟨u, hu⟩ := hq t
  refine ⟨u, ?_⟩
  rw [List.append_assoc, apply_of_passes hr hp, hu, List.append_assoc]

end Rewrite.Keeps

theorem restyle_keeps {p : Text} {chain : List InlineStyle} (h : ∀ style ∈ chain, style.rewrite.Keeps p) (t : Text) :
    ∃ u, restyle chain (p ++ t) = p ++ u := by
  induction chain generalizing t with
  | nil => exact ⟨t, rfl⟩
  | cons style chain ih =>
    rw [List.forall_mem_cons] at h
    obtain ⟨u, hu⟩ := h.1 t
    rw [restyle, List.foldl_cons, hu]
    exact ih h.2 u

/-! ## Struck text -/

/-- Blanks in front of a character that is none open no struck text, so that a match can only begin
behind it. -/
theorem strikethrough_passes {p : Text} {c : Char} (hdash : '-' ∉ p ++ [c]) (hc : isBlank c = false) :
    Pattern.Passes strikethrough (p ++ [c]) := by
  intro u hne hu v
  refine strikethrough_append_eq_none (fun hm => hdash (hu.subset hm)) ⟨c, ?_, hc⟩
  obtain ⟨s, hs⟩ := hu
  have hlast : u.getLast hne = c := by
    have h := List.getLast_append_of_ne_nil (l := s) (by simp [hne]) hne
    simp only [hs] at h
    rw [← h]
    simp
  exact hlast ▸ List.getLast_mem hne

theorem strikethrough_keeps_head (c : Char) : Rewrite.Keeps ⟨.anywhere, strikethrough⟩ [c] := by
  intro t
  cases h : strikethrough (c :: t) with
  | none => exact ⟨_, Rewrite.apply_miss rfl h⟩
  | some m =>
    obtain ⟨before, span, after, hne, ht, ho⟩ := strikethrough_eq_some h
    obtain ⟨d, before, rfl⟩ := List.exists_cons_of_ne_nil hne
    obtain rfl : c = d := (List.cons.inj ht).1
    refine ⟨before ++ between "~~" "~~" span ++ after ++ Rewrite.apply ⟨.anywhere, strikethrough⟩ m.rest, ?_⟩
    have happly := Rewrite.apply_of_some (r := ⟨.anywhere, strikethrough⟩) rfl strikethrough_respells.consumes h
    rw [List.singleton_append, happly, ho]
    rfl

/-! ## Marks -/

def ItemLine.mark (i : ItemLine) : Text := List.replicate (2 * i.depth) ' ' ++ i.kind.sign.toList

def HeadingLine.mark (h : HeadingLine) : Text := List.replicate (h.digit + 1) '#'

/-- Text that can stand in front of a line without being read by the styles. -/
structure Inert (p : Text) : Prop where
  ne_nil : p ≠ []
  not_mem : ∀ c ∈ p, c ∈ " *1.#".toList
  bold : Pattern.Passes bold p
  strikethrough : Rewrite.Keeps ⟨.anywhere, strikethrough⟩ p

theorem Inert.absent {p : Text} (h : Inert p) {c : Char} (hc : c ∉ " *1.#".toList := by decide) : c ∉ p :=
  fun hm => hc (h.not_mem c hm)

theorem Inert.blockquote_keeps {p : Text} (h : Inert p) : Rewrite.Keeps ⟨.textStart, blockquote⟩ p := by
  intro t
  refine ⟨t, blockquote_apply_eq_self fun hquote => ?_⟩
  obtain ⟨c, p, rfl⟩ := List.exists_cons_of_ne_nil h.ne_nil
  have hb : 'b' = c := (List.cons_prefix_cons.mp hquote).1
  have habsent : 'b' ∉ c :: p := h.absent
  exact habsent (hb ▸ List.mem_cons_self)

theorem Inert.inlineChain_keeps {p : Text} (h : Inert p) : ∀ style ∈ inlineChain, style.rewrite.Keeps p := by
  simp only [inlineChain, List.forall_mem_cons]
  refine ⟨?bold, ?italic, ?monospace, ?insert, ?superscript, ?subscript, ?strikethrough, ?preformatted,
    ?unnamedLink, ?image, ?namedLink, ?blockquote, ?color, ?panel, by simp⟩
  case bold => exact .of_passes rfl h.bold
  case italic => exact .of_passes rfl (longSpan_passes h.absent _ _)
  case monospace => exact .of_passes rfl ((monospace_opens.beginsWith rfl).passes h.absent)
  case insert => exact .of_passes rfl (shortSpan_passes h.absent _)
  case superscript => exact .of_passes rfl (shortSpan_passes h.absent _)
  case subscript => exact .of_passes rfl (shortSpan_passes h.absent _)
  case strikethrough => exact h.strikethrough
  case preformatted => exact .of_passes rfl ((preformatted_opens.beginsWith rfl).passes h.absent)
  case unnamedLink => exact .of_passes rfl ((unnamedLink_opens.beginsWith rfl).passes h.absent)
  case image => exact .of_passes rfl (longSpan_passes h.absent _ _)
  case namedLink => exact .of_passes rfl ((namedLink_opens.beginsWith rfl).passes h.absent)
  case blockquote => exact h.blockquote_keeps
  case color => exact .of_passes rfl ((color_opens.beginsWith rfl).passes h.absent)
  case panel => exact .of_passes rfl ((panelTitle_opens.beginsWith rfl).passes h.absent)

theorem Inert.prefix_inlineStyles {p : Text} (h : Inert p) (t : Text) : p <+: inlineStyles (p ++ t) := by
  obtain ⟨u, hu⟩ := restyle_keeps h.inlineChain_keeps t
  exact ⟨u, hu.symm⟩

theorem bold_passes_bullet : Pattern.Passes bold "* ".toList := by
  have hspace : Pattern.Passes bold [' '] := longSpan_passes (by decide) _ _
  have hstar : Pattern.Passes bold ['*', ' '] := hspace.cons fun v => by simp [bold, longSpan, isBlank]
  exact hstar

theorem ItemLine.mark_inert (i : ItemLine) : Inert i.mark where
  ne_nil := by cases hk : i.kind <;> simp [mark, hk, ItemKind.sign]
  not_mem := by
    have hsign : ∀ k : ItemKind, ∀ c ∈ k.sign.toList, c ∈ " *1.#".toList := by
      intro k
      cases k <;> decide
    intro c hc
    rcases List.mem_append.mp hc with hc | hc
    · rw [List.eq_of_mem_replicate hc]
      decide
    · exact hsign i.kind c hc
  bold := by
    have hspaces : '*' ∉ List.replicate (2 * i.depth) ' ' := fun h => by
      have := List.eq_of_mem_replicate h
      cases this
    refine Pattern.Passes.append (longSpan_passes hspaces _ _) ?_
    cases i.kind with
    | bullet => exact bold_passes_bullet
    | numbered => exact longSpan_passes (by decide) _ _
  strikethrough := by
    -- The mark ends in a character that is no blank and a space behind it.
    obtain ⟨s, c, hsign, hdash, hc⟩ : ∃ s c, i.kind.sign.toList = s ++ [c] ++ [' '] ∧ '-' ∉ s ++ [c] ∧
        isBlank c = false := by
      cases i.kind with
      | bullet => exact ⟨[], '*', rfl, by decide, rfl⟩
      | numbered => exact ⟨['1'], '.', rfl, by decide, rfl⟩
    have hspaces : '-' ∉ List.replicate (2 * i.depth) ' ' := fun h => by
      have := List.eq_of_mem_replicate h
      cases this
    have hmark : i.mark = List.replicate (2 * i.depth) ' ' ++ s ++ [c] ++ [' '] := by
      rw [mark, hsign]
      simp
    rw [hmark]
    refine .passes_append rfl (strikethrough_passes ?_ hc) (strikethrough_keeps_head ' ')
    rw [List.append_assoc, List.mem_append]
    exact fun h => h.elim hspaces hdash

theorem HeadingLine.mark_inert (h : HeadingLine) : Inert h.mark where
  ne_nil := by simp [mark]
  not_mem c hc := by
    rw [List.eq_of_mem_replicate hc]
    decide
  bold := longSpan_passes (fun hm => by cases List.eq_of_mem_replicate hm) _ _
  strikethrough := by
    refine .of_passes rfl ?_
    rw [mark, List.replicate_succ']
    refine strikethrough_passes (fun hm => ?_) rfl
    rw [← List.replicate_succ'] at hm
    cases List.eq_of_mem_replicate hm

/-! ## Marked lines -/

theorem ItemKind.mark_prefix {k : ItemKind} {l : Text} (h : k.rewrite.fires l = true) :
    ∃ i : ItemLine, i.kind = k ∧ i.markup = l ∧ k.rewrite.apply l = i.mark ++ i.text ∧
      i.mark <+: inlineStyles (k.rewrite.apply l) := by
  obtain ⟨i, rfl, rfl⟩ := ItemKind.fires_iff.mp h
  have happly : i.kind.rewrite.apply i.markup = i.mark ++ i.text := i.rewrite_apply
  refine ⟨i, rfl, rfl, happly, ?_⟩
  rw [happly]
  exact i.mark_inert.prefix_inlineStyles i.text

/-- The marks of list items and headings are still in front of the line behind the styles. -/
theorem prefix_inlineStyles_of_marked (l : Text) :
    (bulletItem.fires l = true → ∃ i : ItemLine, i.kind = .bullet ∧ i.markup = l ∧
        bulletItem.apply l = i.mark ++ i.text ∧ i.mark <+: inlineStyles (bulletItem.apply l)) ∧
      (numberedItem.fires l = true → ∃ i : ItemLine, i.kind = .numbered ∧ i.markup = l ∧
        numberedItem.apply l = i.mark ++ i.text ∧ i.mark <+: inlineStyles (numberedItem.apply l)) ∧
      (heading.fires l = true → ∃ h : HeadingLine, h.markup = l ∧ heading.apply l = h.mark ++ h.title ∧
        h.mark <+: inlineStyles (heading.apply l)) := by
  refine ⟨ItemKind.mark_prefix (k := .bullet), ItemKind.mark_prefix (k := .numbered), fun hf => ?_⟩
  obtain ⟨h, rfl⟩ := heading_fires_iff.mp hf
  have happly : heading.apply h.markup = h.mark ++ h.title := h.heading_apply
  refine ⟨h, rfl, happly, ?_⟩
  rw [happly]
  exact h.mark_inert.prefix_inlineStyles h.title

example : inlineStyles (bulletItem.apply "** -a* b- *c*".toList) = "    * ~~a* b~~ **c**".toList := by decide

end JiraMarkup
