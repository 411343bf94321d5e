import JiraMarkup.Proofs.InlineSpan
import Mathlib.Data.List.Forall2

/-!
# Marks of the styles

A match of a style begins with an opening mark and holds a closing one behind
it. In a line that lacks them the style finds nothing, and a line that lacks
those of all styles stays as it is.
-/

namespace JiraMarkup

/-! ## Opening and closing marks -/

/-- Every match begins with the first mark and holds the second one behind it. -/
def Pattern.Opens (p : Pattern) (mark : String × String) : Prop :=
  ∀ t m, p t = some m → mark.1.toList <+: t ∧ (mark.1 ++ mark.2).toList.Sublist t

theorem opens_of_eq {o c : String} {t x y : Text} (ht : t = o.toList ++ x ++ c.toList ++ y) :
    o.toList <+: t ∧ (o ++ c).toList.Sublist t := by
  subst ht
  rw [String.toList_append]
  refine ⟨⟨x ++ c.toList ++ y, by simp⟩, ?_⟩
  have h : (o.toList ++ c.toList).Sublist (o.toList ++ x ++ c.toList) :=
    (List.sublist_append_left _ x).append (List.Sublist.refl _)
  exact h.trans (List.sublist_append_left _ y)

section
variable {mark : Char} {o : String} (ho : o.toList = [mark])
include ho

theorem longSpan_opens (starts : Char → Bool) (wrap : Text → Text) :
    (longSpan mark starts wrap).Opens (o, o) := by
  intro t m h
  obtain ⟨c, span, ht, -⟩ := longSpan_eq_some h
  exact opens_of_eq (x := c :: span) (y := m.rest) (by simp [ht, ho])

theorem shortSpan_opens (wrap : Text → Text) : (shortSpan mark wrap).Opens (o, o) := by
  intro t m h
  obtain ⟨span, ht, -⟩ := shortSpan_eq_some h
  exact opens_of_eq (x := span) (y := m.rest) (by simp [ht, ho])

end

theorem monospace_opens : Pattern.Opens monospace ("\x7b\x7b", "\x7d\x7d") := by
  intro t m h
  obtain ⟨span, -, -, ht, -⟩ := monospace_eq_some h
  exact opens_of_eq ht

theorem strikethrough_opens : Pattern.Opens strikethrough ("", "--") := by
  intro t m h
  obtain ⟨before, span, after, -, ht, -⟩ := strikethrough_eq_some h
  have hdashes : ("-".toList ++ "-".toList).Sublist ("-".toList ++ span ++ "-".toList) :=
    (List.sublist_append_left _ span).append (List.Sublist.refl _)
  have hinfix : "-".toList ++ span ++ "-".toList <:+: t := ⟨before, after ++ m.rest, by simp [ht]⟩
  exact ⟨List.nil_prefix, hdashes.trans hinfix.sublist⟩

theorem preformatted_opens : Pattern.Opens preformatted ("\x7bnoformat\x7d", "") := by
  intro t m h
  obtain ⟨rest, hr, -⟩ := Option.map_eq_some_iff.mp h
  exact opens_of_eq (x := []) (y := rest) (by simp [after?_eq_some_iff.mp hr])

theorem unnamedLink_opens : Pattern.Opens unnamedLink ("[", "]") := by
  intro t m h
  obtain ⟨span, -, ht, -⟩ := unnamedLink_eq_some h
  exact opens_of_eq ht

theorem namedLink_opens : Pattern.Opens namedLink ("[", "|") := by
  intro t m h
  obtain ⟨name, target, -, -, ht, -⟩ := namedLink_eq_some h
  exact opens_of_eq (x := name) (y := target ++ "]".toList ++ m.rest) (by simp [ht])

theorem blockquote_opens : Pattern.Opens blockquote ("bq.", "") := by
  intro t m h
  obtain ⟨blanks, -, -, ht, -⟩ := blockquote_eq_some h
  exact opens_of_eq (x := []) (y := blanks ++ m.rest) (by simp [ht])

theorem blockquote_apply_eq_self {l : Text} (hl : ¬ "bq.".toList <+: l) :
    Rewrite.apply ⟨.textStart, blockquote⟩ l = l := by
  refine Rewrite.apply_textStart_of_none rfl (Option.eq_none_iff_forall_ne_some.mpr fun m hm => ?_)
  exact hl (blockquote_opens _ m hm).1

theorem color_opens : Pattern.Opens color ("\x7bcolor:", "\x7bcolor\x7d") := by
  intro t m h
  obtain ⟨name, -, ht⟩ := color_eq_some h
  exact opens_of_eq (x := name ++ "\x7d".toList ++ m.output) (y := m.rest) (by simp [ht])

theorem panelTitle_opens : Pattern.Opens panelTitle (panelOpening, panelClosing) := by
  intro t m h
  obtain ⟨p, hp, -⟩ := Option.map_eq_some_iff.mp h
  obtain ⟨nl, nl', -, -, ht⟩ := panel?_eq_some hp
  exact opens_of_eq (x := p.title ++ '}' :: nl ++ p.body ++ nl') (y := p.rest) (by simp [ht])

/-! ## Lines without marks -/

def styleMarks : List (String × String) :=
  [("*", "*"), ("_", "_"), ("\x7b\x7b", "\x7d\x7d"), ("+", "+"), ("^", "^"), ("~", "~"), ("", "--"),
    ("\x7bnoformat\x7d", ""), ("[", "]"), ("!", "!"), ("[", "|"), ("bq.", ""),
    ("\x7bcolor:", "\x7bcolor\x7d"), (panelOpening, panelClosing)]

theorem inlineChain_opens :
    List.Forall₂ (fun (style : InlineStyle) mark => style.rewrite.pattern.Opens mark)
      inlineChain styleMarks :=
  .cons (longSpan_opens rfl _ _) <| .cons (longSpan_opens rfl _ _) <| .cons monospace_opens <|
    .cons (shortSpan_opens rfl _) <| .cons (shortSpan_opens rfl _) <| .cons (shortSpan_opens rfl _) <|
    .cons strikethrough_opens <| .cons preformatted_opens <| .cons unnamedLink_opens <|
    .cons (longSpan_opens rfl _ _) <| .cons namedLink_opens <| .cons blockquote_opens <|
    .cons color_opens <| .cons panelTitle_opens .nil

def HasMarks (mark : String × String) (l : Text) : Prop :=
  mark.1.toList <:+: l ∧ (mark.1 ++ mark.2).toList.Sublist l

theorem Pattern.Opens.apply_eq_self {r : Rewrite} {mark : String × String} (h : r.pattern.Opens mark)
    {l : Text} (hl : ¬ HasMarks mark l) : r.apply l = l := by
  refine Rewrite.apply_eq_self fun s hs => Option.eq_none_iff_forall_ne_some.mpr fun m hm => hl ?_
  obtain ⟨hp, hsub⟩ := h s m hm
  exact ⟨hp.isInfix.trans hs.isInfix, hsub.trans hs.sublist⟩

theorem Pattern.Opens.beginsWith {p : Pattern} {mark : String × String} (h : p.Opens mark) {c : Char} {o : Text}
    (ho : mark.1.toList = c :: o) : p.BeginsWith c := by
  intro d t m hm
  have hp := (h _ m hm).1
  rw [ho, List.cons_prefix_cons] at hp
  exact hp.1.symm

theorem Pattern.Opens.apply_append {r : Rewrite} {mark : String × String} (h : r.pattern.Opens mark)
    (hr : r.anchor = .anywhere) {c : Char} {o s : Text} (ho : mark.1.toList = c :: o) (hs : c ∉ s) (t : Text) :
    r.apply (s ++ t) = s ++ r.apply t := Rewrite.apply_of_passes hr ((h.beginsWith ho).passes hs) t

section
variable {mark : Char} {t : Text} (h : mark ∉ t)
include h

theorem longSpan_passes (starts : Char → Bool) (wrap : Text → Text) : (longSpan mark starts wrap).Passes t :=
  ((longSpan_opens (String.toList_singleton mark) starts wrap).beginsWith (String.toList_singleton mark)).passes h

theorem shortSpan_passes (wrap : Text → Text) : (shortSpan mark wrap).Passes t :=
  ((shortSpan_opens (String.toList_singleton mark) wrap).beginsWith (String.toList_singleton mark)).passes h

end

theorem restyle_eq_self {chain : List InlineStyle} {marks : List (String × String)}
    (h : List.Forall₂ (fun (style : InlineStyle) mark => style.rewrite.pattern.Opens mark) chain marks)
    {l : Text} (hl : ∀ mark ∈ marks, ¬ HasMarks mark l) : restyle chain l = l := by
  induction h with
  | nil => rfl
  | cons hopens _ ih =>
    rw [List.forall_mem_cons] at hl
    rw [restyle, List.foldl_cons, hopens.apply_eq_self hl.1]
    exact ih hl.2

theorem inlineStyles_eq_self_of_marks {l : Text} (hl : ∀ mark ∈ styleMarks, ¬ HasMarks mark l) :
    inlineStyles l = l := restyle_eq_self inlineChain_opens hl

theorem drop_eq_of_getElem? {α : Type} {l : List α} {i : Nat} {a : α} (h : l[i]? = some a) :
    l.drop i = a :: l.drop (i + 1) := by
  obtain ⟨hlt, rfl⟩ := List.getElem?_eq_some_iff.mp h
  exact List.drop_eq_getElem_cons hlt

/-- In a line without the marks of the other styles of a chain only one style has a say. -/
theorem restyle_eq_apply {chain : List InlineStyle} {marks : List (String × String)}
    (h : List.Forall₂ (fun (style : InlineStyle) mark => style.rewrite.pattern.Opens mark) chain marks)
    {i : Nat} {style : InlineStyle} (hi : chain[i]? = some style) {l : Text}
    (hbefore : restyle (chain.take i) l = l)
    (hafter : ∀ mark ∈ marks.drop (i + 1), ¬ HasMarks mark (style.rewrite.apply l)) :
    restyle chain l = style.rewrite.apply l := by
  have hchain : chain = chain.take i ++ style :: chain.drop (i + 1) := by
    rw [← drop_eq_of_getElem? hi, List.take_append_drop]
  have hrest := restyle_eq_self (List.forall₂_drop (i + 1) h) hafter
  rw [restyle] at hbefore hrest
  rw [restyle, hchain, List.foldl_append, List.foldl_cons, hbefore, hrest]

theorem inlineStyles_eq_apply {i : Nat} {style : InlineStyle} (hi : inlineChain[i]? = some style) {l : Text}
    (hbefore : restyle (inlineChain.take i) l = l)
    (hafter : ∀ mark ∈ styleMarks.drop (i + 1), ¬ HasMarks mark (style.rewrite.apply l)) :
    inlineStyles l = style.rewrite.apply l := restyle_eq_apply inlineChain_opens hi hbefore hafter

theorem inlineStyles_of_restyle {l l' : Text} (h : restyle (inlineChain.take 11) l = l')
    (hlast : ∀ mark ∈ styleMarks.drop 12, ¬ HasMarks mark (Rewrite.apply ⟨.textStart, blockquote⟩ l')) :
    inlineStyles l = Rewrite.apply ⟨.textStart, blockquote⟩ l' := by
  have hchain : inlineChain = inlineChain.take 11 ++ ⟨"blockquote", .textStart, blockquote⟩ :: inlineChain.drop 12 :=
    rfl
  have hrest := restyle_eq_self (List.forall₂_drop 12 inlineChain_opens) hlast
  rw [restyle] at h hrest
  rw [inlineStyles, restyle, hchain, List.foldl_append, List.foldl_cons, h, hrest]

/-- Every match holds one of these. -/
def triggers : String := "*_\x7b+^~-[!."

theorem inlineStyles_eq_self {t : Text} (h : ∀ c ∈ t, c ∉ triggers.toList) : inlineStyles t = t := by
  have htrigger : ∀ mark ∈ styleMarks, ∃ c ∈ (mark.1 ++ mark.2).toList, c ∈ triggers.toList := by
    decide
  refine inlineStyles_eq_self_of_marks fun mark hmark hl => ?_
  obtain ⟨c, hc, ht⟩ := htrigger mark hmark
  exact h c (hl.2.subset hc) ht

end JiraMarkup
