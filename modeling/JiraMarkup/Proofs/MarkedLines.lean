import JiraMarkup.Proofs.LineMarkers
import Mathlib.Logic.Function.Basic

/-!
# Marked lines

A line reads in exactly one way: as a list item, as a heading, or as a line that
no rule marks. What the rules for list items and headings make of it follows
from that reading, and at most one of them has a say on it.
-/

namespace JiraMarkup

/-! ## Items and headings -/

inductive ItemKind where
  | bullet
  | numbered
deriving DecidableEq

namespace ItemKind

def marker : ItemKind → Char
  | bullet => '*'
  | numbered => '#'

def sign : ItemKind → String
  | bullet => "* "
  | numbered => "1. "

def rewrite (k : ItemKind) : Rewrite := ⟨.textStart, listMarker k.marker k.sign⟩

theorem marker_not_indent (k : ItemKind) : isIndent k.marker = false := by
  cases k <;> rfl

theorem marker_injective {k k' : ItemKind} (h : k.marker = k'.marker) : k = k' := by
  cases k with
  | bullet =>
    cases k' with
    | bullet => rfl
    | numbered => exact absurd h (by decide)
  | numbered =>
    cases k' with
    | bullet => exact absurd h (by decide)
    | numbered => rfl

end ItemKind

/-- A list item. Nothing of its blanks is left to its text. -/
@[ext]
structure ItemLine where
  kind : ItemKind
  indent : Text
  depth : Nat
  blanks : Text
  text : Text
  indent_isIndent : ∀ c ∈ indent, isIndent c = true
  depth_ne_zero : depth ≠ 0
  blanks_ne_nil : blanks ≠ []
  blanks_isBlank : ∀ c ∈ blanks, isBlank c = true
  text_head_not_blank : ∀ c ∈ text.head?, isBlank c = false

namespace ItemLine

def markup (i : ItemLine) : Text :=
  i.indent ++ (List.replicate i.depth i.kind.marker ++ (i.blanks ++ i.text))

def markdown (i : ItemLine) : Text :=
  List.replicate (2 * i.depth) ' ' ++ i.kind.sign.toList ++ i.text

end ItemLine

@[ext]
structure HeadingLine where
  digit : Fin 7
  title : Text
  newline_not_mem : '\n' ∉ title

namespace HeadingLine

def markup (h : HeadingLine) : Text := 'h' :: Nat.digitChar h.digit :: '.' :: h.title

def markdown (h : HeadingLine) : Text := List.replicate (h.digit + 1) '#' ++ h.title

end HeadingLine

inductive LineForm where
  | item (i : ItemLine)
  | heading (h : HeadingLine)
  | unmarked (l : Text) (not_item : ∀ i : ItemLine, i.markup ≠ l)
      (not_heading : ∀ h : HeadingLine, h.markup ≠ l)

namespace LineForm

def markup : LineForm → Text
  | item i => i.markup
  | heading h => h.markup
  | unmarked l _ _ => l

def markdown : LineForm → Text
  | item i => i.markdown
  | heading h => h.markdown
  | unmarked l _ _ => l

end LineForm

/-! ## One reading -/

namespace ItemLine

variable (i : ItemLine)

theorem blanks_head : ∃ c t, i.blanks = c :: t ∧ isBlank c = true := by
  obtain ⟨c, t, h⟩ := List.exists_cons_of_ne_nil i.blanks_ne_nil
  exact ⟨c, t, h, i.blanks_isBlank c (by simp [h])⟩

theorem lead_markup : lead i.markup = some i.kind.marker := by
  obtain ⟨n, hn⟩ := Nat.exists_eq_succ_of_ne_zero i.depth_ne_zero
  rw [markup, hn, List.replicate_succ, List.cons_append]
  exact lead_append i.indent_isIndent i.kind.marker_not_indent _

theorem head_behind_indent :
    ∀ c ∈ (List.replicate i.depth i.kind.marker ++ (i.blanks ++ i.text)).head?, isIndent c = false := by
  obtain ⟨n, hn⟩ := Nat.exists_eq_succ_of_ne_zero i.depth_ne_zero
  intro c hc
  obtain rfl : i.kind.marker = c := by simpa [hn, List.replicate_succ] using hc
  exact i.kind.marker_not_indent

theorem head_behind_markers : ∀ c ∈ (i.blanks ++ i.text).head?, (c == i.kind.marker) = false := by
  obtain ⟨d, t, hd, hblank⟩ := i.blanks_head
  intro c hc
  obtain rfl : d = c := by simpa [hd] using hc
  refine beq_eq_false_iff_ne.mpr fun he => ?_
  rw [he] at hblank
  revert hblank
  cases i.kind <;> decide

/-- Indentation, markers and blanks each end where the next begins. -/
theorem markup_injective {i j : ItemLine} (h : i.markup = j.markup) : i = j := by
  have hkind : i.kind = j.kind := by
    have hlead := i.lead_markup
    rw [h, j.lead_markup] at hlead
    exact ItemKind.marker_injective (Option.some.inj hlead).symm
  have hmarkers : ∀ (k : ItemLine), ∀ c ∈ List.replicate k.depth k.kind.marker, (c == k.kind.marker) = true :=
    fun k c hc => beq_iff_eq.mpr (List.eq_of_mem_replicate hc)
  obtain ⟨hindent, hbody⟩ := append_inj_of_boundary i.indent_isIndent j.indent_isIndent
    i.head_behind_indent j.head_behind_indent h
  obtain ⟨hdepth, hbehind⟩ := append_inj_of_boundary (hmarkers i) (hkind ▸ hmarkers j)
    i.head_behind_markers (hkind ▸ j.head_behind_markers) hbody
  obtain ⟨hblanks, htext⟩ := append_inj_of_boundary i.blanks_isBlank j.blanks_isBlank
    i.text_head_not_blank j.text_head_not_blank hbehind
  have hlen := congrArg List.length hdepth
  rw [List.length_replicate, List.length_replicate] at hlen
  exact ItemLine.ext hkind hindent hlen hblanks htext

end ItemLine

theorem HeadingLine.markup_injective {h k : HeadingLine} (he : h.markup = k.markup) : h = k := by
  have hdigits : ∀ d e : Fin 7, Nat.digitChar d = Nat.digitChar e → d = e := by decide
  simp only [markup, List.cons.injEq, true_and] at he
  exact HeadingLine.ext (hdigits _ _ he.1) he.2

theorem ItemLine.markup_ne_heading (i : ItemLine) (h : HeadingLine) : i.markup ≠ h.markup := by
  intro he
  have hlead := i.lead_markup
  have hmarker : i.kind.marker ≠ 'h' := by cases i.kind <;> decide
  rw [he] at hlead
  exact hmarker (Option.some.inj hlead).symm

theorem LineForm.markup_bijective : Function.Bijective LineForm.markup := by
  refine ⟨fun form form' h => ?_, fun l => ?_⟩
  · cases form with
    | item i =>
      cases form' with
      | item j => rw [ItemLine.markup_injective h]
      | heading k => exact absurd h (i.markup_ne_heading k)
      | unmarked l not_item _ => exact absurd h (not_item i)
    | heading k =>
      cases form' with
      | item j => exact absurd h.symm (j.markup_ne_heading k)
      | heading k' => rw [HeadingLine.markup_injective h]
      | unmarked l _ not_heading => exact absurd h (not_heading k)
    | unmarked l not_item not_heading =>
      cases form' with
      | item j => exact absurd h.symm (not_item j)
      | heading k => exact absurd h.symm (not_heading k)
      | unmarked l' _ _ =>
        obtain rfl : l = l' := h
        rfl
  · by_cases hitem : ∃ i : ItemLine, i.markup = l
    · obtain ⟨i, rfl⟩ := hitem
      exact ⟨.item i, rfl⟩
    · by_cases hheading : ∃ h : HeadingLine, h.markup = l
      · obtain ⟨h, rfl⟩ := hheading
        exact ⟨.heading h, rfl⟩
      · exact ⟨.unmarked l (not_exists.mp hitem) (not_exists.mp hheading), rfl⟩

/-! ## What the rules accept -/

theorem ItemLine.listMarker_markup (i : ItemLine) : listMarker i.kind.marker i.kind.sign i.markup =
    some ⟨List.replicate (2 * i.depth) ' ' ++ i.kind.sign.toList, i.text⟩ := by
  obtain ⟨n, hn⟩ := Nat.exists_eq_succ_of_ne_zero i.depth_ne_zero
  obtain ⟨c, t, hc, hblank⟩ := i.blanks_head
  have hhead : (i.blanks ++ i.text).head? ≠ some i.kind.marker := fun h => by
    have hne := i.head_behind_markers _ h
    rw [beq_self_eq_true] at hne
    cases hne
  have hdrop : (i.blanks ++ i.text).dropWhile isBlank = i.text :=
    (takeWhile_append_boundary i.blanks_isBlank i.text_head_not_blank).2
  have hrun := listMarker_run i.kind.sign i.kind.marker_not_indent i.indent_isIndent hhead n
  rw [hdrop, if_pos (by simp [hc, hblank])] at hrun
  rw [markup, hn, ← List.append_assoc]
  exact hrun

theorem exists_itemLine {k : ItemKind} {l : Text} {m : Match} (h : listMarker k.marker k.sign l = some m) :
    ∃ i : ItemLine, i.kind = k ∧ i.markup = l := by
  obtain ⟨indent, blanks, depth, hl, hindent, hdepth, hne, hblanks, -⟩ := listMarker_eq_some h
  exact ⟨⟨k, indent, depth, blanks, m.rest, hindent, hdepth, hne, hblanks, listMarker_rest h⟩, rfl,
    by simp [ItemLine.markup, hl]⟩

theorem HeadingLine.headingLine_markup (h : HeadingLine) :
    headingLine h.markup = some ⟨List.replicate (h.digit + 1) '#', h.title⟩ := by
  have hlevel : ∀ d : Fin 7, headingLevel? (Nat.digitChar d) = some d.val := by decide
  exact headingLine_title (hlevel h.digit) h.newline_not_mem

theorem exists_headingLine {l : Text} {m : Match} (h : headingLine l = some m) :
    ∃ k : HeadingLine, k.markup = l := by
  have hdigit : ∀ c ∈ "0123456".toList, ∃ d : Fin 7, Nat.digitChar d = c := by decide
  obtain ⟨c, level, rfl, hlevel, htitle, -⟩ := headingLine_eq_some h
  obtain ⟨d, rfl⟩ := hdigit c (headingLevel?_eq_some hlevel).1
  exact ⟨⟨d, m.rest, htitle⟩, rfl⟩

theorem ItemKind.rewrite_consumes (k : ItemKind) : k.rewrite.pattern.Consumes :=
  (listMarker_respells k.marker k.sign).consumes

theorem ItemKind.fires_iff {k : ItemKind} {l : Text} :
    k.rewrite.fires l = true ↔ ∃ i : ItemLine, i.kind = k ∧ i.markup = l := by
  have hfires : k.rewrite.fires l = (listMarker k.marker k.sign l).isSome :=
    Rewrite.fires_textStart rfl k.rewrite_consumes l
  rw [hfires, Option.isSome_iff_exists]
  constructor
  · rintro ⟨m, hm⟩
    exact exists_itemLine hm
  · rintro ⟨i, rfl, rfl⟩
    exact ⟨_, i.listMarker_markup⟩

theorem heading_fires_iff {l : Text} : heading.fires l = true ↔ ∃ h : HeadingLine, h.markup = l := by
  have hfires : heading.fires l = (headingLine l).isSome :=
    Rewrite.fires_textStart rfl heading_respells.consumes l
  rw [hfires, Option.isSome_iff_exists]
  constructor
  · rintro ⟨m, hm⟩
    exact exists_headingLine hm
  · rintro ⟨h, rfl⟩
    exact ⟨_, h.headingLine_markup⟩

/-! ## The rules in turn -/

theorem ItemLine.rewrite_apply (i : ItemLine) : i.kind.rewrite.apply i.markup = i.markdown := by
  have hmatch : i.kind.rewrite.pattern i.markup = some _ := i.listMarker_markup
  exact Rewrite.apply_textStart_of_some rfl i.kind.rewrite_consumes hmatch

theorem HeadingLine.heading_apply (h : HeadingLine) : heading.apply h.markup = h.markdown := by
  have hmatch : heading.pattern h.markup = some _ := h.headingLine_markup
  exact Rewrite.apply_textStart_of_some rfl heading_respells.consumes hmatch

theorem ItemKind.apply_eq_self {k : ItemKind} {l : Text} (h : ∀ i : ItemLine, i.kind = k → i.markup ≠ l) :
    k.rewrite.apply l = l := by
  refine Rewrite.apply_textStart_of_not_fires rfl k.rewrite_consumes (Bool.eq_false_iff.mpr fun hf => ?_)
  obtain ⟨i, hk, hi⟩ := ItemKind.fires_iff.mp hf
  exact h i hk hi

theorem heading_apply_eq_self {l : Text} (h : ∀ k : HeadingLine, k.markup ≠ l) : heading.apply l = l := by
  refine Rewrite.apply_textStart_of_not_fires rfl heading_respells.consumes
    (Bool.eq_false_iff.mpr fun hf => ?_)
  obtain ⟨k, hk⟩ := heading_fires_iff.mp hf
  exact h k hk

namespace ItemLine

variable (i : ItemLine)

theorem numbered_markup_ne_markdown (j : ItemLine) (hj : j.kind = .numbered) : j.markup ≠ i.markdown := by
  have hspaces : ∀ c ∈ List.replicate (2 * i.depth) ' ', isIndent c = true := fun c hc => by
    rw [List.eq_of_mem_replicate hc]
    rfl
  have hlead : lead i.markdown = i.kind.sign.toList.head? := by
    rw [markdown, List.append_assoc]
    cases i.kind <;> exact lead_append hspaces (by decide) _
  have hmarker : i.kind.sign.toList.head? ≠ some '#' := by cases i.kind <;> decide
  intro he
  rw [← he, j.lead_markup, hj] at hlead
  exact hmarker hlead.symm

theorem heading_markup_ne_markdown (h : HeadingLine) : h.markup ≠ i.markdown := by
  obtain ⟨n, hn⟩ := Nat.exists_eq_succ_of_ne_zero i.depth_ne_zero
  intro he
  rw [markdown, hn, Nat.mul_succ, List.replicate_succ, HeadingLine.markup] at he
  exact absurd (List.cons.inj he).1 (by decide)

end ItemLine

theorem LineForm.markLine_markup (form : LineForm) : markLine form.markup = form.markdown := by
  have hbullet : bulletItem = ItemKind.bullet.rewrite := rfl
  have hnumbered : numberedItem = ItemKind.numbered.rewrite := rfl
  rw [markLine, hbullet, hnumbered]
  cases form with
  | item i =>
    have hitem : ItemKind.numbered.rewrite.apply (ItemKind.bullet.rewrite.apply i.markup) = i.markdown := by
      have happly := i.rewrite_apply
      cases hk : i.kind with
      | bullet =>
        rw [hk] at happly
        rw [happly, ItemKind.apply_eq_self i.numbered_markup_ne_markdown]
      | numbered =>
        have hkind : ∀ j : ItemLine, j.kind = .bullet → j.markup ≠ i.markup := by
          intro j hj he
          rw [ItemLine.markup_injective he, hk] at hj
          cases hj
        rw [hk] at happly
        rw [ItemKind.apply_eq_self hkind, happly]
    show JiraMarkup.heading.apply (ItemKind.numbered.rewrite.apply (ItemKind.bullet.rewrite.apply i.markup)) = _
    rw [hitem, heading_apply_eq_self i.heading_markup_ne_markdown]
    rfl
  | heading h =>
    have hkinds : ∀ k : ItemKind, k.rewrite.apply h.markup = h.markup :=
      fun k => ItemKind.apply_eq_self fun i _ => i.markup_ne_heading h
    show JiraMarkup.heading.apply (ItemKind.numbered.rewrite.apply (ItemKind.bullet.rewrite.apply h.markup)) = _
    rw [hkinds, hkinds, h.heading_apply]
    rfl
  | unmarked l not_item not_heading =>
    have hkinds : ∀ k : ItemKind, k.rewrite.apply l = l :=
      fun k => ItemKind.apply_eq_self fun i _ => not_item i
    show JiraMarkup.heading.apply (ItemKind.numbered.rewrite.apply (ItemKind.bullet.rewrite.apply l)) = _
    rw [hkinds, hkinds, heading_apply_eq_self not_heading]
    rfl

theorem ItemKind.not_fires_of_fires {k : ItemKind} {l : Text} (h : k.rewrite.fires l = true) :
    numberedItem.fires (k.rewrite.apply l) = false ∧ heading.fires (k.rewrite.apply l) = false := by
  obtain ⟨i, rfl, rfl⟩ := ItemKind.fires_iff.mp h
  rw [i.rewrite_apply]
  constructor
  · refine Bool.eq_false_iff.mpr fun hn => ?_
    obtain ⟨j, hj, he⟩ := (ItemKind.fires_iff (k := .numbered)).mp hn
    exact i.numbered_markup_ne_markdown j hj he
  · refine Bool.eq_false_iff.mpr fun hh => ?_
    obtain ⟨h, he⟩ := heading_fires_iff.mp hh
    exact i.heading_markup_ne_markdown h he

/-- Every line has one reading, which says what becomes of it, and no rule acts on what an earlier one
has written. -/
theorem markLine_classifies :
    Function.Bijective LineForm.markup ∧ (∀ form : LineForm, markLine form.markup = form.markdown) ∧
      ∀ l, (bulletItem.fires l = true → numberedItem.fires (bulletItem.apply l) = false ∧
          heading.fires (numberedItem.apply (bulletItem.apply l)) = false) ∧
        (numberedItem.fires (bulletItem.apply l) = true →
          heading.fires (numberedItem.apply (bulletItem.apply l)) = false) := by
  refine ⟨LineForm.markup_bijective, LineForm.markLine_markup, fun l => ⟨fun h => ?_, fun h => ?_⟩⟩
  · obtain ⟨hnumbered, hheading⟩ := ItemKind.not_fires_of_fires (k := .bullet) h
    have hcopied : numberedItem.apply (bulletItem.apply l) = bulletItem.apply l :=
      Rewrite.apply_textStart_of_not_fires rfl ItemKind.numbered.rewrite_consumes hnumbered
    rw [hcopied]
    exact ⟨hnumbered, hheading⟩
  · exact (ItemKind.not_fires_of_fires (k := .numbered) h).2

example : markLine "\t##\r\n h1.x".toList = "    1. h1.x".toList := by decide

end JiraMarkup
