import JiraMarkup.Proofs.StyledLines

/-!
# Delimiters

The spans of some styles end at the next mark. So the marks of a line pair up
from the left, whatever stands in between, and one of an odd number is left as
it is. Monospace spans have an opening and a closing mark and come out one by one.
-/

namespace JiraMarkup

/-! ## Marks that pair up -/

def delimited (mark : Char) (first : Text) (rest : List Text) : Text := first ++ rest.flatMap (mark :: ·)

/-- Every second stretch is wrapped, if there is a mark behind it. -/
def paired (mark : Char) (wrap : Text → Text) : Text → List Text → Text
  | first, [] => first
  | first, [last] => first ++ mark :: last
  | first, span :: gap :: rest => first ++ (wrap span ++ paired mark wrap gap rest)

theorem delimited_cons (mark : Char) (first next : Text) (rest : List Text) :
    delimited mark first (next :: rest) = first ++ mark :: delimited mark next rest := by
  simp [delimited]

section
variable {mark : Char} {wrap : Text → Text}

theorem shortSpan_eq_none {t : Text} (h : mark ∉ t) : shortSpan mark wrap (mark :: t) = none := by
  rw [Option.eq_none_iff_forall_ne_some]
  intro m hm
  obtain ⟨span, ht, -⟩ := shortSpan_eq_some hm
  exact h (by rw [(List.cons.inj ht).2]; simp)

theorem shortSpan_apply_delimited {first : Text} {rest : List Text} (hfirst : mark ∉ first)
    (hrest : ∀ s ∈ rest, mark ∉ s) :
    Rewrite.apply ⟨.anywhere, shortSpan mark wrap⟩ (delimited mark first rest) = paired mark wrap first rest := by
  have hcopy {s : Text} (hs : mark ∉ s) (t : Text) := Rewrite.apply_of_passes
    (r := ⟨.anywhere, shortSpan mark wrap⟩) rfl (shortSpan_passes hs wrap) t
  have hplain {s : Text} (hs : mark ∉ s) := Rewrite.apply_eq_self_of_passes
    (r := ⟨.anywhere, shortSpan mark wrap⟩) rfl (shortSpan_passes hs wrap)
  induction first, rest using paired.induct with
  | case1 first =>
    rw [delimited, List.flatMap_nil, List.append_nil, hplain hfirst, paired]
  | case2 first last =>
    have hlast := hrest last (by simp)
    have hmiss := Rewrite.apply_miss (r := ⟨.anywhere, shortSpan mark wrap⟩) rfl (shortSpan_eq_none hlast)
    rw [hplain hlast] at hmiss
    have hend : delimited mark last [] = last := List.append_nil last
    rw [delimited_cons, hend, hcopy hfirst, hmiss, paired]
  | case3 first span gap rest ih =>
    rw [List.forall_mem_cons, List.forall_mem_cons] at hrest
    obtain ⟨hspan, hgap, hrest⟩ := hrest
    have hne : mark :: (span ++ [mark]) ≠ [] := List.cons_ne_nil _ _
    have hmatch : shortSpan mark wrap (mark :: (span ++ [mark]) ++ delimited mark gap rest) =
        some ⟨wrap span, delimited mark gap rest⟩ := by
      have h : shortSpan mark wrap _ = _ := shortSpan_span hspan (delimited mark gap rest)
      simpa using h
    have hhit := Rewrite.apply_hit (r := ⟨.anywhere, shortSpan mark wrap⟩) rfl hne hmatch
    have hsplit : mark :: delimited mark span (gap :: rest) =
        mark :: (span ++ [mark]) ++ delimited mark gap rest := by
      simp [delimited_cons]
    rw [delimited_cons, hcopy hfirst, hsplit, hhit, ih hgap hrest, paired]

end

/-! ## Lines with delimiters -/

inductive Delimiter where
  | insert
  | superscript
  | subscript

namespace Delimiter

def mark : Delimiter → Char
  | insert => '+'
  | superscript => '^'
  | subscript => '~'

def opening : Delimiter → String
  | insert => "<ins>+"
  | superscript => "<sup>"
  | subscript => "<sub>"

def closing : Delimiter → String
  | insert => "+</ins>"
  | superscript => "</sup>"
  | subscript => "</sub>"

def rewrite (d : Delimiter) : Rewrite := ⟨.anywhere, shortSpan d.mark (between d.opening d.closing)⟩

def position : Delimiter → Nat
  | insert => 3
  | superscript => 4
  | subscript => 5

def marks : Delimiter → String
  | insert => "+\n"
  | superscript => "^\n"
  | subscript => "~\n"

theorem marked_apply (d : Delimiter) {l : Text} (hl : Marked d.marks l) : Marked d.marks (d.rewrite.apply l) := by
  have hwritten : Marked d.marks (d.opening ++ d.closing).toList := by cases d <;> decide
  have hrespells : d.rewrite.pattern.Respells (Swaps (String.singleton d.mark) (d.opening ++ d.closing)) := by
    refine shortSpan_respells (by simp) (by simp) ?_ ?_
    · cases d <;> decide
    · cases d <;> decide
  exact hl.apply hrespells hwritten

theorem inlineStyles_eq (d : Delimiter) {l : Text} (hl : Marked d.marks l) :
    inlineStyles l = Rewrite.apply ⟨.textStart, blockquote⟩ (d.rewrite.apply l) := by
  refine inlineStyles_of_marked (i := d.position) ?_ hl (d.marked_apply hl) ?_ ?_
  · cases d <;> rfl
  · cases d <;> decide
  · cases d <;> decide

end Delimiter

structure DelimitedLine where
  delimiter : Delimiter
  first : Text
  rest : List Text
  first_plain : Marked "\n" first
  rest_plain : ∀ s ∈ rest, Marked "\n" s

namespace DelimitedLine

variable (line : DelimitedLine)

def markup : Text := delimited line.delimiter.mark line.first line.rest

def markdown : Text :=
  paired line.delimiter.mark (between line.delimiter.opening line.delimiter.closing) line.first line.rest

theorem mark_not_mem {s : Text} (hs : Marked "\n" s) : line.delimiter.mark ∉ s :=
  hs.not_mem (by cases line.delimiter <;> decide)

theorem apply_markup : line.delimiter.rewrite.apply line.markup = line.markdown :=
  shortSpan_apply_delimited (line.mark_not_mem line.first_plain) fun s hs => line.mark_not_mem (line.rest_plain s hs)

theorem marked_markup : Marked line.delimiter.marks line.markup := by
  have hplain : "\n".toList ⊆ line.delimiter.marks.toList := by cases line.delimiter <;> decide
  have hmark : Marked line.delimiter.marks [line.delimiter.mark] := by cases line.delimiter <;> decide
  exact (line.first_plain.mono hplain).append (.flatMap fun s hs => hmark.append ((line.rest_plain s hs).mono hplain))

theorem not_quote (h : ¬ "bq.".toList <+: line.markup) : ¬ "bq.".toList <+: line.markdown := by
  have hmark : line.delimiter.mark ∉ "bq.".toList := by cases line.delimiter <;> decide
  obtain ⟨tag, htag⟩ : ∃ tag, line.delimiter.opening.toList = '<' :: tag := by
    cases line.delimiter <;> exact ⟨_, rfl⟩
  rw [markup] at h
  rw [markdown]
  generalize line.rest = rest at h ⊢
  rcases rest with _ | ⟨span, _ | ⟨gap, rest⟩⟩
  · simpa [delimited, paired] using h
  · simpa [delimited, paired] using h
  · rw [delimited_cons] at h
    rw [paired, between, htag]
    exact not_quote_of_append hmark (by decide) h

theorem inlineStyles_markup : inlineStyles line.markup = Rewrite.apply ⟨.textStart, blockquote⟩ line.markdown := by
  rw [line.delimiter.inlineStyles_eq line.marked_markup, line.apply_markup]

end DelimitedLine

/-! ## Lines with monospace spans -/

theorem monospace_apply_spans {first : Text} {spans : List (Text × Text)} (hfirst : '{' ∉ first)
    (hspans : ∀ p ∈ spans, p.1 ≠ [] ∧ '}' ∉ p.1 ∧ '{' ∉ p.2) :
    Rewrite.apply ⟨.anywhere, monospace⟩ (first ++ spans.flatMap fun p => between "\x7b\x7b" "\x7d\x7d" p.1 ++ p.2) =
      first ++ spans.flatMap fun p => between "`" "`" p.1 ++ p.2 := by
  have hopening : ("\x7b\x7b" : String).toList = '{' :: ['{'] := rfl
  have hcopy {s : Text} (hs : '{' ∉ s) (t : Text) := Pattern.Opens.apply_append
    (r := ⟨.anywhere, monospace⟩) monospace_opens rfl hopening hs t
  induction spans generalizing first with
  | nil => exact hcopy hfirst []
  | cons p spans ih =>
    rw [List.forall_mem_cons] at hspans
    obtain ⟨⟨hne, hspan, hgap⟩, hspans⟩ := hspans
    have hused : between "\x7b\x7b" "\x7d\x7d" p.1 ≠ [] := by simp [between]
    have hhit (t : Text) := Rewrite.apply_hit (r := ⟨.anywhere, monospace⟩) rfl hused (monospace_span hne hspan t)
    rw [List.flatMap_cons, List.flatMap_cons, hcopy hfirst, List.append_assoc, hhit, ih hgap hspans,
      List.append_assoc]

structure MonospaceLine where
  first : Text
  spans : List (Text × Text)
  first_plain : Marked "\n" first
  span_plain : ∀ p ∈ spans, p.1 ≠ [] ∧ Marked "\n" p.1 ∧ Marked "\n" p.2

namespace MonospaceLine

variable (line : MonospaceLine)

def markup : Text := line.first ++ line.spans.flatMap fun p => between "\x7b\x7b" "\x7d\x7d" p.1 ++ p.2

def markdown : Text := line.first ++ line.spans.flatMap fun p => between "`" "`" p.1 ++ p.2

theorem apply_markup : Rewrite.apply ⟨.anywhere, monospace⟩ line.markup = line.markdown :=
  monospace_apply_spans line.first_plain.not_mem fun p hp =>
    ⟨(line.span_plain p hp).1, (line.span_plain p hp).2.1.not_mem, (line.span_plain p hp).2.2.not_mem⟩

theorem marked_markup : Marked "\x7b\x7d\n" line.markup := by
  refine line.first_plain.mono.append (.flatMap fun p hp => ?_)
  obtain ⟨-, hspan, hgap⟩ := line.span_plain p hp
  have hopening : Marked "\x7b\x7d\n" "\x7b\x7b".toList := by decide
  have hclosing : Marked "\x7b\x7d\n" "\x7d\x7d".toList := by decide
  exact ((hopening.append hspan.mono).append hclosing).append hgap.mono

theorem marked_markdown : Marked "\n" line.markdown := by
  refine line.first_plain.append (.flatMap fun p hp => ?_)
  obtain ⟨-, hspan, hgap⟩ := line.span_plain p hp
  have hmark : Marked "\n" "`".toList := by decide
  exact ((hmark.append hspan).append hmark).append hgap

theorem not_quote (h : ¬ "bq.".toList <+: line.markup) : ¬ "bq.".toList <+: line.markdown := by
  rw [markup] at h
  rw [markdown]
  generalize line.spans = spans at h ⊢
  cases spans with
  | nil => exact h
  | cons p spans => exact not_quote_of_append (c := '{') (by decide) (by decide) h

theorem inlineStyles_markup : inlineStyles line.markup = Rewrite.apply ⟨.textStart, blockquote⟩ line.markdown := by
  have happly := line.apply_markup
  have hstyles := inlineStyles_of_marked (i := 2) rfl line.marked_markup (happly.symm ▸ line.marked_markdown)
    (by decide) (by decide)
  rw [hstyles, happly]

end MonospaceLine

/-- Delimiters pair up from the left, and every monospace span is rewritten on its own. -/
theorem inlineStyles_delimited :
    (∀ line : DelimitedLine, ¬ "bq.".toList <+: line.markup → inlineStyles line.markup = line.markdown) ∧
      ∀ line : MonospaceLine,
        inlineStyles line.markup = Rewrite.apply ⟨.textStart, blockquote⟩ line.markdown ∧
          (¬ "bq.".toList <+: line.markup → inlineStyles line.markup = line.markdown) := by
  refine ⟨fun line h => ?_, fun line => ⟨line.inlineStyles_markup, fun h => ?_⟩⟩
  · rw [line.inlineStyles_markup, blockquote_apply_eq_self (line.not_quote h)]
  · rw [line.inlineStyles_markup, blockquote_apply_eq_self (line.not_quote h)]

theorem inlineStyles_delimited_odd :
    let line : DelimitedLine := ⟨.insert, "a".toList, ["b".toList, [], "c d".toList], by decide, by decide⟩
    let spans : MonospaceLine := ⟨"bq".toList, [("a b".toList, []), ("c".toList, " d".toList)], by decide, by decide⟩
    (¬ "bq.".toList <+: line.markup ∧ inlineStyles "a+b++c d".toList = "a<ins>+b+</ins>+c d".toList) ∧
      ¬ "bq.".toList <+: spans.markup ∧
      inlineStyles "bq\x7b\x7ba b\x7d\x7d\x7b\x7bc\x7d\x7d d".toList = "bq`a b``c` d".toList := by
  intro line spans
  have hmarkup : line.markup = "a+b++c d".toList := by decide
  have hmarkdown : line.markdown = "a<ins>+b+</ins>+c d".toList := by decide
  have hquote : ¬ "bq.".toList <+: line.markup := by decide
  have hspans : ¬ "bq.".toList <+: spans.markup := by decide
  refine ⟨⟨hquote, ?_⟩, hspans, (inlineStyles_delimited.2 spans).2 hspans⟩
  rw [← hmarkup, ← hmarkdown]
  exact inlineStyles_delimited.1 line hquote

end JiraMarkup
