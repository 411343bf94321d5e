import JiraMarkup.Proofs.SpanLines

/-!
# Several spans on a line

On a line of words and spans of one style a single span is rewritten as such.
Of several the first one does not end where it should: the styles of long spans
and links reach to the last closing mark of the line, struck text to the closing
dash of the next span.
-/

namespace JiraMarkup

/-! ## Spans that reach to the last mark -/

namespace SpanStyle

def opening : SpanStyle → Text → Text → Text
  | bold, w, _ => '*' :: w
  | italic, w, _ => '_' :: w
  | strikethrough, w, _ => '-' :: w
  | image, w, _ => '!' :: w
  | unnamedLink, w, _ => '[' :: w
  | namedLink, w, u => '[' :: w ++ '|' :: u
  | color, w, u => between "\x7bcolor:" "\x7d" u ++ w

def closing : SpanStyle → Text
  | bold => ['*']
  | italic => ['_']
  | strikethrough => ['-']
  | image => ['!']
  | unnamedLink => [']']
  | namedLink => [']']
  | color => '{' :: "color\x7d".toList

def openingMarkdown : SpanStyle → Text → Text → Text
  | bold, w, _ => '*' :: '*' :: w
  | italic, w, _ => '*' :: w
  | strikethrough, w, _ => '~' :: '~' :: w
  | image, w, _ => '!' :: '[' :: ']' :: '(' :: w
  | unnamedLink, w, _ => '<' :: w
  | namedLink, w, u => '[' :: w ++ ']' :: '(' :: u
  | color, w, _ => w

def closingMarkdown : SpanStyle → Text
  | bold => ['*', '*']
  | italic => ['*']
  | strikethrough => ['~', '~']
  | image => [')']
  | unnamedLink => ['>']
  | namedLink => [')']
  | color => []

theorem markup_eq (s : SpanStyle) (w u : Text) : s.markup w u = s.opening w u ++ s.closing := by
  cases s with
  | namedLink =>
    have h : ('[' :: w ++ ['|']) ++ (u ++ [']']) = ('[' :: w ++ '|' :: u) ++ [']'] := by simp
    exact h
  | color => exact (List.append_assoc _ w _).symm
  | _ => rfl

theorem markdown_eq (s : SpanStyle) (w u : Text) :
    s.markdown w u = s.openingMarkdown w u ++ s.closingMarkdown := by
  cases s with
  | namedLink => simp [markdown, openingMarkdown, closingMarkdown, between]
  | color => exact (List.append_nil w).symm
  | _ => rfl

theorem closing_ne (s : SpanStyle) (x y : Text) :
    s.closing ++ ' ' :: x ≠ s.closingMarkdown ++ ' ' :: y := by
  cases s <;> simp [closing, closingMarkdown]

theorem longSpan_word {mark : Char} {starts : Char → Bool} {wrap : Text → Text} {w : Word} {mid post : Text}
    (hstarts : ∀ c, isLetter c = true → starts c = true) (hmark : mark ≠ '\n') (hmid : '\n' ∉ mid)
    (hpost : mark ∉ post) :
    longSpan mark starts wrap (mark :: w.text ++ mid ++ [mark] ++ post) = some ⟨wrap (w.text ++ mid), post⟩ := by
  obtain ⟨c, w', hw, hc⟩ := w.exists_cons
  have hrest : '\n' ∉ w' ++ mid := by
    have hnewline := w.not_mem (c := '\n')
    have hw' : '\n' ∉ w' := fun hm => hnewline (hw ▸ List.mem_cons_of_mem c hm)
    simp [hw', hmid]
  have h : longSpan mark starts wrap _ = _ := longSpan_span (hstarts c hc) hmark hrest hpost
  simpa [hw] using h

theorem notBlank_of_isLetter (c : Char) (h : isLetter c = true) : (!isBlank c) = true := by
  rw [isBlank_of_isLetter h]
  rfl

theorem notLineEnd_of_isLetter (c : Char) (h : isLetter c = true) : (!isLineEnd c) = true := by
  have hc : c ≠ '\n' := fun he => absurd (he ▸ h) (by decide)
  simp [isLineEnd, hc]

/-- All but struck text end at the last closing mark of the line, whatever stands in between. -/
theorem pattern_span {s : SpanStyle} (hs : s ≠ strikethrough) (w u : Word) {mid post : Text}
    (hmid : Lettered s.marks mid) (hpost : Lettered " " post) :
    s.pattern (s.opening w.text u.text ++ mid ++ s.closing ++ post) =
      some ⟨s.openingMarkdown w.text u.text ++ mid ++ s.closingMarkdown, post⟩ := by
  have hnewline : '\n' ∉ mid := hmid.not_mem (by cases s <;> decide)
  cases s with
  | bold =>
    have hstar : '*' ∉ post := hpost.not_mem
    have h : JiraMarkup.bold _ = _ := longSpan_word (w := w) notBlank_of_isLetter (by decide) hnewline hstar
    simpa [pattern, opening, closing, openingMarkdown, closingMarkdown, between] using h
  | italic =>
    have hmark : '_' ∉ post := hpost.not_mem
    have h : JiraMarkup.italic _ = _ := longSpan_word (w := w) notBlank_of_isLetter (by decide) hnewline hmark
    simpa [pattern, opening, closing, openingMarkdown, closingMarkdown, between] using h
  | strikethrough => exact absurd rfl hs
  | image =>
    have hmark : '!' ∉ post := hpost.not_mem
    have h : JiraMarkup.image _ = _ := longSpan_word (w := w) notLineEnd_of_isLetter (by decide) hnewline hmark
    simpa [pattern, opening, closing, openingMarkdown, closingMarkdown, between] using h
  | unnamedLink =>
    obtain ⟨c, w', hw, -⟩ := w.exists_cons
    have hw' := w.not_mem (c := '|')
    rw [hw, List.mem_cons, not_or] at hw'
    have hbar : '|' ∉ w' ++ mid := List.mem_append.not.mpr (not_or.mpr ⟨hw'.2, hmid.not_mem⟩)
    have hbracket : ']' ∉ post := hpost.not_mem
    have h : JiraMarkup.unnamedLink _ = _ := unnamedLink_span (Ne.symm hw'.1) hbar hbracket
    simpa [pattern, opening, closing, openingMarkdown, closingMarkdown, between, hw] using h
  | namedLink =>
    obtain ⟨c, w', hw, -⟩ := w.exists_cons
    obtain ⟨d, u', hu, -⟩ := u.exists_cons
    have hbar := w.not_mem (c := '|')
    have hw' := w.not_mem (c := '\n')
    have hu' := u.not_mem (c := '\n')
    rw [hw, List.mem_cons, not_or] at hbar hw'
    rw [hu, List.mem_cons, not_or] at hu'
    have htarget : '\n' ∉ u' ++ mid := List.mem_append.not.mpr (not_or.mpr ⟨hu'.2, hnewline⟩)
    have hbracket : ']' ∉ post := hpost.not_mem
    have h : JiraMarkup.namedLink _ = _ :=
      namedLink_span (Ne.symm hw'.1) (Ne.symm hu'.1) hbar.2 hw'.2 htarget hbracket
    simpa [pattern, opening, closing, openingMarkdown, closingMarkdown, between, hw, hu] using h
  | color =>
    obtain ⟨d, u', hu, -⟩ := u.exists_cons
    have hname : u.text ≠ [] := by simp [hu]
    have hspan : '\n' ∉ w.text ++ mid :=
      List.mem_append.not.mpr (not_or.mpr ⟨w.not_mem, hnewline⟩)
    have hbrace : '{' ∉ post := hpost.not_mem
    have h : JiraMarkup.color _ = _ := color_span hname u.not_mem hspan hbrace
    simpa [pattern, opening, closing, openingMarkdown, closingMarkdown, between] using h

theorem exists_opens (s : SpanStyle) (hs : s ≠ strikethrough) : ∃ (mark : String × String) (c : Char) (o : Text),
    s.pattern.Opens mark ∧ mark.1.toList = c :: o ∧ isLetter c = false ∧ c ≠ ' ' := by
  cases s with
  | bold => exact ⟨("*", "*"), '*', [], longSpan_opens rfl _ _, rfl, rfl, by decide⟩
  | italic => exact ⟨("_", "_"), '_', [], longSpan_opens rfl _ _, rfl, rfl, by decide⟩
  | strikethrough => exact absurd rfl hs
  | image => exact ⟨("!", "!"), '!', [], longSpan_opens rfl _ _, rfl, rfl, by decide⟩
  | unnamedLink => exact ⟨_, '[', [], unnamedLink_opens, rfl, rfl, by decide⟩
  | namedLink => exact ⟨_, '[', [], namedLink_opens, rfl, rfl, by decide⟩
  | color => exact ⟨_, '{', "color:".toList, color_opens, rfl, rfl, by decide⟩

theorem apply_words (s : SpanStyle) {l : Text} (hl : Lettered " " l) : s.rewrite.apply l = l := by
  by_cases hs : s = strikethrough
  · subst hs
    exact Pattern.Opens.apply_eq_self strikethrough_opens (hl.not_hasMarks ⟨'-', by decide⟩)
  · obtain ⟨mark, c, o, hopens, ho, hletter, hspace⟩ := s.exists_opens hs
    have hc : c ∈ (mark.1 ++ mark.2).toList := by simp [ho]
    exact Pattern.Opens.apply_eq_self hopens (hl.not_hasMarks ⟨c, hc, hletter, by simpa using hspace⟩)

theorem apply_span {s : SpanStyle} (hs : s ≠ strikethrough) (w u : Word) {pre mid post : Text}
    (hpre : Lettered " " pre) (hmid : Lettered s.marks mid) (hpost : Lettered " " post) :
    s.rewrite.apply (pre ++ (s.opening w.text u.text ++ mid ++ s.closing ++ post)) =
      pre ++ (s.openingMarkdown w.text u.text ++ mid ++ s.closingMarkdown ++ post) := by
  obtain ⟨mark, c, o, hopens, ho, hletter, hspace⟩ := s.exists_opens hs
  have hc : c ∉ pre := hpre.not_mem ⟨hletter, by simpa using hspace⟩
  have hne : s.opening w.text u.text ++ mid ++ s.closing ≠ [] := by
    cases s <;> simp [closing]
  have hmatch : s.rewrite.pattern _ = _ := pattern_span hs w u hmid hpost
  exact Rewrite.apply_once rfl (fun u hu hs => (hopens.beginsWith ho).passes hc u hu hs _) hne hmatch
    (s.apply_words hpost)

/-! ## Struck text -/

theorem strikethrough_eq_none {c : Char} {t : Text} (h : isBlank c = false) :
    JiraMarkup.strikethrough (c :: t) = none := by
  simp [JiraMarkup.strikethrough, h]

theorem strikethrough_space_eq_none {c : Char} {t : Text} (h : isLetter c = true) :
    JiraMarkup.strikethrough (' ' :: c :: t) = none := by
  have hdash : after? "-" ((' ' :: c :: t).dropWhile isBlank) = none := by
    have hdrop : (' ' :: c :: t).dropWhile isBlank = c :: t := by
      simp [isBlank_of_isLetter h, show isBlank ' ' = true from rfl]
    rw [hdrop, after?_eq_none_iff]
    intro hp
    rw [← (List.cons_prefix_cons.mp hp).1] at h
    cases h
  simp [JiraMarkup.strikethrough, hdash]

theorem apply_strikethrough_append {pre : Text} (hl : Lettered " " pre)
    (hspaces : Leads ' ' StartsLetter pre) (t : Text) :
    strikethrough.rewrite.apply (pre ++ t) = pre ++ strikethrough.rewrite.apply t := by
  refine Rewrite.apply_append rfl fun u hne hu => ?_
  obtain ⟨c, u, rfl⟩ := List.exists_cons_of_ne_nil hne
  rcases hl c (hu.subset List.mem_cons_self) with hc | hc
  · exact strikethrough_eq_none (isBlank_of_isLetter hc)
  · obtain rfl : c = ' ' := by simpa using hc
    obtain ⟨d, v, rfl, hd⟩ := hspaces u hu
    exact strikethrough_space_eq_none hd

theorem apply_strikethrough_word (w : Word) {t : Text} (ht : '-' ∉ t) :
    strikethrough.rewrite.apply (' ' :: '-' :: (w.text ++ '-' :: ' ' :: t)) =
      ' ' :: (between "~~" "~~" w.text ++ ' ' :: t) := by
  have hdash : '-' ∉ ' ' :: t := by simpa using ht
  have hend : struckEnd? (' ' :: t) = none := by
    rw [Option.eq_none_iff_forall_ne_some]
    rintro ⟨more, rest⟩ h
    exact hdash (struckEnd?_eq_some h ▸ List.mem_append_right more List.mem_cons_self)
  have hstruck := struck?_word (t := t) (fun c hc => isBlank_of_isLetter (w.letters c hc)) w.two_le_length
    (show isBlank ' ' = true from rfl)
  rw [hend] at hstruck
  have hrest : strikethrough.rewrite.apply ((' ' :: t).dropWhile isBlank) = (' ' :: t).dropWhile isBlank := by
    refine Pattern.Opens.apply_eq_self strikethrough_opens fun h => hdash ?_
    exact (List.dropWhile_suffix isBlank).subset (h.2.subset (by decide))
  have happly : strikethrough.rewrite.apply _ = _ :=
    Rewrite.apply_of_some rfl strikethrough_respells.consumes (strikethrough_of_struck hstruck)
  rw [happly, hrest, List.append_assoc, List.takeWhile_append_dropWhile]
  rfl

theorem apply_strikethrough_reaches (w : Word) {t : Text} (h : (struckEnd? (' ' :: t)).isSome = true) :
    ∃ x, strikethrough.rewrite.apply (' ' :: '-' :: (w.text ++ '-' :: ' ' :: t)) =
      ' ' :: '~' :: '~' :: (w.text ++ '-' :: ' ' :: x) := by
  obtain ⟨⟨more, rest⟩, hend⟩ := Option.isSome_iff_exists.mp h
  have hstruck := struck?_word (t := t) (fun c hc => isBlank_of_isLetter (w.letters c hc)) w.two_le_length
    (show isBlank ' ' = true from rfl)
  rw [hend] at hstruck
  have happly : strikethrough.rewrite.apply _ = _ :=
    Rewrite.apply_of_some rfl strikethrough_respells.consumes (strikethrough_of_struck hstruck)
  have hmore := struckEnd?_eq_some hend
  cases more with
  | nil => cases hmore
  | cons c more =>
    obtain ⟨rfl, -⟩ := List.cons.inj hmore
    rw [happly]
    simp [between]

end SpanStyle

/-! ## Lines around their spans -/

theorem exists_first_span {ts : List Token} (h : ts.countP Token.isSpan ≠ 0) :
    ∃ pre w u post, ts = pre ++ .span w u :: post ∧ pre.countP Token.isSpan = 0 := by
  induction ts with
  | nil => exact absurd rfl h
  | cons t ts ih =>
    cases t with
    | word w =>
      obtain ⟨pre, v, u, post, rfl, hpre⟩ := ih (by simpa [List.countP_cons, Token.isSpan] using h)
      exact ⟨.word w :: pre, v, u, post, rfl, by simp [Token.isSpan, hpre]⟩
    | span w u => exact ⟨[], w, u, ts, rfl, rfl⟩

theorem exists_last_span {ts : List Token} (h : ts.countP Token.isSpan ≠ 0) :
    ∃ pre w u post, ts = pre ++ .span w u :: post ∧ post.countP Token.isSpan = 0 := by
  induction ts with
  | nil => exact absurd rfl h
  | cons t ts ih =>
    by_cases hts : ts.countP Token.isSpan = 0
    · cases t with
      | word w => exact absurd (by simpa [List.countP_cons, Token.isSpan] using hts) h
      | span w u => exact ⟨[], w, u, ts, rfl, hts⟩
    · obtain ⟨pre, w, u, post, rfl, hpost⟩ := ih hts
      exact ⟨t :: pre, w, u, post, rfl, hpost⟩

theorem spaced_words (s : SpanStyle) {ts : List Token} (h : ts.countP Token.isSpan = 0) :
    spaced (Token.markup s) ts = spaced (Token.markdown s) ts := by
  induction ts with
  | nil => rfl
  | cons t ts ih =>
    cases t with
    | word w =>
      have hts : ts.countP Token.isSpan = 0 := by simpa [Token.isSpan] using h
      rw [spaced_cons, spaced_cons, ih hts]
      rfl
    | span w u => simp [Token.isSpan] at h

section
variable (s : SpanStyle) {ts : List Token} (h : ts.countP Token.isSpan = 0)
include h

theorem lettered_words : Lettered " " (spaced (Token.markdown s) ts) := by
  refine spaced_induction .nil (fun _ _ h h' => h.append h') fun t ht => .cons (by simp) ?_
  cases t with
  | word w => exact w.lettered " "
  | span w u => exact absurd rfl (List.countP_eq_zero.mp h _ ht)

theorem lettered_front (first : Word) : Lettered " " (first.text ++ spaced (Token.markdown s) ts) :=
  (first.lettered " ").append (lettered_words s h)

theorem leads_front (first : Word) : Leads ' ' StartsLetter (first.text ++ spaced (Token.markdown s) ts) := by
  have hword : ∀ w : Word, Leads ' ' StartsLetter w.text := fun w => .of_not_mem w.not_mem
  refine (hword first).append_starts (spaced_induction (.of_not_mem List.not_mem_nil) ?_ fun t ht => ?_)
  · intro s t hs ht
    exact hs.append_starts ht
  · cases t with
    | word w => exact Leads.cons_iff.mpr ⟨fun _ => w.exists_cons, hword w⟩
    | span w u => exact absurd rfl (List.countP_eq_zero.mp h _ ht)

end

theorem spaced_eq_cons (spell : Token → Text) {ts : List Token} (h : ts ≠ []) :
    ∃ x, spaced spell ts = ' ' :: x := by
  cases ts with
  | nil => exact absurd rfl h
  | cons t ts => exact ⟨_, spaced_cons spell t ts⟩

theorem struckEnd?_spaced (mid : List Token) (w u : Word) {back : List Token} (hback : back ≠ []) :
    (struckEnd? (spaced (Token.markup .strikethrough) (mid ++ .span w u :: back))).isSome = true := by
  obtain ⟨z, hz⟩ := spaced_eq_cons (Token.markup .strikethrough) hback
  obtain ⟨v, c, hw⟩ : ∃ v c, w.text = v ++ [c] := by
    obtain ⟨c, v, hw, -⟩ := w.exists_cons
    have hne : w.text ≠ [] := by simp [hw]
    exact ⟨_, _, (List.dropLast_concat_getLast hne).symm⟩
  have hc : isBlank c = false := isBlank_of_isLetter (w.letters c (by simp [hw]))
  have hline : '\n' ∉ spaced (Token.markup .strikethrough) mid ++ ' ' :: '-' :: v := by
    have hmid := (SpanStyle.strikethrough.lettered_spaced mid).not_mem (c := '\n')
    have hv := w.not_mem (c := '\n')
    rw [hw] at hv
    simp only [List.mem_append, List.mem_cons, not_or] at hv ⊢
    exact ⟨hmid, by decide, by decide, hv.1⟩
  have h := struckEnd?_isSome (t := z) hline hc (show isBlank ' ' = true from rfl)
  rw [spaced_append, spaced_cons, hz]
  simpa [Token.markup, SpanStyle.markup, between, hw] using h

namespace SpanStyle

variable (s : SpanStyle) (first w u : Word)

theorem spaced_last_span (mid back : List Token) :
    ∃ x, Lettered s.marks x ∧ spaced (Token.markup s) (mid ++ .span w u :: back) =
      ' ' :: x ++ s.closing ++ spaced (Token.markup s) back := by
  have hspan := s.markup_eq w.text u.text ▸ s.lettered_markup w u
  have hopening : Lettered s.marks (s.opening w.text u.text) := hspan.subset (List.subset_append_left _ _)
  rw [spaced_append, spaced_cons]
  cases mid with
  | nil => exact ⟨s.opening w.text u.text, hopening, by simp [spaced, Token.markup, markup_eq]⟩
  | cons t mid =>
    have hline := (s.lettered_spaced (t :: mid)).append (hopening.cons s.space_mem_marks)
    rw [spaced_cons] at hline ⊢
    refine ⟨_, hline.subset (List.subset_cons_self ' ' _), ?_⟩
    simp [Token.markup, markup_eq]

variable {pre post : List Token} (hpre : pre.countP Token.isSpan = 0) (hne : post ≠ [])
include hpre hne

theorem apply_sole (hpost : post.countP Token.isSpan = 0) :
    s.rewrite.apply (first.text ++ spaced (Token.markup s) (pre ++ .span w u :: post)) =
      first.text ++ spaced (Token.markdown s) (pre ++ .span w u :: post) := by
  have hfront := lettered_front s hpre first
  have hback := lettered_words s hpost
  rw [spaced_append, spaced_append, spaced_cons, spaced_cons, spaced_words s hpre, spaced_words s hpost]
  by_cases hs : s = strikethrough
  · subst hs
    obtain ⟨x, hx⟩ := spaced_eq_cons (Token.markdown strikethrough) hne
    have hdash : '-' ∉ x := (hback.subset (hx ▸ List.subset_cons_self ' ' x)).not_mem
    have h := apply_strikethrough_append hfront (leads_front _ hpre first)
      (' ' :: '-' :: (w.text ++ '-' :: ' ' :: x))
    rw [apply_strikethrough_word w hdash] at h
    rw [hx]
    simpa [Token.markup, Token.markdown, markup, markdown, between] using h
  · have h := apply_span hs w u (hfront.append (.of_subset (l := [' ']) (by simp))) .nil hback
    simpa [Token.markup, Token.markdown, markup_eq, markdown_eq] using h

theorem apply_several (hpost : post.countP Token.isSpan ≠ 0)
    (hlast : ∀ t ∈ post.getLast?, t.isSpan = false) :
    ∃ x, s.rewrite.apply (first.text ++ spaced (Token.markup s) (pre ++ .span w u :: post)) =
      first.text ++ spaced (Token.markdown s) pre ++
        ' ' :: (s.openingMarkdown w.text u.text ++ s.closing ++ ' ' :: x) := by
  have hfront := lettered_front s hpre first
  obtain ⟨mid, v, v', back, rfl, hback⟩ := exists_last_span hpost
  rw [spaced_append, spaced_cons, spaced_words s hpre]
  by_cases hs : s = strikethrough
  · subst hs
    have hback' : back ≠ [] := by
      intro he
      have hspan := hlast (.span v v') (by simp [he])
      cases hspan
    obtain ⟨y, hy⟩ := spaced_eq_cons (Token.markup strikethrough) hne
    obtain ⟨x, hx⟩ := apply_strikethrough_reaches w (hy ▸ struckEnd?_spaced mid v v' hback')
    have h := apply_strikethrough_append hfront (leads_front _ hpre first)
      (' ' :: '-' :: (w.text ++ '-' :: ' ' :: y))
    rw [hx] at h
    refine ⟨x, ?_⟩
    rw [hy]
    simpa [Token.markup, markup, between, openingMarkdown, closing] using h
  · obtain ⟨x, hx, hline⟩ := s.spaced_last_span v v' mid back
    have hspan := s.markup_eq w.text u.text ▸ s.lettered_markup w u
    have hclosing : Lettered s.marks s.closing := hspan.subset (List.subset_append_right _ _)
    have h := apply_span hs w u (hfront.append (.of_subset (l := [' ']) (by simp)))
      (hclosing.append (hx.cons s.space_mem_marks)) (lettered_words s hback)
    refine ⟨x ++ (s.closingMarkdown ++ spaced (Token.markdown s) back), ?_⟩
    rw [hline, spaced_words s hback]
    simpa [Token.markup, markup_eq] using h

end SpanStyle

/-- A line is rewritten span by span exactly if it has one at most. -/
theorem inlineStyles_markup_eq_markdown_iff (s : SpanStyle) (line : SpanLine) :
    inlineStyles (line.markup s) = line.markdown s ↔ line.spanCount ≤ 1 := by
  rw [s.inlineStyles_line line]
  obtain ⟨first, rest, hlast⟩ := line
  simp only [SpanLine.markup, SpanLine.markdown, SpanLine.spanCount]
  by_cases hnone : rest.countP Token.isSpan = 0
  · rw [spaced_words s hnone, s.apply_words (lettered_front s hnone first), hnone]
    simp
  · obtain ⟨pre, w, u, post, rfl, hpre⟩ := exists_first_span hnone
    have hne : post ≠ [] := by
      intro he
      have hspan := hlast (.span w u) (by simp [he])
      cases hspan
    rw [List.countP_append, hpre, Nat.zero_add, List.countP_cons_of_pos rfl]
    by_cases hpost : post.countP Token.isSpan = 0
    · rw [s.apply_sole first w u hpre hne hpost, hpost]
      simp
    · have hlast' : ∀ t ∈ post.getLast?, t.isSpan = false := by
        intro t ht
        have hlast? : post.getLast? = some t := ht
        exact hlast t (by simp [List.getLast?_append, List.getLast?_cons, hlast?])
      -- The two lines part where the closing mark of the first span is still there.
      obtain ⟨x, hx⟩ := s.apply_several first w u hpre hne hpost hlast'
      obtain ⟨y, hy⟩ := spaced_eq_cons (Token.markdown s) hne
      rw [hx, spaced_append, spaced_cons, hy]
      simp only [Token.markdown, SpanStyle.markdown_eq, List.append_assoc, List.append_cancel_left_eq,
        List.cons.injEq, true_and]
      constructor
      · intro h
        exact absurd h (s.closing_ne x y)
      · intro h
        omega

theorem not_inlineStyles_markup_eq_markdown :
    ¬ ∀ (s : SpanStyle) (line : SpanLine), inlineStyles (line.markup s) = line.markdown s := by
  intro h
  let w : Word := ⟨"ab".toList, by decide, by decide⟩
  let line : SpanLine := ⟨w, [.span w w, .word w, .span w w, .word w], by simp [Token.isSpan]⟩
  have hgreedy : inlineStyles (line.markup .bold) = "ab **ab* ab *ab** ab".toList := by decide +kernel
  have hstyled : line.markdown .bold = "ab **ab** ab **ab** ab".toList := rfl
  exact absurd (h .bold line) (by rw [hgreedy, hstyled]; decide)

end JiraMarkup
