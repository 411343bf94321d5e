import JiraMarkup.Proofs.StyledLines
import Mathlib.Data.List.DropRight
import Mathlib.Data.List.Nodup

/-!
# Different styles on a line

Spans of different styles do not disturb each other. Each style finds its own
span and passes over what the styles before it have written and what those
behind it have yet to read. So a line is followed through the chain, one style
after another.
-/

namespace JiraMarkup

/-! ## Passing over spans of other styles -/

section
variable {w u : Text} (hw : Unmarked w) (hu : Unmarked u)
include hw hu

theorem Pattern.Opens.passes_color {p : Pattern} {mark : String × String} (h : p.Opens mark) {d : Char}
    {o : Text} (ho : mark.1.toList = '{' :: d :: o) (hd : d ≠ 'c') :
    p.Passes (SpanKind.color.markup w u) := by
  have htag : ∀ t v, p ('{' :: 'c' :: t ++ v) = none := by
    intro t v
    rw [Option.eq_none_iff_forall_ne_some]
    intro m hm
    have hp := (h _ m hm).1
    rw [ho, List.cons_append, List.cons_append, List.cons_prefix_cons, List.cons_prefix_cons] at hp
    exact hd hp.2.1
  have hbegins := h.beginsWith ho
  have hopening : p.Passes ('{' :: ("color:".toList ++ u ++ "\x7d".toList ++ w)) := by
    have hu' : '{' ∉ u := hu.not_mem
    have hw' : '{' ∉ w := hw.not_mem
    exact .cons (htag _) (hbegins.passes (by simp [hu', hw']))
  have hclosing : p.Passes ('{' :: "color\x7d".toList) := .cons (htag _) (hbegins.passes (by decide))
  have hsplit : SpanKind.color.markup w u =
      '{' :: ("color:".toList ++ u ++ "\x7d".toList ++ w) ++ '{' :: "color\x7d".toList := by
    simp [SpanKind.markup, between]
  rw [hsplit]
  exact hopening.append hclosing

theorem unnamedLink_passes_namedLink : Pattern.Passes unnamedLink (SpanKind.namedLink.markup w u) := by
  have hbegins : Pattern.BeginsWith unnamedLink '[' := unnamedLink_opens.beginsWith rfl
  have hsplit : SpanKind.namedLink.markup w u = '[' :: (w ++ '|' :: (u ++ [']'])) := by
    simp [SpanKind.markup, between]
  have hw' : '[' ∉ w := hw.not_mem
  have hu' : '[' ∉ u := hu.not_mem
  rw [hsplit]
  refine .cons (fun v => ?_) (hbegins.passes (by simp [hw', hu']))
  have h := unnamedLink_eq_none hw.not_mem (u ++ [']'] ++ v)
  simpa using h

end

namespace Beside

variable {n : Nat} {t : Text}

theorem passes_of_opens {p : Pattern} {mark : String × String} (h : p.Opens mark) {c : Char} {o : Text}
    (ho : mark.1.toList = c :: o)
    (hc : c ∈ spanMarks.toList ∧ ∀ k : SpanKind, k.position ≠ n → c ∉ (k.marksAt n).toList)
    (ht : Beside n t) : p.Passes t := (h.beginsWith ho).passes (ht.not_mem hc)

/-- Of the spans that hold the first character of a match, those of one style are looked at in full. -/
theorem passes_of_markup {p : Pattern} {c : Char} (hp : p.BeginsWith c) (hc : c ∈ spanMarks.toList)
    (k : SpanKind) (hk : n ≤ k.position) (hpass : ∀ w u, Unmarked w → Unmarked u → p.Passes (k.markup w u))
    (hmarks : ∀ k' : SpanKind, k'.position ≠ n → k' ≠ k → c ∉ (k'.marksAt n).toList) (ht : Beside n t) :
    p.Passes t := by
  refine ht.passes hp hc fun s hs => ?_
  by_cases hkind : s.kind = k
  · have hmarkup : s.atStage n = k.markup s.text.text s.target.text := by
      simp [Span.atStage, Span.markup, hkind, Nat.not_lt.mpr hk]
    rw [hmarkup]
    exact hpass _ _ s.text.unmarked s.target.unmarked
  · exact hp.passes fun hm => hmarks s.kind hs hkind (s.marked_atStage n c hm hc)

theorem passes_of_brace {p : Pattern} {mark : String × String} (h : p.Opens mark) {d : Char} {o : Text}
    (ho : mark.1.toList = '{' :: d :: o) (hd : d ≠ 'c') (hn : n ≤ 12)
    (hmarks : ∀ k : SpanKind, k.position ≠ n → k ≠ .color → '{' ∉ (k.marksAt n).toList) (ht : Beside n t) :
    p.Passes t :=
  ht.passes_of_markup (h.beginsWith ho) (by decide) .color hn
    (fun _ _ hw hu => h.passes_color hw hu ho hd) hmarks

theorem passes_unnamedLink (ht : Beside 8 t) : Pattern.Passes unnamedLink t :=
  ht.passes_of_markup (unnamedLink_opens.beginsWith rfl) (by decide) .namedLink (by decide)
    (fun _ _ hw hu => unnamedLink_passes_namedLink hw hu) (by decide)

theorem breakLast?_eq_none (ht : Beside 8 t) {v : Text} (hv : breakLast? (· == '|') "]" v = none) :
    breakLast? (· == '|') "]" (t ++ v) = none := by
  induction ht generalizing v with
  | plain h => exact breakLast?_eq_none_append rfl h.not_mem hv
  | @span s hs =>
    by_cases hlink : s.kind = .namedLink
    · have hsplit : s.atStage 8 ++ v = '[' :: s.text.text ++ '|' :: (s.target.text ++ ']' :: v) := by
        simp [Span.atStage, Span.markup, hlink, SpanKind.position, SpanKind.markup, between]
      have htext : ']' ∉ s.text.text := s.text.unmarked.not_mem
      have hbracket : ']' ∉ '[' :: s.text.text := by simp [htext]
      rw [hsplit]
      exact breakLast?_eq_none_append rfl hbracket rfl
    · have hmarks : ∀ k : SpanKind, k.position ≠ 8 → k ≠ .namedLink → ']' ∉ (k.marksAt 8).toList := by decide
      refine breakLast?_eq_none_append rfl (fun hm => ?_) hv
      exact hmarks s.kind hs hlink (s.marked_atStage 8 ']' hm (by decide))
  | append _ _ ih ih' =>
    rw [List.append_assoc]
    exact ih (ih' hv)

end Beside

/-! ## The span of a style -/

theorem SpanText.exists_cons (w : SpanText) : ∃ c t, w.text = c :: t ∧ isBlank c = false := by
  obtain ⟨c, t, h⟩ := List.exists_cons_of_ne_nil w.ne_nil
  exact ⟨c, t, h, w.head_not_blank c (by simp [h])⟩

theorem SpanText.not_mem (w : SpanText) {c : Char} (hc : c ∈ spanMarks.toList := by decide) : c ∉ w.text :=
  w.unmarked.not_mem hc

section
variable (w u : SpanText) {t : Text}

theorem longSpan_spanText {mark : Char} (wrap : Text → Text) (hmark : mark ≠ '\n') (ht : mark ∉ t) :
    longSpan mark (!isBlank ·) wrap (mark :: (w.text ++ mark :: t)) = some ⟨wrap w.text, t⟩ := by
  obtain ⟨c, a, hca, hc⟩ := w.exists_cons
  have hline : '\n' ∉ c :: a := hca ▸ w.not_mem
  rw [List.mem_cons, not_or] at hline
  rw [hca]
  exact longSpan_span (by rw [hc]; rfl) hmark hline.2 ht

theorem unnamedLink_spanText (ht : breakLast? (· == '|') "]" t = none) :
    unnamedLink ('[' :: (w.text ++ ']' :: t)) = some ⟨between "<" ">" w.text, t⟩ := by
  obtain ⟨c, a, hca, -⟩ := w.exists_cons
  have hbar : '|' ∉ c :: a := hca ▸ w.not_mem
  rw [List.mem_cons, not_or] at hbar
  rw [hca]
  exact unnamedLink_span_of_none (Ne.symm hbar.1) hbar.2 ht

theorem namedLink_spanText (ht : ']' ∉ t) : namedLink ('[' :: (w.text ++ '|' :: (u.text ++ ']' :: t))) =
    some ⟨between "[" "]" w.text ++ between "(" ")" u.text, t⟩ := by
  obtain ⟨c, a, hca, -⟩ := w.exists_cons
  obtain ⟨d, b, hdb, -⟩ := u.exists_cons
  have hbar : '|' ∉ c :: a := hca ▸ w.not_mem
  have hname : '\n' ∉ c :: a := hca ▸ w.not_mem
  have htarget : '\n' ∉ d :: b := hdb ▸ u.not_mem
  rw [List.mem_cons, not_or] at hbar hname htarget
  rw [hca, hdb]
  exact namedLink_span (Ne.symm hname.1) (Ne.symm htarget.1) hbar.2 hname.2 htarget.2 ht

end

/-! ## Struck text between blanks -/

theorem strikethrough_apply {a b : Text} (w : SpanText) (hlen : 2 ≤ w.text.length)
    (ha : '-' ∉ a) (hlast : a.getLast? = some ' ') (hb : '-' ∉ b) (hhead : b.head? = some ' ') :
    Rewrite.apply ⟨.anywhere, strikethrough⟩ (a ++ (between "-" "-" w.text ++ b)) =
      a ++ (between "~~" "~~" w.text ++ b) := by
  obtain ⟨b, rfl⟩ := List.head?_eq_some_iff.mp hhead
  let words := a.rdropWhile isBlank
  let blanks := a.rtakeWhile isBlank
  have hsplit : words ++ blanks = a := List.rdropWhile_append_rtakeWhile
  have hwords : ∀ u, u ≠ [] → u <:+ words →
      strikethrough (u ++ (blanks ++ '-' :: (w.text ++ '-' :: ' ' :: b))) = none := by
    intro u hu hs
    have hne : words ≠ [] := hs.ne_nil hu
    refine strikethrough_append_eq_none (fun hm => ha ?_) ⟨u.getLast hu, List.getLast_mem hu, ?_⟩
    · exact hsplit ▸ List.mem_append_left _ (hs.subset hm)
    · have h := List.rdropWhile_last_not isBlank a hne
      rw [hs.getLast hu]
      simpa using h
  have hblanks : blanks ≠ [] := by
    obtain ⟨a', rfl⟩ := List.getLast?_eq_some_iff.mp hlast
    simp [blanks, isBlank]
  have hstruck : struck? (w.text ++ '-' :: ' ' :: b) = some (w.text, ' ' :: b) :=
    struck?_span ⟨w.not_mem, w.not_mem⟩ hlen w.head_not_blank w.last_not_blank (by decide)
      (fun h => hb (List.mem_cons_of_mem _ h))
  have hmatch := strikethrough_of_blanks hblanks (fun c hc => List.mem_rtakeWhile_imp hc) hstruck
  have hrest : Rewrite.apply ⟨.anywhere, strikethrough⟩ ((' ' :: b).dropWhile isBlank) =
      (' ' :: b).dropWhile isBlank := by
    refine strikethrough_opens.apply_eq_self fun h => hb ?_
    exact (List.dropWhile_suffix isBlank).subset (h.2.subset (by decide))
  have htext : a ++ (between "-" "-" w.text ++ ' ' :: b) =
      words ++ (blanks ++ '-' :: (w.text ++ '-' :: ' ' :: b)) := by
    rw [← List.append_assoc words, hsplit]
    simp [between]
  rw [htext, Rewrite.apply_append rfl hwords, Rewrite.apply_of_some rfl strikethrough_respells.consumes hmatch,
    hrest, List.append_assoc, List.takeWhile_append_dropWhile, List.append_assoc, ← List.append_assoc words,
    hsplit]

/-! ## One style of the chain -/

theorem StruckApart.spell_apart {f : Span → Text} {first gap : Text} {front back : List (Span × Text)}
    {s : Span} (h : StruckApart first (front ++ (s, gap) :: back)) (hs : s.kind = .strikethrough) :
    2 ≤ s.text.text.length ∧ (spell f first front).getLast? = some ' ' ∧
      (spell f gap back).head? = some ' ' := by
  induction front generalizing first with
  | nil =>
    obtain ⟨hlen, hlast, hhead⟩ := h.1 hs
    exact ⟨hlen, by simpa [spell] using hlast, by simp [spell, hhead]⟩
  | cons p front ih =>
    obtain ⟨hlen, hlast, hhead⟩ := ih h.2
    have hsplit := spell_append f first [] p.1 p.2 front
    refine ⟨hlen, ?_, hhead⟩
    rw [List.nil_append] at hsplit
    rw [hsplit]
    simp [List.getLast?_append, hlast]

theorem Span.atStage_cons {n : Nat} (hn : n ≤ 12) (s : Span) :
    ∃ c t, s.atStage n = c :: t ∧ c ∉ "bq.".toList := by
  unfold Span.atStage
  split
  · rename_i hlt
    cases h : s.kind with
    | color =>
      simp [h, SpanKind.position] at hlt
      omega
    | _ =>
      simp only [Span.markdown, h]
      exact ⟨_, _, rfl, by decide⟩
  · cases h : s.kind
    all_goals
      simp only [Span.markup, h]
      exact ⟨_, _, rfl, by decide⟩

namespace StyledLine

variable (line : StyledLine) (n : Nat)

theorem position_ne {front back : List (Span × Text)} {s : Span} {gap : Text}
    (hrest : line.rest = front ++ (s, gap) :: back) :
    (∀ p ∈ front, p.1.kind.position ≠ s.kind.position) ∧ ∀ p ∈ back, p.1.kind.position ≠ s.kind.position := by
  have hnodup := line.kinds_nodup
  rw [hrest, List.map_append, List.map_cons, List.nodup_middle, List.nodup_cons, List.mem_append,
    not_or] at hnodup
  refine ⟨fun p hp he => hnodup.1.1 ?_, fun p hp he => hnodup.1.2 ?_⟩
  · exact List.mem_map.mpr ⟨p, hp, SpanKind.position_injective he⟩
  · exact List.mem_map.mpr ⟨p, hp, SpanKind.position_injective he⟩

/-- A style finds its own span between spans of other styles, or spans of other styles only. -/
theorem atStage_cases : Beside n (line.atStage n) ∧ line.atStage (n + 1) = line.atStage n ∨
    ∃ (a : Text) (s : Span) (b : Text), s.kind.position = n ∧ Beside n a ∧ Beside n b ∧
      (s.kind = .strikethrough →
        2 ≤ s.text.text.length ∧ a.getLast? = some ' ' ∧ b.head? = some ' ') ∧
      line.atStage n = a ++ (s.markup ++ b) ∧ line.atStage (n + 1) = a ++ (s.markdown ++ b) := by
  by_cases hspan : ∃ p ∈ line.rest, p.1.kind.position = n
  · obtain ⟨⟨s, gap⟩, hp, rfl⟩ := hspan
    obtain ⟨front, back, hrest⟩ := List.append_of_mem hp
    obtain ⟨hfront, hback⟩ := line.position_ne hrest
    have hgaps := line.rest_unmarked
    rw [hrest, List.forall_mem_append, List.forall_mem_cons] at hgaps
    have hcongr {first : Text} {rest : List (Span × Text)}
        (h : ∀ p ∈ rest, p.1.kind.position ≠ s.kind.position) :
        spell (Span.atStage (s.kind.position + 1)) first rest =
          spell (Span.atStage s.kind.position) first rest :=
      spell_congr first fun p hp => Span.atStage_succ (h p hp)
    refine Or.inr ⟨spell (Span.atStage s.kind.position) line.first front, s,
      spell (Span.atStage s.kind.position) gap back, rfl, ?_, ?_, ?_, ?_, ?_⟩
    · exact Beside.spell line.first_unmarked fun p hp => ⟨hgaps.1 p hp, hfront p hp⟩
    · exact Beside.spell hgaps.2.1 fun p hp => ⟨hgaps.2.2 p hp, hback p hp⟩
    · have hapart := line.struck_apart
      rw [hrest] at hapart
      exact hapart.spell_apart
    · rw [atStage, hrest, spell_append]
      simp [Span.atStage]
    · rw [atStage, hrest, spell_append, hcongr hfront, hcongr hback]
      simp [Span.atStage]
  · push Not at hspan
    refine Or.inl ⟨Beside.spell line.first_unmarked fun p hp => ⟨line.rest_unmarked p hp, hspan p hp⟩, ?_⟩
    exact spell_congr line.first fun p hp => Span.atStage_succ (hspan p hp)

section
variable {n} {r : Rewrite} (hr : r.anchor = .anywhere) (hpass : ∀ t, Beside n t → r.pattern.Passes t)
include hr hpass

theorem apply_atStage (hmatch : ∀ s : Span, s.kind.position = n → ∀ t, Beside n t →
    r.pattern (s.markup ++ t) = some ⟨s.markdown, t⟩) : r.apply (line.atStage n) = line.atStage (n + 1) := by
  rcases line.atStage_cases n with ⟨hline, hsucc⟩ | ⟨a, s, b, hs, ha, hb, -, hbefore, hafter⟩
  · rw [hsucc, Rewrite.apply_eq_self_of_passes hr (hpass _ hline)]
  · have hne : s.markup ≠ [] := by
      cases h : s.kind <;> simp [Span.markup, h, SpanKind.markup, between]
    rw [hbefore, hafter]
    exact Rewrite.apply_once hr (fun u hu hus => hpass a ha u hu hus _) hne (hmatch s hs b hb)
      (Rewrite.apply_eq_self_of_passes hr (hpass b hb))

theorem apply_atStage_of_none (hn : ∀ k : SpanKind, k.position ≠ n) :
    r.apply (line.atStage n) = line.atStage (n + 1) :=
  line.apply_atStage hr hpass fun s hs => absurd hs (hn s.kind)

end

theorem apply_kind {r : Rewrite} (k : SpanKind) (hr : r.anchor = .anywhere)
    (hpass : ∀ t, Beside k.position t → r.pattern.Passes t)
    (hmatch : ∀ (w u : SpanText) (t : Text), Beside k.position t →
      r.pattern (k.markup w.text u.text ++ t) = some ⟨k.markdown w.text u.text, t⟩) :
    r.apply (line.atStage k.position) = line.atStage (k.position + 1) := by
  refine line.apply_atStage hr hpass fun s hs t ht => ?_
  rw [Span.markup, Span.markdown, SpanKind.position_injective hs]
  exact hmatch s.text s.target t ht

section
variable {mark : Char} {wrap : Text → Text} (k : SpanKind)
  (hmark : mark ∈ spanMarks.toList ∧
    ∀ k' : SpanKind, k'.position ≠ k.position → mark ∉ (k'.marksAt k.position).toList)
  (hmarkup : ∀ w u, k.markup w u = mark :: (w ++ [mark])) (hmarkdown : ∀ w u, k.markdown w u = wrap w)
include hmark hmarkup hmarkdown

theorem apply_longSpan (hline : mark ≠ '\n') :
    Rewrite.apply ⟨.anywhere, longSpan mark (!isBlank ·) wrap⟩ (line.atStage k.position) =
      line.atStage (k.position + 1) := by
  refine line.apply_kind k rfl (fun t => Beside.passes_of_opens
    (longSpan_opens (String.toList_singleton mark) _ _) (String.toList_singleton mark) hmark) ?_
  intro w u t ht
  have hspan := longSpan_spanText w wrap hline (ht.not_mem hmark)
  simpa [hmarkup, hmarkdown] using hspan

theorem apply_shortSpan : Rewrite.apply ⟨.anywhere, shortSpan mark wrap⟩ (line.atStage k.position) =
    line.atStage (k.position + 1) := by
  refine line.apply_kind k rfl (fun t => Beside.passes_of_opens
    (shortSpan_opens (String.toList_singleton mark) _) (String.toList_singleton mark) hmark) ?_
  intro w u t _
  have hspan : shortSpan mark wrap (mark :: (w.text ++ mark :: t)) = some ⟨wrap w.text, t⟩ :=
    shortSpan_span (w.not_mem hmark.1) t
  simpa [hmarkup, hmarkdown] using hspan

end

theorem apply_strikethrough :
    Rewrite.apply ⟨.anywhere, strikethrough⟩ (line.atStage 6) = line.atStage 7 := by
  have hdash : ∀ {t}, Beside 6 t → '-' ∉ t := fun ht => ht.not_mem (by decide)
  rcases line.atStage_cases 6 with ⟨hline, hsucc⟩ | ⟨a, s, b, hs, ha, hb, hapart, hbefore, hafter⟩
  · rw [hsucc]
    exact strikethrough_opens.apply_eq_self fun h => hdash hline (h.2.subset (by decide))
  · have hkind : s.kind = .strikethrough := SpanKind.position_injective hs
    obtain ⟨hlen, hlast, hhead⟩ := hapart hkind
    have happly := strikethrough_apply s.text hlen (hdash ha) hlast (hdash hb) hhead
    rw [hbefore, hafter]
    simpa [Span.markup, Span.markdown, hkind, SpanKind.markup, SpanKind.markdown] using happly

theorem not_quote_atStage {n : Nat} (hn : n ≤ 12) : ¬ "bq.".toList <+: line.atStage n := by
  have hquote := line.no_quote
  cases hrest : line.rest with
  | nil => simpa [atStage, spell, hrest] using hquote
  | cons p rest =>
    obtain ⟨c, t, hct, hc⟩ := p.1.atStage_cons hn
    obtain ⟨d, u, hdu, hd⟩ := p.1.atStage_cons (Nat.zero_le 12)
    have hmarkup : p.1.markup = d :: u := hdu
    simp only [atStage, spell, hrest, List.flatMap_cons, hct, hmarkup, List.cons_append] at hquote ⊢
    rw [prefix_append_stop_iff hd] at hquote
    rwa [prefix_append_stop_iff hc]

theorem apply_blockquote :
    Rewrite.apply ⟨.textStart, blockquote⟩ (line.atStage 11) = line.atStage 12 := by
  have hkind : ∀ k : SpanKind, k.position ≠ 11 := by decide
  rw [blockquote_apply_eq_self (line.not_quote_atStage (by decide))]
  rcases line.atStage_cases 11 with ⟨-, hsucc⟩ | ⟨-, s, -, hs, -⟩
  · exact hsucc.symm
  · exact absurd hs (hkind s.kind)

end StyledLine

/-! ## The whole chain -/

theorem restyle_of_steps {f : Nat → Text} {chain : List InlineStyle} {n : Nat}
    (h : ∀ p ∈ chain.zipIdx n, p.1.rewrite.apply (f p.2) = f (p.2 + 1)) :
    restyle chain (f n) = f (n + chain.length) := by
  induction chain generalizing n with
  | nil => rfl
  | cons style chain ih =>
    rw [List.zipIdx_cons, List.forall_mem_cons] at h
    rw [restyle, List.foldl_cons, h.1, ← restyle, ih h.2, List.length_cons, Nat.add_right_comm, Nat.add_assoc]

namespace StyledLine

variable (line : StyledLine)

theorem inlineChain_steps : ∀ p ∈ inlineChain.zipIdx,
    p.1.rewrite.apply (line.atStage p.2) = line.atStage (p.2 + 1) := by
  simp only [inlineChain, List.zipIdx_cons, List.forall_mem_cons]
  refine ⟨?bold, ?italic, ?monospace, ?insert, ?superscript, ?subscript, line.apply_strikethrough,
    ?preformatted, ?unnamedLink, ?image, ?namedLink, line.apply_blockquote, ?color, ?panel, by simp⟩
  case bold => exact line.apply_longSpan .bold (by decide) (fun _ _ => rfl) (fun _ _ => rfl) (by decide)
  case italic => exact line.apply_longSpan .italic (by decide) (fun _ _ => rfl) (fun _ _ => rfl) (by decide)
  case insert => exact line.apply_shortSpan .insert (by decide) (fun _ _ => rfl) (fun _ _ => rfl)
  case superscript => exact line.apply_shortSpan .superscript (by decide) (fun _ _ => rfl) (fun _ _ => rfl)
  case subscript => exact line.apply_shortSpan .subscript (by decide) (fun _ _ => rfl) (fun _ _ => rfl)
  case monospace =>
    refine line.apply_kind .monospace rfl (fun t => Beside.passes_of_brace monospace_opens rfl (by decide)
      (by decide) (by decide)) fun w _ t _ => ?_
    exact monospace_span w.ne_nil w.not_mem t
  case preformatted =>
    exact line.apply_atStage_of_none rfl (fun t => Beside.passes_of_brace preformatted_opens rfl (by decide)
      (by decide) (by decide)) (by decide)
  case unnamedLink =>
    refine line.apply_kind .unnamedLink rfl (fun t => Beside.passes_unnamedLink) fun w _ t ht => ?_
    have hnone := ht.breakLast?_eq_none (v := []) rfl
    rw [List.append_nil] at hnone
    simpa [SpanKind.markup, SpanKind.markdown, between] using unnamedLink_spanText w hnone
  case image =>
    exact line.apply_atStage_of_none rfl (fun t => Beside.passes_of_opens
      (longSpan_opens (String.toList_singleton '!') _ _) rfl (by decide)) (by decide)
  case namedLink =>
    refine line.apply_kind .namedLink rfl (fun t => Beside.passes_of_opens namedLink_opens rfl (by decide))
      fun w u t ht => ?_
    have hspan := namedLink_spanText w u (ht.not_mem (by decide))
    simpa [SpanKind.markup, SpanKind.markdown, between] using hspan
  case color =>
    refine line.apply_kind .color rfl (fun t => Beside.passes_of_opens color_opens rfl (by decide))
      fun w u t ht => ?_
    have hspan := color_span u.ne_nil u.not_mem w.not_mem (ht.not_mem (by decide))
    simpa [SpanKind.markup, SpanKind.markdown, between] using hspan
  case panel =>
    exact line.apply_atStage_of_none rfl (fun t => Beside.passes_of_opens panelTitle_opens rfl (by decide))
      (by decide)

end StyledLine

/-- Spans of different styles do not disturb each other. -/
theorem inlineStyles_styledLine (line : StyledLine) : inlineStyles line.markup = line.markdown := by
  have hfirst : line.atStage 0 = line.markup := rfl
  have hlast : line.atStage 14 = line.markdown := by
    have hposition : ∀ k : SpanKind, k.position < 14 := by decide
    exact spell_congr line.first fun p _ => if_pos (hposition p.1.kind)
  have hchain := restyle_of_steps (f := (line.atStage ·)) line.inlineChain_steps
  rw [← hfirst, ← hlast]
  exact hchain

/-- `a*bc* -bc- [bc|bc]` -/
def mixedLine : StyledLine where
  first := "a".toList
  rest :=
    let word : SpanText := ⟨"bc".toList, by simp, by simp [Unmarked, spanMarks], by simp [isBlank], by simp [isBlank]⟩
    [(⟨.bold, word, word⟩, " ".toList), (⟨.strikethrough, word, word⟩, " ".toList), (⟨.namedLink, word, word⟩, [])]
  first_unmarked := by simp [Unmarked, spanMarks]
  rest_unmarked := by simp [Unmarked, spanMarks]
  kinds_nodup := by simp
  struck_apart := by simp [StruckApart]
  no_quote := by decide

theorem inlineStyles_mixedLine : mixedLine.markup = "a*bc* -bc- [bc|bc]".toList ∧
    inlineStyles mixedLine.markup = "a**bc** ~~bc~~ [bc](bc)".toList := by
  refine ⟨rfl, ?_⟩
  rw [inlineStyles_styledLine]
  rfl

end JiraMarkup
