import JiraMarkup.Proofs.Letters

/-!
# Lines of words and spans

Lines of words and of spans of one style, with single spaces in between. No
other style has a say on them, neither before the spans are rewritten nor after
that.
-/

namespace JiraMarkup

/-! ## Lines of words and spans -/

structure Word where
  text : Text
  letters : ∀ c ∈ text, isLetter c = true
  two_le_length : 2 ≤ text.length

inductive SpanStyle where
  | bold
  | italic
  | strikethrough
  | image
  | unnamedLink
  | namedLink
  | color

namespace SpanStyle

def pattern : SpanStyle → Pattern
  | bold => JiraMarkup.bold
  | italic => JiraMarkup.italic
  | strikethrough => JiraMarkup.strikethrough
  | image => JiraMarkup.image
  | unnamedLink => JiraMarkup.unnamedLink
  | namedLink => JiraMarkup.namedLink
  | color => JiraMarkup.color

/-- A span around `w`. The second word is the target of a link with a name, or the name of a color. -/
def markup : SpanStyle → Text → Text → Text
  | bold, w, _ => between "*" "*" w
  | italic, w, _ => between "_" "_" w
  | strikethrough, w, _ => between "-" "-" w
  | image, w, _ => between "!" "!" w
  | unnamedLink, w, _ => between "[" "]" w
  | namedLink, w, u => between "[" "|" w ++ between "" "]" u
  | color, w, u => between "\x7bcolor:" "\x7d" u ++ between "" "\x7bcolor\x7d" w

def markdown : SpanStyle → Text → Text → Text
  | bold, w, _ => between "**" "**" w
  | italic, w, _ => between "*" "*" w
  | strikethrough, w, _ => between "~~" "~~" w
  | image, w, _ => between "![](" ")" w
  | unnamedLink, w, _ => between "<" ">" w
  | namedLink, w, u => between "[" "]" w ++ between "(" ")" u
  | color, w, _ => w

end SpanStyle

inductive Token where
  | word (w : Word)
  | span (w u : Word)

namespace Token

def isSpan : Token → Bool
  | word _ => false
  | span _ _ => true

def markup (s : SpanStyle) : Token → Text
  | word w => w.text
  | span w u => s.markup w.text u.text

def markdown (s : SpanStyle) : Token → Text
  | word w => w.text
  | span w u => s.markdown w.text u.text

end Token

structure SpanLine where
  first : Word
  rest : List Token
  last_not_span : ∀ t ∈ rest.getLast?, t.isSpan = false

def spaced (spell : Token → Text) (ts : List Token) : Text := ts.flatMap fun t => ' ' :: spell t

namespace SpanLine

def markup (s : SpanStyle) (line : SpanLine) : Text :=
  line.first.text ++ spaced (Token.markup s) line.rest

def markdown (s : SpanStyle) (line : SpanLine) : Text :=
  line.first.text ++ spaced (Token.markdown s) line.rest

def spanCount (line : SpanLine) : Nat := line.rest.countP Token.isSpan

end SpanLine

/-! ## Words -/

def StartsLetter (t : Text) : Prop := ∃ c u, t = c :: u ∧ isLetter c = true

theorem Leads.append_starts {c : Char} {s t : Text} (hs : Leads c StartsLetter s)
    (ht : Leads c StartsLetter t) : Leads c StartsLetter (s ++ t) := by
  refine hs.append ?_ ht
  rintro _ ⟨d, u, rfl, hd⟩
  exact ⟨d, u ++ t, rfl, hd⟩

namespace Word

variable (w : Word)

theorem exists_cons : StartsLetter w.text := by
  have hlen := w.two_le_length
  cases h : w.text with
  | nil => simp [h] at hlen
  | cons c t => exact ⟨c, t, rfl, w.letters c (by simp [h])⟩

theorem lettered (marks : String) : Lettered marks w.text := .of_letters w.letters

theorem not_mem {c : Char} (hc : isLetter c = false := by decide) : c ∉ w.text := fun hm => by
  rw [w.letters c hm] at hc
  cases hc

end Word

theorem spaced_append (spell : Token → Text) (ts us : List Token) :
    spaced spell (ts ++ us) = spaced spell ts ++ spaced spell us := List.flatMap_append

theorem spaced_cons (spell : Token → Text) (t : Token) (ts : List Token) :
    spaced spell (t :: ts) = ' ' :: (spell t ++ spaced spell ts) := rfl

theorem spaced_induction {P : Text → Prop} (hnil : P []) (happ : ∀ s t, P s → P t → P (s ++ t))
    {spell : Token → Text} {ts : List Token} (h : ∀ t ∈ ts, P (' ' :: spell t)) : P (spaced spell ts) := by
  induction ts with
  | nil => exact hnil
  | cons t ts ih =>
    rw [List.forall_mem_cons] at h
    exact happ _ _ h.1 (ih h.2)

/-! ## The marks of a span -/

namespace SpanStyle

def marks : SpanStyle → String
  | bold => " *"
  | italic => " _"
  | strikethrough => " -"
  | image => " !"
  | unnamedLink => " []"
  | namedLink => " [|]"
  | color => " \x7b:\x7d"

def writes : SpanStyle → String
  | bold => "*"
  | italic => "*"
  | strikethrough => "~"
  | image => "![]()"
  | unnamedLink => "<>"
  | namedLink => "[]()"
  | color => ""

theorem lettered_markup (s : SpanStyle) (w u : Word) : Lettered s.marks (s.markup w.text u.text) := by
  have hbetween : ∀ (o c : String) (v : Word), Lettered s.marks o.toList → Lettered s.marks c.toList →
      Lettered s.marks (between o c v.text) := fun o c v ho hc => (ho.append (v.lettered _)).append hc
  cases s with
  | bold => exact hbetween _ _ w (by decide) (by decide)
  | italic => exact hbetween _ _ w (by decide) (by decide)
  | strikethrough => exact hbetween _ _ w (by decide) (by decide)
  | image => exact hbetween _ _ w (by decide) (by decide)
  | unnamedLink => exact hbetween _ _ w (by decide) (by decide)
  | namedLink => exact (hbetween _ _ w (by decide) (by decide)).append (hbetween _ _ u (by decide) (by decide))
  | color => exact (hbetween _ _ u (by decide) (by decide)).append (hbetween _ _ w (by decide) (by decide))

theorem space_mem_marks (s : SpanStyle) : ' ' ∈ s.marks.toList := by cases s <;> decide

theorem lettered_spaced (s : SpanStyle) (ts : List Token) : Lettered s.marks (spaced (Token.markup s) ts) := by
  refine spaced_induction .nil (fun _ _ h h' => h.append h') fun t _ => .cons s.space_mem_marks ?_
  cases t with
  | word w => exact w.lettered _
  | span w u => exact s.lettered_markup w u

theorem lettered_line (s : SpanStyle) (line : SpanLine) : Lettered s.marks (line.markup s) :=
  (line.first.lettered _).append (s.lettered_spaced line.rest)

theorem leads_line {s : SpanStyle} {c : Char} {P : Text → Prop} (hc : isLetter c = false) (hspace : c ≠ ' ')
    (happ : ∀ s t, P s → P (s ++ t)) (hspan : ∀ w u : Word, Leads c P (s.markup w.text u.text))
    (line : SpanLine) : Leads c P (line.markup s) := by
  have hword : ∀ w : Word, Leads c P w.text := fun w => .of_not_mem (w.not_mem hc)
  refine .append (fun s => happ s _) (hword line.first) ?_
  refine spaced_induction (.of_not_mem List.not_mem_nil) (fun s t h h' => h.append (fun s => happ s t) h')
    fun t _ => Leads.cons_iff.mpr ⟨fun h => absurd h hspace, ?_⟩
  cases t with
  | word w => exact hword w
  | span w u => exact hspan w u

/-! ## Other styles -/

def rewrite (s : SpanStyle) : Rewrite := ⟨.anywhere, s.pattern⟩

theorem lettered_apply (s : SpanStyle) {l : Text} (hl : Lettered s.marks l) :
    Lettered (s.marks ++ s.writes) (s.rewrite.apply l) := by
  have hl' : Lettered (s.marks ++ s.writes) l := hl.mono (by simp)
  have hswaps : ∀ {d : String}, s.pattern.Respells (Swaps d s.writes) →
      Lettered (s.marks ++ s.writes) (s.rewrite.apply l) := fun hr =>
    hl'.apply hr fun _ _ h c hc => by
      rw [String.toList_append]
      exact List.mem_append_right _ (h.written c hc)
  cases s with
  | bold => exact hswaps (d := "*") (longSpan_respells (by simp) (by decide) (by decide) (by decide) _)
  | italic => exact hswaps (d := "_") (longSpan_respells (by simp) (by decide) (by decide) (by decide) _)
  | strikethrough => exact hswaps strikethrough_respells
  | image => exact hswaps (d := "!") (longSpan_respells (by simp) (by decide) (by decide) (by decide) _)
  | unnamedLink => exact hswaps unnamedLink_respells
  | namedLink => exact hswaps namedLink_respells
  | color => exact hl'.apply color_respells fun _ _ h c hc => absurd (h c hc) (by simp)

theorem inlineStyles_of_index {s : SpanStyle} {i : Nat} {style : InlineStyle}
    (hi : inlineChain[i]? = some style) (hs : style.rewrite = s.rewrite) {l : Text} (hl : Lettered s.marks l)
    (hbefore : restyle (inlineChain.take i) l = l)
    (hafter : ∀ mark ∈ styleMarks.drop (i + 1), Foreign (s.marks ++ s.writes) mark) :
    inlineStyles l = s.rewrite.apply l := by
  have h := inlineStyles_eq_apply hi hbefore fun mark hm => by
    rw [hs]
    exact (s.lettered_apply hl).not_hasMarks (hafter mark hm)
  rw [h, hs]

theorem unnamedLink_namedLine (line : SpanLine) :
    Rewrite.apply ⟨.anywhere, JiraMarkup.unnamedLink⟩ (line.markup namedLink) = line.markup namedLink := by
  have hleads : Leads '[' (fun s => ∃ name t, s = name ++ '|' :: t ∧ ']' ∉ name) (line.markup namedLink) := by
    refine leads_line (by decide) (by decide) ?_ (fun w u => ?_) line
    · rintro s t ⟨name, v, rfl, hname⟩
      exact ⟨name, v ++ t, by simp, hname⟩
    · have hspan : namedLink.markup w.text u.text = '[' :: (w.text ++ '|' :: (u.text ++ [']'])) := by
        simp [markup, between]
      rw [hspan, Leads.cons_iff]
      refine ⟨fun _ => ⟨w.text, u.text ++ [']'], rfl, w.not_mem⟩, .of_not_mem ?_⟩
      simp [w.not_mem (c := '['), u.not_mem (c := '[')]
  refine Rewrite.apply_eq_self fun s hs => ?_
  cases s with
  | nil => rfl
  | cons c s =>
    by_cases hc : c = '['
    · subst hc
      obtain ⟨name, t, rfl, hname⟩ := hleads s hs
      exact unnamedLink_eq_none hname t
    · rw [Option.eq_none_iff_forall_ne_some]
      intro m hm
      exact hc (List.cons_prefix_cons.mp (unnamedLink_opens _ m hm).1).1.symm

theorem leads_color (line : SpanLine) : Leads '{' (fun s => ∃ t, s = 'c' :: t) (line.markup color) := by
  have happ : ∀ s t : Text, (∃ v, s = 'c' :: v) → ∃ v, s ++ t = 'c' :: v := by
    rintro s t ⟨v, rfl⟩
    exact ⟨v ++ t, rfl⟩
  refine leads_line (by decide) (by decide) happ (fun w u => ?_) line
  have hspan : color.markup w.text u.text =
      '{' :: ("color:".toList ++ u.text ++ '}' :: w.text ++ '{' :: "color\x7d".toList) := by
    simp [markup, between]
  have hopening : '{' ∉ "color:".toList ++ u.text ++ '}' :: w.text := by
    simp [w.not_mem (c := '{'), u.not_mem (c := '{')]
  have hclosing : Leads '{' (fun s => ∃ t, s = 'c' :: t) ('{' :: "color\x7d".toList) :=
    Leads.cons_iff.mpr ⟨fun _ => ⟨_, rfl⟩, .of_not_mem (by decide)⟩
  rw [hspan, Leads.cons_iff]
  exact ⟨fun _ => ⟨_, rfl⟩, .append (fun s => happ s _) (.of_not_mem hopening) hclosing⟩

theorem restyle_take_namedLine (line : SpanLine) :
    restyle (inlineChain.take 10) (line.markup namedLink) = line.markup namedLink := by
  have hl := namedLink.lettered_line line
  have htake : inlineChain.take 10 = inlineChain.take 8 ++
      [⟨"unnamed_link", .anywhere, JiraMarkup.unnamedLink⟩, ⟨"image", .anywhere, JiraMarkup.image⟩] := rfl
  have himage : Rewrite.apply ⟨.anywhere, JiraMarkup.image⟩ (line.markup namedLink) = line.markup namedLink :=
    (longSpan_opens (o := "!") rfl _ _).apply_eq_self (hl.not_hasMarks ⟨'!', by decide, by decide⟩)
  have hbefore := hl.restyle_take (i := 8) (by decide)
  rw [restyle] at hbefore
  rw [htake, restyle, List.foldl_append, hbefore, List.foldl_cons, List.foldl_cons, List.foldl_nil,
    unnamedLink_namedLine, himage]

theorem restyle_take_color (line : SpanLine) :
    restyle (inlineChain.take 12) (line.markup color) = line.markup color := by
  have hmarks : ∀ mark ∈ styleMarks.take 12,
      Foreign color.marks mark ∨ mark.1.toList ∈ ["\x7b".toList, "noformat\x7d".toList].map ('{' :: ·) := by
    decide
  refine restyle_eq_self (List.forall₂_take 12 inlineChain_opens) fun mark hm => ?_
  exact (color.lettered_line line).not_hasMarks_of_leads (leads_color line) (by simp) (hmarks mark hm)

theorem inlineStyles_line (s : SpanStyle) (line : SpanLine) :
    inlineStyles (line.markup s) = s.rewrite.apply (line.markup s) := by
  have hl := s.lettered_line line
  cases s with
  | bold => exact inlineStyles_of_index (i := 0) rfl rfl hl rfl (by decide)
  | italic =>
    exact inlineStyles_of_index (i := 1) rfl rfl hl (hl.restyle_take (by decide)) (by decide)
  | strikethrough =>
    exact inlineStyles_of_index (i := 6) rfl rfl hl (hl.restyle_take (by decide)) (by decide)
  | unnamedLink =>
    exact inlineStyles_of_index (i := 8) rfl rfl hl (hl.restyle_take (by decide)) (by decide)
  | image =>
    exact inlineStyles_of_index (i := 9) rfl rfl hl (hl.restyle_take (by decide)) (by decide)
  | namedLink =>
    exact inlineStyles_of_index (i := 10) rfl rfl hl (restyle_take_namedLine line) (by decide)
  | color => exact inlineStyles_of_index (i := 12) rfl rfl hl (restyle_take_color line) (by decide)

end SpanStyle

end JiraMarkup
