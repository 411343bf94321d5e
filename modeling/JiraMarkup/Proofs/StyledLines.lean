import JiraMarkup.Proofs.SpanLines

/-!
# Lines with spans of different styles

Spans of different styles stand on a line in any order, side by side or with
plain text in between. When the chain comes to a style, the spans of the styles
before it are rewritten and those of the styles behind it are not.
-/

namespace JiraMarkup

/-! ## Plain text -/

def spanMarks : String := "*_\x7b\x7d+^~-[]!|\n"

/-- Of the characters that plain text lacks, the text has those of `marks` at most. -/
def Marked (marks : String) (t : Text) : Prop := ∀ c ∈ t, c ∈ spanMarks.toList → c ∈ marks.toList

instance (marks : String) (t : Text) : Decidable (Marked marks t) := decidableForallMem t

def Unmarked (t : Text) : Prop := ∀ c ∈ t, c ∉ spanMarks.toList

namespace Marked

variable {marks : String} {s t : Text}

theorem of_unmarked (h : Unmarked t) : Marked marks t := by
  intro c hc hmark
  exact absurd hmark (h c hc)

theorem append (hs : Marked marks s) (ht : Marked marks t) : Marked marks (s ++ t) := by
  intro c hc
  rcases List.mem_append.mp hc with hc | hc
  · exact hs c hc
  · exact ht c hc

theorem flatMap {α : Type} {f : α → Text} {xs : List α} (h : ∀ x ∈ xs, Marked marks (f x)) :
    Marked marks (xs.flatMap f) := by
  intro c hc
  obtain ⟨x, hx, hm⟩ := List.mem_flatMap.mp hc
  exact h x hx c hm

theorem mono {marks' : String} (h : Marked marks t) (hm : marks.toList ⊆ marks'.toList := by decide) :
    Marked marks' t := fun c hc hmark => hm (h c hc hmark)

theorem not_mem (h : Marked marks t) {c : Char} (hc : c ∈ spanMarks.toList ∧ c ∉ marks.toList := by decide) :
    c ∉ t := fun hm => hc.2 (h c hm hc.1)

theorem between {opening closing : String} (ho : Marked marks opening.toList)
    (hc : Marked marks closing.toList) (ht : Unmarked t) : Marked marks (between opening closing t) :=
  (ho.append (.of_unmarked ht)).append hc

theorem apply (h : Marked marks t) {r : Rewrite} {dropped written : String}
    (hr : r.pattern.Respells (Swaps dropped written)) (hw : Marked marks written.toList) : Marked marks (r.apply t) :=
  (Rewrite.apply_respelled hr t).forall_mem (fun _ _ hs c hc => hw c (hs.written c hc)) h

end Marked

def Lacks (marks : String) (mark : String × String) : Prop :=
  ∃ c ∈ (mark.1 ++ mark.2).toList, c ∈ spanMarks.toList ∧ c ∉ marks.toList

instance (marks : String) (mark : String × String) : Decidable (Lacks marks mark) := decidableExistsMem _

theorem Marked.not_hasMarks {marks : String} {t : Text} (h : Marked marks t) {mark : String × String}
    (hmark : Lacks marks mark) : ¬ HasMarks mark t := by
  obtain ⟨c, hc, hspan, hnone⟩ := hmark
  exact fun hm => hnone (h c (hm.2.subset hc) hspan)

theorem inlineStyles_of_marked {i : Nat} {r : Rewrite} (hi : (inlineChain.take 11)[i]?.map (·.rewrite) = some r)
    {marks marks' : String} {l : Text} (hl : Marked marks l) (hl' : Marked marks' (r.apply l))
    (hbefore : ∀ mark ∈ (styleMarks.take 11).take i, Lacks marks mark)
    (hbehind : ∀ mark ∈ (styleMarks.take 11).drop (i + 1) ++ styleMarks.drop 12, Lacks marks' mark) :
    inlineStyles l = Rewrite.apply ⟨.textStart, blockquote⟩ (r.apply l) := by
  obtain ⟨style, hget, rfl⟩ := Option.map_eq_some_iff.mp hi
  rw [List.forall_mem_append] at hbehind
  have hopens := List.forall₂_take 11 inlineChain_opens
  have hstart := restyle_eq_self (List.forall₂_take i hopens) fun mark hm => hl.not_hasMarks (hbefore mark hm)
  have hstyle := restyle_eq_apply hopens hget hstart fun mark hm => hl'.not_hasMarks (hbehind.1 mark hm)
  have hquoted : Marked marks' (Rewrite.apply ⟨.textStart, blockquote⟩ (style.rewrite.apply l)) := by
    have hwritten : Unmarked "> ".toList := by simp [Unmarked, spanMarks]
    exact hl'.apply blockquote_respells (.of_unmarked hwritten)
  exact inlineStyles_of_restyle hstyle fun mark hm => hquoted.not_hasMarks (hbehind.2 mark hm)

theorem not_quote_of_append {c d : Char} {first s t : Text} (hc : c ∉ "bq.".toList) (hd : d ∉ "bq.".toList)
    (h : ¬ "bq.".toList <+: first ++ c :: s) : ¬ "bq.".toList <+: first ++ d :: t := by
  rw [prefix_append_stop_iff hc] at h
  rwa [prefix_append_stop_iff hd]

theorem Unmarked.not_mem {t : Text} (h : Unmarked t) {c : Char} (hc : c ∈ spanMarks.toList := by decide) :
    c ∉ t := fun hm => h c hm hc

/-! ## Spans -/

structure SpanText where
  text : Text
  ne_nil : text ≠ []
  unmarked : Unmarked text
  head_not_blank : ∀ c ∈ text.head?, isBlank c = false
  last_not_blank : ∀ c ∈ text.getLast?, isBlank c = false

inductive SpanKind where
  | bold
  | italic
  | monospace
  | insert
  | superscript
  | subscript
  | strikethrough
  | unnamedLink
  | namedLink
  | color
deriving DecidableEq

namespace SpanKind

def all : List SpanKind :=
  [bold, italic, monospace, insert, superscript, subscript, strikethrough, unnamedLink, namedLink, color]

theorem mem_all (k : SpanKind) : k ∈ all := by
  cases k <;> simp [all]

instance decidableForall {P : SpanKind → Prop} [DecidablePred P] : Decidable (∀ k, P k) :=
  decidable_of_iff (∀ k ∈ all, P k) ⟨fun h k => h k (mem_all k), fun h k _ => h k⟩

/-- A span around `w`. The second text is the target of a link with a name, or the name of a color. -/
def markup : SpanKind → Text → Text → Text
  | bold, w, _ => between "*" "*" w
  | italic, w, _ => between "_" "_" w
  | monospace, w, _ => between "\x7b\x7b" "\x7d\x7d" w
  | insert, w, _ => between "+" "+" w
  | superscript, w, _ => between "^" "^" w
  | subscript, w, _ => between "~" "~" w
  | strikethrough, w, _ => between "-" "-" w
  | unnamedLink, w, _ => between "[" "]" w
  | namedLink, w, u => between "[" "|" w ++ between "" "]" u
  | color, w, u => between "\x7bcolor:" "\x7d" u ++ between "" "\x7bcolor\x7d" w

def markdown : SpanKind → Text → Text → Text
  | bold, w, _ => between "**" "**" w
  | italic, w, _ => between "*" "*" w
  | monospace, w, _ => between "`" "`" w
  | insert, w, _ => between "<ins>+" "+</ins>" w
  | superscript, w, _ => between "<sup>" "</sup>" w
  | subscript, w, _ => between "<sub>" "</sub>" w
  | strikethrough, w, _ => between "~~" "~~" w
  | unnamedLink, w, _ => between "<" ">" w
  | namedLink, w, u => between "[" "]" w ++ between "(" ")" u
  | color, w, _ => w

def position : SpanKind → Nat
  | bold => 0
  | italic => 1
  | monospace => 2
  | insert => 3
  | superscript => 4
  | subscript => 5
  | strikethrough => 6
  | unnamedLink => 8
  | namedLink => 10
  | color => 12

def marks : SpanKind → String
  | bold => "*"
  | italic => "_"
  | monospace => "\x7b\x7d"
  | insert => "+"
  | superscript => "^"
  | subscript => "~"
  | strikethrough => "-"
  | unnamedLink => "[]"
  | namedLink => "[|]"
  | color => "\x7b\x7d"

def writes : SpanKind → String
  | bold => "*"
  | italic => "*"
  | insert => "+"
  | strikethrough => "~"
  | namedLink => "[]"
  | _ => ""

/-- The marks of a span before the style at place `n` of the chain reads it. -/
def marksAt (n : Nat) (k : SpanKind) : String := if k.position < n then k.writes else k.marks

theorem position_injective {k k' : SpanKind} (h : k.position = k'.position) : k = k' := by
  revert k k'
  decide

theorem marked_markup (k : SpanKind) {w u : Text} (hw : Unmarked w) (hu : Unmarked u) :
    Marked k.marks (k.markup w u) := by
  cases k with
  | namedLink =>
    exact (Marked.between (by decide) (by decide) hw).append (.between (by decide) (by decide) hu)
  | color =>
    exact (Marked.between (by decide) (by decide) hu).append (.between (by decide) (by decide) hw)
  | _ => exact Marked.between (by decide) (by decide) hw

theorem marked_markdown (k : SpanKind) {w u : Text} (hw : Unmarked w) (hu : Unmarked u) :
    Marked k.writes (k.markdown w u) := by
  cases k with
  | namedLink =>
    exact (Marked.between (by decide) (by decide) hw).append (.between (by decide) (by decide) hu)
  | color => exact .of_unmarked hw
  | _ => exact Marked.between (by decide) (by decide) hw

end SpanKind

structure Span where
  kind : SpanKind
  text : SpanText
  target : SpanText

namespace Span

def markup (s : Span) : Text := s.kind.markup s.text.text s.target.text

def markdown (s : Span) : Text := s.kind.markdown s.text.text s.target.text

/-- A span as the style at place `n` of the chain finds it. -/
def atStage (n : Nat) (s : Span) : Text := if s.kind.position < n then s.markdown else s.markup

theorem marked_atStage (n : Nat) (s : Span) : Marked (s.kind.marksAt n) (s.atStage n) := by
  unfold atStage SpanKind.marksAt
  split
  · exact s.kind.marked_markdown s.text.unmarked s.target.unmarked
  · exact s.kind.marked_markup s.text.unmarked s.target.unmarked

theorem atStage_succ {n : Nat} {s : Span} (h : s.kind.position ≠ n) : s.atStage (n + 1) = s.atStage n := by
  have hiff : s.kind.position < n + 1 ↔ s.kind.position < n := by omega
  simp [atStage, hiff]

end Span

/-! ## Lines -/

def spell (f : Span → Text) (first : Text) (rest : List (Span × Text)) : Text :=
  first ++ rest.flatMap fun p => f p.1 ++ p.2

/-- Struck text is no single character and stands between spaces. -/
def StruckApart : Text → List (Span × Text) → Prop
  | _, [] => True
  | before, (s, behind) :: rest =>
    (s.kind = .strikethrough →
      2 ≤ s.text.text.length ∧ before.getLast? = some ' ' ∧ behind.head? = some ' ') ∧
      StruckApart behind rest

structure StyledLine where
  first : Text
  rest : List (Span × Text)
  first_unmarked : Unmarked first
  rest_unmarked : ∀ p ∈ rest, Unmarked p.2
  kinds_nodup : (rest.map (·.1.kind)).Nodup
  struck_apart : StruckApart first rest
  no_quote : ¬ "bq.".toList <+: spell Span.markup first rest

namespace StyledLine

def markup (line : StyledLine) : Text := spell Span.markup line.first line.rest

def markdown (line : StyledLine) : Text := spell Span.markdown line.first line.rest

def atStage (n : Nat) (line : StyledLine) : Text := spell (Span.atStage n) line.first line.rest

end StyledLine

theorem spell_append (f : Span → Text) (first : Text) (front : List (Span × Text)) (s : Span) (gap : Text)
    (back : List (Span × Text)) : spell f first (front ++ (s, gap) :: back) =
      spell f first front ++ (f s ++ spell f gap back) := by
  simp [spell]

theorem spell_congr {f g : Span → Text} (first : Text) {rest : List (Span × Text)}
    (h : ∀ p ∈ rest, f p.1 = g p.1) : spell f first rest = spell g first rest := by
  induction rest with
  | nil => rfl
  | cons p rest ih =>
    rw [List.forall_mem_cons] at h
    have hrest := ih h.2
    simp only [spell, List.flatMap_cons, List.append_cancel_left_eq] at hrest ⊢
    rw [hrest, h.1]

/-! ## What stands beside a span -/

/-- Plain text and spans of other styles, as the style at place `n` of the chain finds them. -/
inductive Beside (n : Nat) : Text → Prop
  | plain {t : Text} : Unmarked t → Beside n t
  | span {s : Span} : s.kind.position ≠ n → Beside n (s.atStage n)
  | append {s t : Text} : Beside n s → Beside n t → Beside n (s ++ t)

namespace Beside

variable {n : Nat} {t : Text}

theorem spell {first : Text} (hfirst : Unmarked first) {rest : List (Span × Text)}
    (h : ∀ p ∈ rest, Unmarked p.2 ∧ p.1.kind.position ≠ n) :
    Beside n (JiraMarkup.spell (Span.atStage n) first rest) := by
  induction rest generalizing first with
  | nil => simpa [JiraMarkup.spell] using plain hfirst
  | cons p rest ih =>
    rw [List.forall_mem_cons] at h
    have hrest := ih h.1.1 h.2
    have hsplit := spell_append (Span.atStage n) first [] p.1 p.2 rest
    rw [List.nil_append] at hsplit
    rw [hsplit]
    refine append ?_ (append (span h.1.2) hrest)
    simpa [JiraMarkup.spell] using plain hfirst

theorem not_mem (h : Beside n t) {c : Char}
    (hc : c ∈ spanMarks.toList ∧ ∀ k : SpanKind, k.position ≠ n → c ∉ (k.marksAt n).toList) : c ∉ t := by
  induction h with
  | plain ht => exact ht.not_mem hc.1
  | @span s hs =>
    intro hm
    exact hc.2 s.kind hs (s.marked_atStage n c hm hc.1)
  | append _ _ ih ih' => simp [ih, ih']

theorem passes {p : Pattern} {c : Char} (hp : p.BeginsWith c) (hc : c ∈ spanMarks.toList)
    (hs : ∀ s : Span, s.kind.position ≠ n → p.Passes (s.atStage n)) (h : Beside n t) : p.Passes t := by
  induction h with
  | plain ht => exact hp.passes (ht.not_mem hc)
  | span h => exact hs _ h
  | append _ _ ih ih' => exact ih.append ih'

end Beside

end JiraMarkup
