import JiraMarkup.Proofs.StyledLines
import JiraMarkup.Proofs.PlainText
import Mathlib.Data.Nat.SuccPred

/-!
# Long spans

A span of some styles reaches to the last mark of the line. So a line has one
at most: it begins at the first mark that can open it, and all marks in between
are part of its text.
-/

namespace JiraMarkup

/-! ## One span for all marks -/

section
variable {mark : Char} {starts : Char → Bool} {wrap : Text → Text}

theorem longSpan_apply_span {s a b : Text} {c : Char} (hstarts : starts c = true) (hmark : mark ≠ '\n')
    (ha : '\n' ∉ a) (hb : mark ∉ b)
    (hs : ∀ u, u ≠ [] → u <:+ s → longSpan mark starts wrap (u ++ mark :: c :: (a ++ mark :: b)) = none) :
    Rewrite.apply ⟨.anywhere, longSpan mark starts wrap⟩ (s ++ mark :: c :: (a ++ mark :: b)) =
      s ++ (wrap (c :: a) ++ b) := by
  have hbehind : Rewrite.apply ⟨.anywhere, longSpan mark starts wrap⟩ b = b :=
    Rewrite.apply_eq_self_of_passes rfl (longSpan_passes hb starts wrap)
  have hsplit : mark :: c :: (a ++ mark :: b) = mark :: c :: a ++ [mark] ++ b := by simp
  have hmatch : longSpan mark starts wrap (mark :: c :: a ++ [mark] ++ b) = some ⟨wrap (c :: a), b⟩ := by
    rw [← hsplit]
    exact longSpan_span hstarts hmark ha hb
  have hne : mark :: c :: a ++ [mark] ≠ [] := List.cons_ne_nil _ _
  rw [hsplit] at hs ⊢
  exact Rewrite.apply_once (r := ⟨.anywhere, longSpan mark starts wrap⟩) rfl hs hne hmatch hbehind

end

/-! ## The last mark -/

section
variable {c : Char} {l : Text}

theorem exists_isGreatest_getElem? (h : c ∈ l) : ∃ j, IsGreatest {j : Nat | l[j]? = some c} j := by
  have hbound : BddAbove {j : Nat | l[j]? = some c} :=
    ⟨l.length, fun j hj => (List.getElem?_eq_some_iff.mp hj).1.le⟩
  exact hbound.exists_isGreatest_of_nonempty (List.getElem?_of_mem h)

theorem not_mem_drop_of_isGreatest {j : Nat} (hj : IsGreatest {j : Nat | l[j]? = some c} j) : c ∉ l.drop (j + 1) := by
  intro h
  obtain ⟨n, hn⟩ := List.getElem?_of_mem h
  rw [List.getElem?_drop] at hn
  have hle : j + 1 + n ≤ j := hj.2 hn
  omega

end

/-! ## Places where a span can begin -/

inductive LongStyle where
  | bold
  | italic
  | image
deriving DecidableEq

namespace LongStyle

def mark : LongStyle → Char
  | bold => '*'
  | italic => '_'
  | image => '!'

def opening : LongStyle → String
  | bold => "**"
  | italic => "*"
  | image => "![]("

def closing : LongStyle → String
  | bold => "**"
  | italic => "*"
  | image => ")"

def wrap (k : LongStyle) : Text → Text := between k.opening k.closing

def starts : LongStyle → Char → Bool
  | bold => (!isBlank ·)
  | italic => (!isBlank ·)
  | image => (!isLineEnd ·)

def rewrite (k : LongStyle) : Rewrite := ⟨.anywhere, longSpan k.mark k.starts k.wrap⟩

def position : LongStyle → Nat
  | bold => 0
  | italic => 1
  | image => 9

/-- A mark stands at the place and another one behind the character that follows, which is no blank unless
the span is an image. -/
def OpensAt (k : LongStyle) (l : Text) (i : Nat) : Prop :=
  l[i]? = some k.mark ∧ (∃ j, i + 2 ≤ j ∧ l[j]? = some k.mark) ∧
    (k ≠ image → ∀ c ∈ l[i + 1]?, c ∉ "\t\x0c\r ".toList)

theorem opensAt_iff {k : LongStyle} {l : Text} {i : Nat} :
    k.OpensAt l i ↔ l[i]? = some k.mark ∧ k.mark ∈ l.drop (i + 2) ∧
      (k ≠ image → l[i + 1]?.all (· ∉ "\t\x0c\r ".toList)) := by
  have hbehind : (∃ j, i + 2 ≤ j ∧ l[j]? = some k.mark) ↔ k.mark ∈ l.drop (i + 2) := by
    simp [List.mem_iff_getElem?, le_iff_exists_add]
  simp [OpensAt, hbehind, Option.all_eq_true]

instance (k : LongStyle) (l : Text) (i : Nat) : Decidable (k.OpensAt l i) := decidable_of_iff _ opensAt_iff.symm

variable (k : LongStyle) {l : Text}

theorem starts_iff (hl : '\n' ∉ l) {c : Char} (hc : c ∈ l) :
    k.starts c = true ↔ (k ≠ image → c ∉ "\t\x0c\r ".toList) := by
  have hend : c ≠ '\n' := fun h => hl (h ▸ hc)
  rw [← isBlank_iff_of_mem hl hc]
  cases k <;> simp [starts, isLineEnd, hend]

theorem opensAt_of_drop_eq (hl : '\n' ∉ l) {i : Nat} {c : Char} {a b : Text}
    (h : l.drop i = k.mark :: c :: a ++ k.mark :: b) (hc : k.starts c = true) : k.OpensAt l i := by
  have hget (n : Nat) : l[i + n]? = (k.mark :: c :: a ++ k.mark :: b)[n]? := by
    rw [← h, List.getElem?_drop]
  have hmem : c ∈ l := (List.drop_sublist i l).subset (by simp [h])
  refine ⟨hget 0, ⟨i + (a.length + 2), by omega, ?_⟩, fun hk d hd => ?_⟩
  · rw [hget]
    simp
  · have hd' : c = d := by simpa [hget] using hd
    exact hd' ▸ (k.starts_iff hl hmem).mp hc hk

theorem pattern_eq_none (hl : '\n' ∉ l) {i : Nat} (h : ¬ k.OpensAt l i) : k.rewrite.pattern (l.drop i) = none := by
  rw [Option.eq_none_iff_forall_ne_some]
  intro m hm
  obtain ⟨c, span, hdrop, hc, -⟩ := longSpan_eq_some hm
  exact h (k.opensAt_of_drop_eq hl hdrop hc)

theorem pattern_eq_none_before (hl : '\n' ∉ l) {i : Nat} (hi : ∀ n < i, ¬ k.OpensAt l n) {u : Text} (hu : u ≠ [])
    (hs : u <:+ l.take i) : k.rewrite.pattern (u ++ l.drop i) = none := by
  obtain ⟨t, ht⟩ := hs
  have hlen : t.length < i := by
    have hle : (t ++ u).length ≤ i := ht ▸ List.length_take_le i l
    have hpos := List.length_pos_iff.mpr hu
    rw [List.length_append] at hle
    omega
  have hsplit : l = t ++ (u ++ l.drop i) := by rw [← List.append_assoc, ht, List.take_append_drop]
  have hnone := k.pattern_eq_none hl (hi t.length hlen)
  rwa [hsplit, List.drop_left] at hnone

theorem drop_eq_of_opensAt (hl : '\n' ∉ l) {i j : Nat} (h : k.OpensAt l i)
    (hj : IsGreatest {j | l[j]? = some k.mark} j) :
    ∃ c a, k.starts c = true ∧ (l.take j).drop (i + 1) = c :: a ∧
      l.drop i = k.mark :: c :: (a ++ k.mark :: l.drop (j + 1)) := by
  obtain ⟨hi, ⟨n, hn, hmark⟩, hc⟩ := h
  have hle : n ≤ j := hj.2 hmark
  have hlt : i + 1 < l.length := by
    have hlast := (List.getElem?_eq_some_iff.mp hj.1).1
    omega
  have hnext : l[i + 1]? = some l[i + 1] := List.getElem?_eq_getElem hlt
  have hfirst : (l.take j).drop i = k.mark :: (l.take j).drop (i + 1) := by
    apply drop_eq_of_getElem?
    rwa [List.getElem?_take_of_lt (by omega)]
  have hspan : (l.take j).drop (i + 1) = l[i + 1] :: (l.take j).drop (i + 2) := by
    apply drop_eq_of_getElem?
    rwa [List.getElem?_take_of_lt (by omega)]
  have hsplit : l.drop i = (l.take j).drop i ++ l.drop j := by
    rw [← List.drop_append_of_le_length (by simp; omega), List.take_append_drop]
  refine ⟨l[i + 1], _, (k.starts_iff hl (List.getElem_mem hlt)).mpr fun hk => hc hk _ hnext, hspan, ?_⟩
  rw [hsplit, hfirst, hspan, drop_eq_of_getElem? hj.1]
  rfl

theorem apply_eq (hl : '\n' ∉ l) {i j : Nat} (hi : IsLeast {i | k.OpensAt l i} i)
    (hj : IsGreatest {j | l[j]? = some k.mark} j) :
    k.rewrite.apply l = l.take i ++ (k.wrap ((l.take j).drop (i + 1)) ++ l.drop (j + 1)) := by
  obtain ⟨c, a, hc, hspan, hdrop⟩ := k.drop_eq_of_opensAt hl hi.1 hj
  have hmark : k.mark ≠ '\n' := by cases k <;> decide
  have ha : '\n' ∉ a := fun h => hl ((List.drop_sublist i l).subset (by simp [hdrop, h]))
  have hbefore : ∀ u, u ≠ [] → u <:+ l.take i →
      k.rewrite.pattern (u ++ k.mark :: c :: (a ++ k.mark :: l.drop (j + 1))) = none := by
    intro u hu hs
    rw [← hdrop]
    exact k.pattern_eq_none_before hl (fun n hn hopens => (hi.2 hopens).not_gt hn) hu hs
  have h := longSpan_apply_span hc hmark ha (not_mem_drop_of_isGreatest hj) hbefore
  rw [← hdrop, List.take_append_drop] at h
  rw [hspan]
  exact h

theorem apply_eq_self (hl : '\n' ∉ l) (h : ∀ i, ¬ k.OpensAt l i) : k.rewrite.apply l = l := by
  refine Rewrite.apply_eq_self fun s hs => ?_
  obtain ⟨t, rfl⟩ := hs
  have hnone := k.pattern_eq_none hl (h t.length)
  rwa [List.drop_left] at hnone

/-! ## The line in the chain of styles -/

def marks : LongStyle → String
  | bold => "*"
  | italic => "_"
  | image => "!"

def marksBehind : LongStyle → String
  | bold => "*"
  | italic => "_*"
  | image => "![]"

theorem newline_not_mem (hl : Marked k.marks l) : '\n' ∉ l := hl.not_mem (by cases k <;> decide)

theorem marked_apply (hl : Marked k.marks l) : Marked k.marksBehind (k.rewrite.apply l) := by
  have hmarks : k.marks.toList ⊆ k.marksBehind.toList := by cases k <;> decide
  have hwritten : Marked k.marksBehind (k.opening ++ k.closing).toList := by cases k <;> decide
  have hrespells : k.rewrite.pattern.Respells (Swaps (String.singleton k.mark) (k.opening ++ k.closing)) := by
    refine longSpan_respells (by simp) (by simp) ?_ ?_ k.starts
    · cases k <;> decide
    · cases k <;> decide
  exact (hl.mono hmarks).apply hrespells hwritten

theorem inlineStyles_eq (hl : Marked k.marks l) :
    inlineStyles l = Rewrite.apply ⟨.textStart, blockquote⟩ (k.rewrite.apply l) := by
  refine inlineStyles_of_marked (i := k.position) ?_ hl (k.marked_apply hl) ?_ ?_
  · cases k <;> rfl
  · cases k <;> decide
  · cases k <;> decide

theorem not_quote {i : Nat} (hi : l[i]? = some k.mark) (hquote : ¬ "bq.".toList <+: l) (span rest : Text) :
    ¬ "bq.".toList <+: l.take i ++ (k.wrap span ++ rest) := by
  have hsplit : l = l.take i ++ k.mark :: l.drop (i + 1) := by
    rw [← drop_eq_of_getElem? hi, List.take_append_drop]
  rw [hsplit] at hquote
  cases k with
  | bold => exact not_quote_of_append (c := '*') (by decide) (by decide) hquote
  | italic => exact not_quote_of_append (c := '_') (by decide) (by decide) hquote
  | image => exact not_quote_of_append (c := '!') (by decide) (by decide) hquote

end LongStyle

/-- At most one span of a line is rewritten: it reaches from the first place where one can begin to the last mark. -/
theorem inlineStyles_longSpan (k : LongStyle) {l : Text} (hl : Marked k.marks l) (hquote : ¬ "bq.".toList <+: l) :
    (∀ i, ¬ k.OpensAt l i) ∧ inlineStyles l = l ∨
      ∃ i j, IsLeast {i | k.OpensAt l i} i ∧ IsGreatest {j | l[j]? = some k.mark} j ∧
        inlineStyles l = l.take i ++ (k.wrap ((l.take j).drop (i + 1)) ++ l.drop (j + 1)) := by
  have hline := k.newline_not_mem hl
  rcases Set.eq_empty_or_nonempty {i | k.OpensAt l i} with hnone | hsome
  · left
    have hopens : ∀ i, ¬ k.OpensAt l i := fun i hi => Set.notMem_empty i (hnone ▸ hi)
    refine ⟨hopens, ?_⟩
    rw [k.inlineStyles_eq hl, k.apply_eq_self hline hopens, blockquote_apply_eq_self hquote]
  · right
    obtain ⟨i, hi⟩ := (OrderBot.bddBelow _).exists_isLeast_of_nonempty hsome
    obtain ⟨j, hj⟩ := exists_isGreatest_getElem? (List.mem_of_getElem? hi.1.1)
    refine ⟨i, j, hi, hj, ?_⟩
    rw [k.inlineStyles_eq hl, k.apply_eq hline hi hj, blockquote_apply_eq_self (k.not_quote hi.1.1 hquote _ _)]

theorem inlineStyles_longSpan_nested :
    let l := "* a *b c** d".toList
    Marked "*" l ∧ ¬ "bq.".toList <+: l ∧ IsLeast {i | LongStyle.bold.OpensAt l i} 4 ∧
      inlineStyles l = "* a **b c*** d".toList := by
  intro l
  have hl : Marked "*" l := by decide
  have hquote : ¬ "bq.".toList <+: l := by decide
  have hi : IsLeast {i | LongStyle.bold.OpensAt l i} 4 := by
    have hopens : LongStyle.bold.OpensAt l 4 := by decide
    have hnone : ∀ i < 4, ¬ LongStyle.bold.OpensAt l i := by decide
    exact ⟨hopens, fun i hi => not_lt.mp fun hlt => hnone i hlt hi⟩
  have hj : IsGreatest {j : Nat | l[j]? = some LongStyle.bold.mark} 9 := by
    have hlast : ∀ j < l.length, l[j]? = some LongStyle.bold.mark → j ≤ 9 := by decide
    exact ⟨rfl, fun j hj => hlast j (List.getElem?_eq_some_iff.mp hj).1 hj⟩
  rcases inlineStyles_longSpan .bold hl hquote with ⟨hnone, -⟩ | ⟨i, j, hi', hj', hstyles⟩
  · exact absurd hi.1 (hnone 4)
  · obtain rfl := hi'.unique hi
    obtain rfl := hj'.unique hj
    exact ⟨hl, hquote, hi, hstyles⟩

end JiraMarkup
