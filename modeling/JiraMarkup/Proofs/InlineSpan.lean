import JiraMarkup.Inline
import JiraMarkup.Proofs.PanelSpan
import Mathlib.Data.List.Infix
import Mathlib.Data.Option.Basic

/-!
# Inline spans

What each inline style takes out of a line and puts in its place. All but the
last two write something wherever they drop something; those two only drop.
-/

namespace JiraMarkup

/-! ## Spans between two marks -/

theorem longSpan_eq_some {mark : Char} {starts : Char → Bool} {wrap : Text → Text} {t : Text} {m : Match}
    (h : longSpan mark starts wrap t = some m) :
    ∃ c span, t = mark :: c :: span ++ mark :: m.rest ∧ starts c = true ∧ m.output = wrap (c :: span) := by
  unfold longSpan at h
  split at h
  · split at h
    · rename_i c t hg
      simp only [Bool.and_eq_true, decide_eq_true_eq] at hg
      obtain ⟨⟨span, rest⟩, hs, rfl⟩ := Option.map_eq_some_iff.mp h
      obtain ⟨rfl, -⟩ := breakLast?_eq_some hs
      exact ⟨c, span, by simp [hg.1], hg.2, rfl⟩
    · cases h
  · cases h

theorem longSpan_span {mark c : Char} {starts : Char → Bool} {wrap : Text → Text} {a b : Text}
    (hstarts : starts c = true) (hmark : mark ≠ '\n') (ha : '\n' ∉ a) (hb : mark ∉ b) :
    longSpan mark starts wrap (mark :: c :: (a ++ mark :: b)) = some ⟨wrap (c :: a), b⟩ := by
  have hbreak : breakLast? isLineEnd (String.singleton mark) (a ++ mark :: b) = some (a, b) := by
    have hlast : isLineEnd mark = false := beq_eq_false_iff_ne.mpr hmark
    have hb' : ¬ (String.singleton mark).toList <:+: [] ++ b := by
      rwa [String.toList_singleton, List.nil_append, List.singleton_infix_iff]
    have h := breakLast?_append (String.toList_singleton mark) hlast (isLineEnd_of_not_mem ha) hb'
    simpa using h
  simp [longSpan, hstarts, hbreak]

theorem shortSpan_eq_some {mark : Char} {wrap : Text → Text} {t : Text} {m : Match}
    (h : shortSpan mark wrap t = some m) :
    ∃ span, t = mark :: span ++ mark :: m.rest ∧ mark ∉ span ∧ m.output = wrap span := by
  unfold shortSpan at h
  split at h
  · split at h
    · rename_i t hm
      obtain ⟨rest, hr, rfl⟩ := Option.map_eq_some_iff.mp h
      refine ⟨t.takeWhile (· != mark), ?_, fun hmem => ?_, rfl⟩
      · have hd := after?_eq_some_iff.mp hr
        rw [String.toList_singleton] at hd
        rw [hm, List.cons_append, show mark :: rest = t.dropWhile (· != mark) from hd.symm,
          List.takeWhile_append_dropWhile]
      · simpa using List.mem_takeWhile_imp hmem
    · cases h
  · cases h

theorem shortSpan_span {mark : Char} {wrap : Text → Text} {span : Text} (h : mark ∉ span) (t : Text) :
    shortSpan mark wrap (mark :: (span ++ mark :: t)) = some ⟨wrap span, t⟩ := by
  obtain ⟨htake, hdrop⟩ := takeWhile_append_mark h t
  have hafter : after? (String.singleton mark) (mark :: t) = some t := by
    rw [after?_eq_some_iff, String.toList_singleton]
    rfl
  simp [shortSpan, htake, hdrop, hafter]

theorem wrapped_respelled {dropped written opening closing : String} {o c : Text} (span : Text)
    (ho : ∀ d ∈ o ++ c, d ∈ dropped.toList)
    (hw : ∀ d ∈ opening.toList ++ closing.toList, d ∈ written.toList)
    (hopening : opening.toList ≠ []) (hclosing : closing.toList ≠ []) :
    Respelled (Swaps dropped written) (o ++ span ++ c) (between opening closing span) :=
  ((Respelled.of_swap ⟨fun d hd => ho d (List.mem_append_left _ hd), hopening,
    fun d hd => hw d (List.mem_append_left _ hd)⟩).append (.refl _ span)).append
      (.of_swap ⟨fun d hd => ho d (List.mem_append_right _ hd), hclosing,
        fun d hd => hw d (List.mem_append_right _ hd)⟩)

section
variable {mark : Char} {dropped written opening closing : String} (hm : mark ∈ dropped.toList)
  (hw : ∀ d ∈ opening.toList ++ closing.toList, d ∈ written.toList)
  (hopening : opening.toList ≠ []) (hclosing : closing.toList ≠ [])
include hm hw hopening hclosing

theorem longSpan_respells (starts : Char → Bool) :
    (longSpan mark starts (between opening closing)).Respells (Swaps dropped written) := by
  intro t m h
  obtain ⟨c, span, ht, -, ho⟩ := longSpan_eq_some h
  refine ⟨[mark] ++ (c :: span) ++ [mark], by simp, by simp [ht], ho ▸ ?_⟩
  exact wrapped_respelled _ (by simpa using hm) hw hopening hclosing

theorem shortSpan_respells :
    (shortSpan mark (between opening closing)).Respells (Swaps dropped written) := by
  intro t m h
  obtain ⟨span, ht, -, ho⟩ := shortSpan_eq_some h
  refine ⟨[mark] ++ span ++ [mark], by simp, by simp [ht], ho ▸ ?_⟩
  exact wrapped_respelled _ (by simpa using hm) hw hopening hclosing

end

theorem monospace_eq_some {t : Text} {m : Match} (h : monospace t = some m) :
    ∃ span, span ≠ [] ∧ '}' ∉ span ∧ t = "\x7b\x7b".toList ++ span ++ "\x7d\x7d".toList ++ m.rest ∧
      m.output = between "`" "`" span := by
  simp only [monospace, Option.bind_eq_bind, Option.bind_eq_some_iff, Option.guard_eq_some',
    Option.pure_def, Option.some.injEq] at h
  obtain ⟨inner, hi, -, hne, rest, hr, rfl⟩ := h
  refine ⟨inner.takeWhile (· != '}'), by simpa using hne, fun hm => ?_, ?_, rfl⟩
  · simpa using List.mem_takeWhile_imp hm
  · rw [after?_eq_some_iff.mp hi, List.append_assoc, List.append_assoc, ← after?_eq_some_iff.mp hr,
      List.takeWhile_append_dropWhile]

theorem monospace_span {span : Text} (hne : span ≠ []) (hbrace : '}' ∉ span) (t : Text) :
    monospace (between "\x7b\x7b" "\x7d\x7d" span ++ t) = some ⟨between "`" "`" span, t⟩ := by
  have hsplit : between "\x7b\x7b" "\x7d\x7d" span ++ t = "\x7b\x7b".toList ++ (span ++ '}' :: '}' :: t) := by
    simp [between]
  obtain ⟨htake, hdrop⟩ := takeWhile_append_mark hbrace ('}' :: t)
  have hafter : after? "\x7d\x7d" ('}' :: '}' :: t) = some t := after?_append "\x7d\x7d" t
  have hguard : guard (!span.isEmpty) = some () := by simp [hne, guard]
  rw [hsplit]
  simp only [monospace, Option.bind_eq_bind, after?_append, Option.bind_some, htake, hguard, hdrop, hafter]
  rfl

theorem monospace_respells : Pattern.Respells (Swaps "\x7b\x7d" "`") monospace := by
  intro t m h
  obtain ⟨span, -, -, ht, ho⟩ := monospace_eq_some h
  exact ⟨_, by simp, ht, ho ▸ wrapped_respelled _ (by decide) (by decide) (by decide) (by decide)⟩

/-! ## Struck text -/

theorem struckEnd?_eq_some {t a rest : Text} (h : struckEnd? t = some (a, rest)) :
    t = a ++ '-' :: rest := by
  fun_induction struckEnd? t generalizing a with
  | case1 c b t hcb =>
    simp only [Option.some.injEq, Prod.mk.injEq] at h
    obtain ⟨rfl, rfl⟩ := h; rfl
  | case2 => cases h
  | case3 c b t _ _ ih =>
    obtain ⟨⟨a', r⟩, ha, he⟩ := Option.map_eq_some_iff.mp h
    simp only [Prod.mk.injEq] at he
    obtain ⟨rfl, rfl⟩ := he
    rw [ih ha]; rfl
  | case4 => cases h
  | case5 c t _ _ ih =>
    obtain ⟨⟨a', r⟩, ha, he⟩ := Option.map_eq_some_iff.mp h
    simp only [Prod.mk.injEq] at he
    obtain ⟨rfl, rfl⟩ := he
    rw [ih ha]; rfl
  | case6 => cases h

theorem struck?_eq_some {t span behind : Text} (h : struck? t = some (span, behind)) :
    t = span ++ '-' :: behind := by
  simp only [struck?] at h
  split at h
  · cases h
  · split at h
    · rename_i more rest hs
      simp only [Option.some.injEq, Prod.mk.injEq] at h
      obtain ⟨rfl, rfl⟩ := h
      rw [List.append_assoc, ← struckEnd?_eq_some hs, List.takeWhile_append_dropWhile]
    · split at h
      · rename_i hg
        simp only [Bool.and_eq_true, beq_iff_eq] at hg
        simp only [Option.some.injEq, Prod.mk.injEq] at h
        obtain ⟨rfl, rfl⟩ := h
        obtain ⟨word, hword⟩ := List.getLast?_eq_some_iff.mp hg.1.2
        conv_lhs => rw [← List.takeWhile_append_dropWhile (p := (!isBlank ·)) (l := t), hword]
        rw [hword, List.dropLast_concat, List.append_assoc]; rfl
      · cases h

theorem struckEnd?_cons_isSome {c : Char} {t : Text} (hc : c ≠ '\n') (h : (struckEnd? t).isSome = true) :
    (struckEnd? (c :: t)).isSome = true := by
  rw [struckEnd?.eq_def]
  split
  · rename_i d b u he
    obtain ⟨rfl, rfl⟩ := List.cons.inj he
    split
    · rfl
    · simpa [hc] using h
  · rename_i d u _ he
    obtain ⟨rfl, rfl⟩ := List.cons.inj he
    simpa [hc] using h
  · rename_i he
    cases he

theorem struckEnd?_isSome {a t : Text} {c b : Char} (ha : '\n' ∉ a) (hc : isBlank c = false)
    (hb : isBlank b = true) : (struckEnd? (a ++ c :: '-' :: b :: t)).isSome = true := by
  induction a with
  | nil => simp [struckEnd?, hc, hb]
  | cons d a ih =>
    rw [List.mem_cons, not_or] at ha
    exact struckEnd?_cons_isSome (Ne.symm ha.1) (ih ha.2)

/-- The first word ends at its dash only if no later dash ends the struck text. -/
theorem struck?_word {w t : Text} {b : Char} (hw : ∀ c ∈ w, isBlank c = false) (hlen : 2 ≤ w.length)
    (hb : isBlank b = true) : struck? (w ++ '-' :: b :: t) =
      match struckEnd? (b :: t) with
      | some (more, rest) => some (w ++ '-' :: more, rest)
      | none => some (w, b :: t) := by
  have hword : ∀ c ∈ w ++ ['-'], (!isBlank c) = true := by
    intro c hc
    rcases List.mem_append.mp hc with hc | hc
    · rw [hw c hc]; rfl
    · rw [List.mem_singleton.mp hc]; rfl
  have hsplit : w ++ '-' :: b :: t = (w ++ ['-']) ++ b :: t := by simp
  have hblank : ∀ c ∈ (b :: t).head?, (!isBlank c) = false := by simp [hb]
  obtain ⟨htake, hdrop⟩ := takeWhile_append_boundary hword hblank
  rw [← hsplit] at htake hdrop
  simp only [struck?, htake, hdrop]
  cases struckEnd? (b :: t) with
  | none => simp [hlen]
  | some p => simp

theorem struckEnd?_span {a t : Text} {c b : Char} (ha : '-' ∉ a ∧ '\n' ∉ a) (hdash : c ≠ '-')
    (hc : isBlank c = false) (hb : isBlank b = true) :
    struckEnd? (a ++ c :: '-' :: b :: t) = some (a ++ [c], b :: t) := by
  induction a with
  | nil => simp [struckEnd?, hc, hb]
  | cons d a ih =>
    simp only [List.mem_cons, not_or] at ha
    have hrest := ih ⟨ha.1.2, ha.2.2⟩
    obtain ⟨e, u, he, hne⟩ : ∃ e u, a ++ c :: '-' :: b :: t = e :: u ∧ e ≠ '-' := by
      cases a with
      | nil => exact ⟨c, _, rfl, hdash⟩
      | cons e a => exact ⟨e, _, rfl, fun h => ha.1.2 (by simp [h])⟩
    rw [he] at hrest
    rw [List.cons_append, he]
    simp [struckEnd?, hne, Ne.symm ha.2.1, hrest]

theorem struck?_span {w t : Text} {b : Char} (hw : '-' ∉ w ∧ '\n' ∉ w) (hlen : 2 ≤ w.length)
    (hhead : ∀ c ∈ w.head?, isBlank c = false) (hlast : ∀ c ∈ w.getLast?, isBlank c = false)
    (hb : isBlank b = true) (ht : '-' ∉ t) : struck? (w ++ '-' :: b :: t) = some (w, b :: t) := by
  by_cases hword : ∀ c ∈ w, isBlank c = false
  · have hend : struckEnd? (b :: t) = none := by
      rw [Option.eq_none_iff_forall_ne_some]
      rintro ⟨more, rest⟩ h
      have hdash : '-' ∈ b :: t := struckEnd?_eq_some h ▸ List.mem_append_right more List.mem_cons_self
      rcases List.mem_cons.mp hdash with rfl | hdash
      · cases hb
      · exact ht hdash
    rw [struck?_word hword hlen hb, hend]
  · -- The text has several words, and the dash closes the last of them.
    have hblank : ∃ c ∈ w, isBlank c = true := by simpa using hword
    obtain ⟨e, he⟩ := Option.isSome_iff_exists.mp (List.find?_isSome.mpr hblank)
    obtain ⟨heb, x, y, rfl, hx⟩ := List.find?_eq_some_iff_append.mp he
    have hne : x ≠ [] := by
      rintro rfl
      have := hhead e rfl
      rw [heb] at this
      cases this
    obtain ⟨a, c, hac⟩ : ∃ a c, e :: y = a ++ [c] := ⟨_, _, (List.dropLast_concat_getLast (by simp)).symm⟩
    have hc : isBlank c = false := hlast c (by rw [hac]; simp)
    simp only [hac, List.mem_append, List.mem_singleton, not_or] at hw
    have hstop : (!isBlank e) = false := by rw [heb]; rfl
    have htake : (x ++ e :: y ++ '-' :: b :: t).takeWhile (!isBlank ·) = x := by
      rw [List.append_assoc, List.cons_append, takeWhile_append_stop hstop, List.takeWhile_eq_self_iff]
      exact hx
    have hdrop : (x ++ e :: y ++ '-' :: b :: t).dropWhile (!isBlank ·) = a ++ c :: '-' :: b :: t := by
      rw [List.append_assoc, List.cons_append, dropWhile_append_stop hstop, List.dropWhile_eq_nil_iff.mpr hx,
        List.nil_append, ← List.cons_append, hac]
      simp
    have hend := struckEnd?_span (t := t) ⟨hw.1.2.1, hw.2.2.1⟩ (Ne.symm hw.1.2.2) hc hb
    simp only [struck?, htake, hdrop, hend]
    simp [hne, hac]

/-- The blanks in front of the opening dash and behind the closing one are read with the span. -/
theorem strikethrough_of_blanks {before t span behind : Text} (hne : before ≠ [])
    (hblank : ∀ c ∈ before, isBlank c = true) (h : struck? t = some (span, behind)) :
    strikethrough (before ++ '-' :: t) = some ⟨before ++ between "~~" "~~" span ++ behind.takeWhile isBlank,
      behind.dropWhile isBlank⟩ := by
  have hdash : ∀ c ∈ ('-' :: t).head?, isBlank c = false := by simp [isBlank]
  obtain ⟨htake, hdrop⟩ := takeWhile_append_boundary hblank hdash
  have hafter : after? "-" ('-' :: t) = some t := after?_append "-" t
  have hguard : guard (!before.isEmpty) = some () := by simp [hne, guard]
  simp only [strikethrough, htake, Option.bind_eq_bind, hguard, hdrop, hafter, Option.bind_some, h]
  rfl

theorem strikethrough_of_struck {t span behind : Text} (h : struck? t = some (span, behind)) :
    strikethrough (' ' :: '-' :: t) = some ⟨' ' :: between "~~" "~~" span ++ behind.takeWhile isBlank,
      behind.dropWhile isBlank⟩ := by
  have hblank : ∀ c ∈ [' '], isBlank c = true := by simp [isBlank]
  exact strikethrough_of_blanks (by simp) hblank h

theorem strikethrough_eq_some {t : Text} {m : Match} (h : strikethrough t = some m) :
    ∃ before span after, before ≠ [] ∧ t = before ++ "-".toList ++ span ++ "-".toList ++ after ++ m.rest ∧
      m.output = before ++ between "~~" "~~" span ++ after := by
  simp only [strikethrough, Option.bind_eq_bind, Option.bind_eq_some_iff, Option.guard_eq_some',
    Option.pure_def, Option.some.injEq] at h
  obtain ⟨-, hne, inner, hi, ⟨span, behind⟩, hs, rfl⟩ := h
  refine ⟨t.takeWhile isBlank, span, behind.takeWhile isBlank, by simpa using hne, ?_, rfl⟩
  conv_lhs => rw [← List.takeWhile_append_dropWhile (p := isBlank) (l := t), after?_eq_some_iff.mp hi,
    struck?_eq_some hs, ← List.takeWhile_append_dropWhile (p := isBlank) (l := behind)]
  simp

theorem strikethrough_append_eq_none {u t : Text} (hdash : '-' ∉ u) (hu : ∃ c ∈ u, isBlank c = false) :
    strikethrough (u ++ t) = none := by
  have hne : u.dropWhile isBlank ≠ [] := by
    intro h
    obtain ⟨c, hc, hb⟩ := hu
    have hb' := List.dropWhile_eq_nil_iff.mp h c hc
    rw [hb] at hb'
    cases hb'
  obtain ⟨c, v, hcv⟩ := List.exists_cons_of_ne_nil hne
  have hdrop : (u ++ t).dropWhile isBlank = c :: v ++ t := by
    rw [List.dropWhile_append, hcv]
    rfl
  have hcu : c ∈ u := (List.dropWhile_suffix isBlank).subset (hcv ▸ List.mem_cons_self)
  have hafter : after? "-" (c :: v ++ t) = none := by
    rw [after?_eq_none_iff]
    intro hp
    have hc : '-' = c := (List.cons_prefix_cons.mp hp).1
    exact hdash (hc ▸ hcu)
  simp only [strikethrough, Option.bind_eq_bind, hdrop, hafter]
  simp

theorem strikethrough_respells : Pattern.Respells (Swaps "-" "~") strikethrough := by
  intro t m h
  obtain ⟨before, span, after, hne, ht, ho⟩ := strikethrough_eq_some h
  refine ⟨before ++ ("-".toList ++ span ++ "-".toList) ++ after, by simp [hne], by simp [ht], ho ▸ ?_⟩
  exact ((Respelled.refl _ before).append
    (wrapped_respelled span (by decide) (by decide) (by decide) (by decide))).append (.refl _ after)

/-! ## Single marks and links -/

theorem preformatted_respells : Pattern.Respells (Swaps "\x7bnoformat\x7d" "`") preformatted := by
  intro t m h
  obtain ⟨rest, hr, rfl⟩ := Option.map_eq_some_iff.mp h
  exact ⟨_, by simp, after?_eq_some_iff.mp hr, .of_swap ⟨by decide, by simp, by simp⟩⟩

theorem unnamedLink_eq_some {t : Text} {m : Match} (h : unnamedLink t = some m) :
    ∃ span, span ≠ [] ∧ t = "[".toList ++ span ++ "]".toList ++ m.rest ∧
      m.output = between "<" ">" span := by
  unfold unnamedLink at h
  split at h
  · rename_i c t
    split at h
    · cases h
    · obtain ⟨⟨span, rest⟩, hs, rfl⟩ := Option.map_eq_some_iff.mp h
      obtain ⟨rfl, -⟩ := breakLast?_eq_some hs
      exact ⟨c :: span, by simp, rfl, rfl⟩
  · cases h

theorem unnamedLink_span_of_none {c : Char} {a b : Text} (hc : c ≠ '|') (ha : '|' ∉ a)
    (hb : breakLast? (· == '|') "]" b = none) :
    unnamedLink ('[' :: c :: (a ++ ']' :: b)) = some ⟨between "<" ">" (c :: a), b⟩ := by
  have hstop : ∀ d ∈ a, (d == '|') = false := fun d hd =>
    beq_eq_false_iff_ne.mpr fun (he : d = '|') => ha (he ▸ hd)
  have hbracket : ((fun d => d == '|') ']') = false := rfl
  have hbreak : breakLast? (· == '|') "]" (a ++ ']' :: b) = some (a, b) := by
    have h : breakLast? (· == '|') "]" (a ++ "]".toList ++ b) = some (a, b) :=
      breakLast?_append_of_none rfl hbracket hstop hb
    simpa using h
  simp [unnamedLink, hc, hbreak]

theorem unnamedLink_span {c : Char} {a b : Text} (hc : c ≠ '|') (ha : '|' ∉ a) (hb : ']' ∉ b) :
    unnamedLink ('[' :: c :: (a ++ ']' :: b)) = some ⟨between "<" ">" (c :: a), b⟩ := by
  have hnone : breakLast? (· == '|') "]" (b ++ []) = none := breakLast?_eq_none_append rfl hb rfl
  rw [List.append_nil] at hnone
  exact unnamedLink_span_of_none hc ha hnone

/-- A bar in front of any closing bracket leaves the link to the style of links with a name. -/
theorem unnamedLink_eq_none {name : Text} (h : ']' ∉ name) (t : Text) :
    unnamedLink ('[' :: (name ++ '|' :: t)) = none := by
  cases name with
  | nil => rfl
  | cons c name =>
    rw [List.mem_cons, not_or] at h
    have hbreak : breakLast? (· == '|') "]" (name ++ '|' :: t) = none := breakLast?_eq_none_append rfl h.2 rfl
    simp [unnamedLink, hbreak]

theorem unnamedLink_respells : Pattern.Respells (Swaps "[]" "<>") unnamedLink := by
  intro t m h
  obtain ⟨span, -, ht, ho⟩ := unnamedLink_eq_some h
  exact ⟨_, by simp, ht, ho ▸ wrapped_respelled _ (by decide) (by decide) (by decide) (by decide)⟩

theorem namedLink_eq_some {t : Text} {m : Match} (h : namedLink t = some m) :
    ∃ name target, name ≠ [] ∧ target ≠ [] ∧
      t = "[".toList ++ name ++ "|".toList ++ target ++ "]".toList ++ m.rest ∧
      m.output = between "[" "](" name ++ target ++ [')'] := by
  unfold namedLink at h
  split at h
  · rename_i c t
    split at h
    · cases h
    · split at h
      · rename_i name d target hn
        split at h
        · cases h
        · obtain ⟨⟨more, rest⟩, hs, rfl⟩ := Option.map_eq_some_iff.mp h
          obtain ⟨rfl, -⟩ := breakFirst?_eq_some hn
          obtain ⟨rfl, -⟩ := breakLast?_eq_some hs
          exact ⟨c :: name, d :: more, by simp, by simp, by simp, by simp [between]⟩
      · cases h
  · cases h

theorem namedLink_span {c d : Char} {name target rest : Text} (hc : c ≠ '\n') (hd : d ≠ '\n')
    (hbar : '|' ∉ name) (hname : '\n' ∉ name) (htarget : '\n' ∉ target) (hrest : ']' ∉ rest) :
    namedLink ('[' :: c :: (name ++ '|' :: d :: (target ++ ']' :: rest))) =
      some ⟨between "[" "]" (c :: name) ++ between "(" ")" (d :: target), rest⟩ := by
  have hfirst (t : Text) : breakFirst? isLineEnd "|" (name ++ '|' :: t) = some (name, t) := by
    have hbar' : ¬ "|".toList <:+: name := (List.singleton_infix_iff '|' name).not.mpr hbar
    have h : breakFirst? isLineEnd "|" (name ++ "|".toList ++ t) = some (name, t) :=
      breakFirst?_append_of_absent (isLineEnd_of_not_mem hname) rfl List.not_mem_nil hbar'
    simpa using h
  have hlast : breakLast? isLineEnd "]" (target ++ ']' :: rest) = some (target, rest) := by
    have hrest' : ¬ "]".toList <:+: [] ++ rest := (List.singleton_infix_iff ']' rest).not.mpr hrest
    have hbracket : isLineEnd ']' = false := rfl
    have h : breakLast? isLineEnd "]" (target ++ "]".toList ++ rest) = some (target, rest) :=
      breakLast?_append rfl hbracket (isLineEnd_of_not_mem htarget) hrest'
    simpa using h
  simp [namedLink, hc, hd, hfirst, hlast]

theorem namedLink_respells : Pattern.Respells (Swaps "[|]" "[]()") namedLink := by
  intro t m h
  obtain ⟨name, target, -, -, ht, ho⟩ := namedLink_eq_some h
  refine ⟨_, by simp, ht, ho ▸ ?_⟩
  have hname : Respelled (Swaps "[|]" "[]()") ("[".toList ++ name ++ "|".toList) (between "[" "](" name) :=
    wrapped_respelled name (by decide) (by decide) (by decide) (by decide)
  exact (hname.append (.refl _ target)).append (.of_swap ⟨by decide, by simp, by decide⟩)

theorem blockquote_eq_some {t : Text} {m : Match} (h : blockquote t = some m) :
    ∃ blanks, blanks ≠ [] ∧ (∀ c ∈ blanks, isBlank c = true) ∧ t = "bq.".toList ++ blanks ++ m.rest ∧
      m.output = "> ".toList := by
  simp only [blockquote, Option.bind_eq_bind, Option.bind_eq_some_iff, Option.guard_eq_some',
    Option.pure_def, Option.some.injEq] at h
  obtain ⟨behind, hb, -, hblank, rfl⟩ := h
  refine ⟨behind.takeWhile isBlank, ?_, fun c hc => List.mem_takeWhile_imp hc, ?_, rfl⟩
  · cases behind with
    | nil => simp at hblank
    | cons c behind =>
      have hc : isBlank c = true := by simpa using hblank
      simp [hc]
  · rw [List.append_assoc, List.takeWhile_append_dropWhile]
    exact after?_eq_some_iff.mp hb

theorem blockquote_respells : Pattern.Respells (Swaps "bq. \t\n\x0c\r" "> ") blockquote := by
  intro t m h
  obtain ⟨blanks, -, hb, ht, ho⟩ := blockquote_eq_some h
  refine ⟨_, by simp, ht, ho ▸ .of_swap ⟨fun c hc => ?_, by simp, by decide⟩⟩
  rcases List.mem_append.mp hc with hc | hc
  · exact (show ∀ c ∈ "bq.".toList, c ∈ "bq. \t\n\x0c\r".toList by decide) c hc
  · have := isBlank_iff.mp (hb c hc)
    simp at this ⊢; tauto

/-! ## Spans of which only a part is left -/

theorem color_eq_some {t : Text} {m : Match} (h : color t = some m) :
    ∃ name, name ≠ [] ∧ t = "\x7bcolor:".toList ++ name ++ "\x7d".toList ++ m.output ++
      "\x7bcolor\x7d".toList ++ m.rest := by
  simp only [color, Option.bind_eq_bind, Option.bind_eq_some_iff, Option.guard_eq_some',
    Option.pure_def, Option.some.injEq] at h
  obtain ⟨name, hn, -, hne, inner, hi, ⟨span, rest⟩, hs, rfl⟩ := h
  obtain ⟨rfl, -⟩ := breakLast?_eq_some hs
  refine ⟨name.takeWhile (· != '}'), by simpa using hne, ?_⟩
  conv_lhs => rw [after?_eq_some_iff.mp hn, ← List.takeWhile_append_dropWhile (p := (· != '}')) (l := name),
    after?_eq_some_iff.mp hi]
  simp

theorem color_span {name span rest : Text} (hne : name ≠ []) (hname : '}' ∉ name) (hspan : '\n' ∉ span)
    (hrest : '{' ∉ rest) :
    color ("\x7bcolor:".toList ++ (name ++ '}' :: (span ++ "\x7bcolor\x7d".toList ++ rest))) =
      some ⟨span, rest⟩ := by
  have hlast : breakLast? isLineEnd "\x7bcolor\x7d" (span ++ "\x7bcolor\x7d".toList ++ rest) =
      some (span, rest) := by
    have habsent : ¬ "\x7bcolor\x7d".toList <:+: "color\x7d".toList ++ rest := by
      intro h
      have hm : '{' ∈ "color\x7d".toList ++ rest := h.subset (by decide)
      simp [hrest] at hm
    have hbrace : isLineEnd '{' = false := rfl
    exact breakLast?_append rfl hbrace (isLineEnd_of_not_mem hspan) habsent
  obtain ⟨htake, hdrop⟩ := takeWhile_append_mark hname (span ++ "\x7bcolor\x7d".toList ++ rest)
  have hafter (t : Text) : after? "\x7d" ('}' :: t) = some t := after?_append "\x7d" t
  have hguard : guard (!name.isEmpty) = some () := by simp [hne, guard]
  simp only [color, Option.bind_eq_bind, after?_append, Option.bind_some, htake, hguard, hdrop, hafter, hlast]
  rfl

theorem color_eq_none {t : Text} (h : ¬ "\x7bcolor:".toList <+: t) : color t = none := by
  simp [color, after?_eq_none_iff.mpr h]

theorem color_respells : Pattern.Respells (Writes "") color := by
  intro t m h
  obtain ⟨name, -, ht⟩ := color_eq_some h
  refine ⟨_, by simp, ht, .of_sublist (fun _ => by simp [Writes]) ?_⟩
  exact (List.sublist_append_right _ _).trans (List.sublist_append_left _ _)

theorem panelTitle_respells : Pattern.Respells (Writes "") panelTitle := by
  intro t m h
  obtain ⟨p, hp, rfl⟩ := Option.map_eq_some_iff.mp h
  obtain ⟨used, hne, ht, hs⟩ := panel?_title_sublist hp
  exact ⟨used, hne, ht, .of_sublist (fun _ => by simp [Writes]) hs⟩

theorem panelTitle_eq_none {t : Text} (h : ¬ panelOpening.toList <+: t) : panelTitle t = none := by
  simp [panelTitle, panel?_eq_none h]

/-! ## The chain of styles -/

def droppedMarks : String := "*_\x7b\x7d+^~-noformat[]|!bq. \t\n\x0c\r"

def writtenMarks : String := "*`<ins>+/supb~![]() "

def markStyles : List InlineStyle := inlineChain.take 12

theorem inlineChain_eq : inlineChain =
    markStyles ++ [⟨"color", .anywhere, color⟩, ⟨"panel", .anywhere, panelTitle⟩] := rfl

theorem inlineStyles_eq (line : Text) : inlineStyles line =
    Rewrite.apply ⟨.anywhere, panelTitle⟩ (Rewrite.apply ⟨.anywhere, color⟩ (restyle markStyles line)) := by
  rw [inlineStyles, inlineChain_eq, restyle, List.foldl_append, List.foldl_cons, List.foldl_cons,
    List.foldl_nil, ← restyle]

theorem markStyles_respell : ∀ style ∈ markStyles,
    style.rewrite.pattern.Respells (Swaps droppedMarks writtenMarks) := by
  have widen : ∀ {p : Pattern} {d w : String}, p.Respells (Swaps d w) →
      d.toList ⊆ droppedMarks.toList → w.toList ⊆ writtenMarks.toList →
        p.Respells (Swaps droppedMarks writtenMarks) :=
    fun hp hd hw => hp.mono fun _ _ h => h.widen hd hw
  simp only [markStyles, inlineChain, List.take_succ_cons, List.take_zero, List.forall_mem_cons]
  refine ⟨?bold, ?italic, ?monospace, ?insert, ?superscript, ?subscript, ?strikethrough, ?preformatted,
    ?unnamedLink, ?image, ?namedLink, ?blockquote, by simp⟩
  case bold => exact longSpan_respells (by decide) (by decide) (by decide) (by decide) _
  case italic => exact longSpan_respells (by decide) (by decide) (by decide) (by decide) _
  case monospace => exact widen monospace_respells (by decide) (by decide)
  case insert => exact shortSpan_respells (by decide) (by decide) (by decide) (by decide)
  case superscript => exact shortSpan_respells (by decide) (by decide) (by decide) (by decide)
  case subscript => exact shortSpan_respells (by decide) (by decide) (by decide) (by decide)
  case strikethrough => exact widen strikethrough_respells (by decide) (by decide)
  case preformatted => exact widen preformatted_respells (by decide) (by decide)
  case unnamedLink => exact widen unnamedLink_respells (by decide) (by decide)
  case image => exact longSpan_respells (by decide) (by decide) (by decide) (by decide) _
  case namedLink => exact widen namedLink_respells (by decide) (by decide)
  case blockquote => exact widen blockquote_respells (by decide) (by decide)

theorem inlineChain_writes : ∀ style ∈ inlineChain,
    style.rewrite.pattern.Respells (Writes writtenMarks) := by
  intro style hs
  rw [inlineChain_eq] at hs
  rcases List.mem_append.mp hs with hs | hs
  · exact (markStyles_respell style hs).mono fun _ _ h => h.written
  · have hnone : ∀ old new, Writes "" old new → Writes writtenMarks old new :=
      fun _ _ h c hc => absurd (h c hc) (by simp)
    simp only [List.mem_cons, List.not_mem_nil, or_false] at hs
    rcases hs with rfl | rfl
    · exact color_respells.mono hnone
    · exact panelTitle_respells.mono hnone

end JiraMarkup
