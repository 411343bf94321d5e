import JiraMarkup.Proofs.SettledLines

/-!
# A second pass

A line of the result holds no mark of a style any more, so that all a second
pass can do is to read the marks in front of a line anew. It does so for nested
bullets, whose depth went into their indentation, and for headings with a space
behind their mark, whose hashes are the marks of numbered items.
-/

namespace JiraMarkup

/-! ## Lines of list items, headings and spans -/

inductive MarkupLine : Text → Prop
  | bullet (n : Nat) {t : Text} : Prose t → t.head? ≠ some ' ' →
      MarkupLine (List.replicate (n + 1) '*' ++ ' ' :: t)
  | numbered (n : Nat) {t : Text} : Prose t → t.head? ≠ some ' ' →
      MarkupLine (List.replicate (n + 1) '#' ++ ' ' :: t)
  | heading {d : Char} {t : Text} : '0' ≤ d ∧ d ≤ '6' → Prose t → MarkupLine ('h' :: d :: '.' :: t)
  | spans {l : Text} : Spanned " 0123456789" l → MarkupLine l

/-- A nested bullet, or a heading with a space behind its mark. -/
def isRemarked : Text → Bool
  | '*' :: '*' :: _ => true
  | 'h' :: _ :: '.' :: ' ' :: _ => true
  | _ => false

/-- What a line becomes: settled lines, on which a second pass has no effect unless the line is one
of those that are marked anew. -/
structure Pass (l out : Text) : Prop where
  settled : ∀ m ∈ splitLines out, Settled (markLine m)
  fixed_iff : (∀ m ∈ splitLines out, markLine m = m) ↔ isRemarked l = false

theorem isRemarked_eq_false {l : Text} (hstar : '*' ∉ l) (hdot : '.' ∉ l) : isRemarked l = false := by
  unfold isRemarked
  split
  · exact absurd (by simp) hstar
  · exact absurd (by simp) hdot
  · rfl

theorem Prose.head_not_blank {t : Text} (ht : Prose t) (hspace : t.head? ≠ some ' ') :
    ∀ c ∈ t.head?, c ≠ '#' ∧ isBlank c = false := by
  have hdigits : ∀ c ∈ " 0123456789".toList, c ≠ ' ' → c ≠ '#' ∧ isBlank c = false := by decide
  intro c hc
  rcases ht c (List.mem_of_head? hc) with h | h
  · refine ⟨?_, isBlank_of_isLetter h⟩
    rintro rfl
    cases h
  · refine hdigits c h ?_
    rintro rfl
    exact hspace hc

theorem Prose.dropWhile_blank {t : Text} (ht : Prose t) (hspace : t.head? ≠ some ' ') :
    t.dropWhile isBlank = t := by
  cases t with
  | nil => rfl
  | cons c t => rw [List.dropWhile_cons, (ht.head_not_blank hspace c rfl).2]; rfl

/-! ## One line -/

theorem Pass.of_line {marks : String} {l o o' k : Text} (hl : Lettered marks o) (hk : Fenced o k)
    (ho : Settled o) (hagain : markLine o = o') (ho' : Settled o') (hiff : o' = o ↔ isRemarked l = false)
    (hmarks : '\n' ∉ marks.toList ∧ '{' ∉ marks.toList := by decide) :
    Pass l (onLines inlineStyles k) := by
  have hn : '\n' ∉ o := hl.not_mem ⟨by decide, hmarks.1⟩
  have hbrace : '{' ∉ o := hl.not_mem ⟨by decide, hmarks.2⟩
  have hlines : splitLines (onLines inlineStyles k) = [o] := by
    rw [hk.eq_self_of_not_mem hbrace, onLines_of_not_mem inlineStyles hn, ho.inlineStyles_eq,
      splitLines_of_not_mem hn]
  subst hagain
  constructor
  · rw [hlines]
    simpa using ho'
  · rw [hlines]
    simpa using hiff

section
variable {t k : Text} (ht : Prose t)
include ht

theorem markLine_bullets (hspace : t.head? ≠ some ' ') (n : Nat) :
    markLine (List.replicate (n + 1) '*' ++ ' ' :: t) = itemLine "* " (n + 1) t := by
  have h := markLine_bullet (t := t) (List.forall_mem_nil _) n
  rwa [List.nil_append, ht.dropWhile_blank hspace] at h

theorem markLine_numbers (hspace : t.head? ≠ some ' ') (n : Nat) :
    markLine (List.replicate (n + 1) '#' ++ ' ' :: t) = itemLine "1. " (n + 1) t := by
  have h := markLine_numbered (t := t) (List.forall_mem_nil _) n
  rwa [List.nil_append, ht.dropWhile_blank hspace] at h

theorem pass_bullet (hspace : t.head? ≠ some ' ') (n : Nat)
    (hk : Fenced (markLine (List.replicate (n + 1) '*' ++ ' ' :: t)) k) :
    Pass (List.replicate (n + 1) '*' ++ ' ' :: t) (onLines inlineStyles k) := by
  rw [markLine_bullets ht hspace] at hk
  have hl : Lettered " 0123456789*" (itemLine "* " (n + 1) t) :=
    lettered_itemLine ht _
  have hagain : markLine (itemLine "* " (n + 1) t) = itemLine "* " 1 t := by
    have hsplit : itemLine "* " (n + 1) t =
        List.replicate (2 * (n + 1)) ' ' ++ List.replicate (0 + 1) '*' ++ ' ' :: t := by
      simp [itemLine]
    rw [hsplit, markLine_bullet isIndent_of_mem_replicate, ht.dropWhile_blank hspace]
  refine .of_line hl hk (settled_bullet ht _) hagain (settled_bullet ht 1) ?_
  rw [itemLine_inj]
  cases n with
  | zero => simp [isRemarked]
  | succ n => simp [List.replicate_succ, isRemarked]

theorem pass_numbered (hspace : t.head? ≠ some ' ') (n : Nat)
    (hk : Fenced (markLine (List.replicate (n + 1) '#' ++ ' ' :: t)) k) :
    Pass (List.replicate (n + 1) '#' ++ ' ' :: t) (onLines inlineStyles k) := by
  rw [markLine_numbers ht hspace] at hk
  have hl : Lettered " 0123456789." (itemLine "1. " (n + 1) t) :=
    lettered_itemLine ht _
  have hlead : lead (itemLine "1. " (n + 1) t) = some '1' := by
    rw [itemLine, List.append_assoc]
    exact lead_append isIndent_of_mem_replicate (by decide) _
  have hagain : markLine (itemLine "1. " (n + 1) t) = itemLine "1. " (n + 1) t := by
    refine markLine_eq_self ?_ ?_ fun _ _ => itemLine_ne_cons (by decide)
    · rw [hlead]; decide
    · rw [hlead]; decide
  refine .of_line hl hk (settled_numbered ht _) hagain (settled_numbered ht _) ?_
  simp [List.replicate_succ, isRemarked]

theorem markLine_heading {d : Char} (hd : '0' ≤ d ∧ d ≤ '6') :
    ∃ n, markLine ('h' :: d :: '.' :: t) = List.replicate (n + 1) '#' ++ t :=
  ⟨d.toNat - '0'.toNat, markLine_title (if_pos hd) ht.not_mem⟩

theorem pass_heading {d : Char} (hd : '0' ≤ d ∧ d ≤ '6') (hk : Fenced (markLine ('h' :: d :: '.' :: t)) k) :
    Pass ('h' :: d :: '.' :: t) (onLines inlineStyles k) := by
  obtain ⟨n, hmark⟩ := markLine_heading ht hd
  rw [hmark] at hk
  have hl : Lettered " 0123456789#" (List.replicate (n + 1) '#' ++ t) :=
    (Lettered.replicate (by decide) _).append ht.mono
  by_cases hspace : t.head? = some ' '
  · -- The hashes in front of the space are the marks of a numbered item.
    obtain ⟨u, rfl⟩ := List.head?_eq_some_iff.mp hspace
    have hagain := markLine_numbered (t := u) (List.forall_mem_nil _) n
    rw [List.nil_append] at hagain
    have hu : Prose (u.dropWhile isBlank) :=
      (ht.subset (List.subset_cons_self ' ' u)).subset (List.dropWhile_suffix _).subset
    have hne : itemLine "1. " (n + 1) (u.dropWhile isBlank) ≠ List.replicate (n + 1) '#' ++ ' ' :: u :=
      itemLine_ne_cons (by decide)
    refine .of_line hl hk (settled_hashes ht _) hagain (settled_numbered hu _) ?_
    simp [hne, isRemarked]
  · have hagain := markLine_hashes (ht.head_not_blank hspace) n
    have hkept : isRemarked ('h' :: d :: '.' :: t) = false := by
      cases t with
      | nil => rfl
      | cons c t =>
        have hc : c ≠ ' ' := fun he => hspace (by rw [he]; rfl)
        simp [isRemarked, hc]
    refine .of_line hl hk (settled_hashes ht _) hagain (settled_hashes ht _) ?_
    simp [hkept]

end

theorem markLine_spans {l : Text} (hl : Spanned " 0123456789" l) : markLine l = l := by
  have hletters : Lettered " 0123456789\x7b\x7d" l := hl.lettered
  refine markLine_eq_self_of_not_mem fun c hc => hletters.not_mem ?_
  revert c
  decide

theorem pass_spans {l k : Text} (hl : Spanned " 0123456789" l) (hk : Fenced (markLine l) k) :
    Pass l (onLines inlineStyles k) := by
  have hletters : Lettered " 0123456789\x7b\x7d" l := hl.lettered
  rw [markLine_spans hl] at hk
  obtain ⟨p, ls, rfl, hls⟩ := hk.styled hletters
  have hbefore : ∀ m ∈ p :: ls, '\n' ∉ m := by
    intro m hm
    obtain ⟨m', hm'⟩ := hls m hm
    exact hm'.lettered.not_mem
  have hafter : ∀ m ∈ (p :: ls).map inlineStyles, ∃ l, Styled l m := by
    intro m hm
    obtain ⟨l, hl, rfl⟩ := List.mem_map.mp hm
    obtain ⟨m', hm'⟩ := hls l hl
    exact ⟨l, hm'.inlineStyles_eq.symm ▸ hm'⟩
  have hlines : splitLines (onLines inlineStyles (joinLines (p :: ls))) = (p :: ls).map inlineStyles := by
    rw [onLines, splitLines_joinLines (by simp) hbefore]
    refine splitLines_joinLines (by simp) fun m hm => ?_
    obtain ⟨l, hl⟩ := hafter m hm
    exact hl.lettered_styled.not_mem
  have hfixed : ∀ m ∈ (p :: ls).map inlineStyles, markLine m = m := by
    intro m hm
    obtain ⟨l, hl⟩ := hafter m hm
    exact hl.markLine_eq
  constructor
  · rw [hlines]
    intro m hm
    obtain ⟨l, hl⟩ := hafter m hm
    rw [hfixed m hm]
    exact hl.settled
  · rw [hlines]
    have hkept : isRemarked l = false :=
      isRemarked_eq_false hletters.not_mem hletters.not_mem
    simp only [hkept, iff_true]
    exact hfixed

theorem MarkupLine.pass {l k : Text} (hl : MarkupLine l) (hk : Fenced (markLine l) k) :
    Pass l (onLines inlineStyles k) := by
  cases hl with
  | bullet n ht hspace => exact pass_bullet ht hspace n hk
  | numbered n ht hspace => exact pass_numbered ht hspace n hk
  | heading hd ht => exact pass_heading ht hd hk
  | spans hl => exact pass_spans hl hk

/-! ## The whole text -/

theorem spanned_joinLines {marks : String} (hn : '\n' ∈ marks.toList) {ls : List Text}
    (h : ∀ l ∈ ls, Spanned marks l) : Spanned marks (joinLines ls) := by
  induction ls with
  | nil => exact .nil
  | cons l ls ih =>
    rw [List.forall_mem_cons] at h
    by_cases hls : ls = []
    · subst hls
      exact h.1
    · rw [joinLines_cons l hls]
      exact h.1.append (.copy (.of_subset (by simpa using hn)) (ih h.2))

theorem MarkupLine.spanned {l : Text} (h : MarkupLine l) : Spanned " 0123456789*#.\n" (markLine l) := by
  cases h with
  | bullet n ht hspace =>
    rw [markLine_bullets ht hspace]
    exact .of_lettered (lettered_itemLine ht _)
  | numbered n ht hspace =>
    rw [markLine_numbers ht hspace]
    exact .of_lettered (lettered_itemLine ht _)
  | heading hd ht =>
    obtain ⟨n, hmark⟩ := markLine_heading ht hd
    rw [hmark]
    exact .of_lettered ((Lettered.replicate (by decide) _).append ht.mono)
  | spans hl =>
    rw [markLine_spans hl]
    exact hl.mono

theorem exists_passes {t : Text} (ht : ∀ l ∈ splitLines t, MarkupLine l) :
    ∃ outs, Dialect.legacy.convert t = joinLines outs ∧ List.Forall₂ Pass (splitLines t) outs := by
  have hspanned : Spanned " 0123456789*#.\n" (onLines markLine t) := by
    refine spanned_joinLines (by decide) fun m hm => ?_
    obtain ⟨l, hl, rfl⟩ := List.mem_map.mp hm
    exact (ht l hl).spanned
  have hletters : Lettered " 0123456789*#.\n\x7b\x7d" (onLines markLine t) :=
    hspanned.lettered
  have hbar : '|' ∉ onLines markLine t := hletters.not_mem
  -- A block may reach over several lines, but what it writes stays within those of its tags.
  have hfenced := fenced_codeBlock (by decide) hspanned
  have hne : (splitLines t).map markLine ≠ [] := by simp [splitLines_ne_nil]
  obtain ⟨ks, hks, hlines⟩ := Fenced.forall_lines hne hfenced
  have hks' : ks ≠ [] := by
    rintro rfl
    exact hne (List.forall₂_nil_right_iff.mp hlines)
  rw [List.forall₂_map_left_iff] at hlines
  refine ⟨ks.map (onLines inlineStyles), ?_, ?_⟩
  · rw [Dialect.legacy_convert, soleTableHeader_eq_self hbar, hks, onLines_joinLines _ hks']
  · rw [List.forall₂_map_right_iff]
    exact ((List.forall₂_and_left _ _).mpr ⟨ht, hlines⟩).imp fun l k h => h.1.pass h.2

theorem forall_passes {ls outs : List Text} (h : List.Forall₂ Pass ls outs) :
    (∀ m ∈ outs.flatMap splitLines, Settled (markLine m)) ∧
      ((∀ m ∈ outs.flatMap splitLines, markLine m = m) ↔ ∀ l ∈ ls, isRemarked l = false) := by
  induction h with
  | nil => simp
  | cons hl _ ih =>
    rw [List.flatMap_cons, List.forall_mem_append, List.forall_mem_append, List.forall_mem_cons, hl.fixed_iff,
      ih.2]
    exact ⟨⟨hl.settled, ih.1⟩, Iff.rfl⟩

/-- A second pass changes nothing exactly if no line is a nested bullet or a heading with a space
behind its mark. -/
theorem legacy_convert_convert_eq_iff {t : Text} (ht : ∀ l ∈ splitLines t, MarkupLine l) :
    Dialect.legacy.convert (Dialect.legacy.convert t) = Dialect.legacy.convert t ↔
      ∀ l ∈ splitLines t, isRemarked l = false := by
  obtain ⟨outs, hout, hpasses⟩ := exists_passes ht
  have hne : outs ≠ [] := by
    rintro rfl
    exact splitLines_ne_nil t (List.forall₂_nil_right_iff.mp hpasses)
  have hlines : splitLines (joinLines outs) = outs.flatMap splitLines := splitLines_joinLines_flatMap hne
  obtain ⟨hsettled, hfixed⟩ := forall_passes hpasses
  rw [← hlines] at hsettled hfixed
  rw [hout, legacy_convert_of_settled hsettled, onLines_eq_self_iff markLine_newline_not_mem, hfixed]

theorem legacy_convert_convert_eq_block :
    let t := "* ab\n\x7b\x7bcode\x7d\x7d 7\n## cd\n\x7b\x7bcode\x7d\x7d\nh2.ef".toList
    (∀ l ∈ splitLines t, MarkupLine l) ∧ (∀ l ∈ splitLines t, isRemarked l = false) ∧
      Dialect.legacy.convert (Dialect.legacy.convert t) = Dialect.legacy.convert t ∧
      Dialect.legacy.convert t = "  * ab\n\x7b```\n\x7d 7\n    1. cd\n\x7b\n```\x7d\n###ef".toList := by
  intro t
  have hlines : splitLines t = ["* ab".toList, "\x7b\x7bcode\x7d\x7d 7".toList, "## cd".toList,
      "\x7b\x7bcode\x7d\x7d".toList, "h2.ef".toList] := by decide
  have hspan : ∀ {u : Text}, Spanned " 0123456789" u → Spanned " 0123456789" (braced "code".toList ++ u) :=
    .span (by decide) (by decide)
  have hmarkup : ∀ l ∈ splitLines t, MarkupLine l := by
    rw [hlines]
    simp only [List.forall_mem_cons]
    refine ⟨?bullet, ?opening, ?numbered, ?closing, ?heading, by simp⟩
    case bullet => exact .bullet 0 (t := "ab".toList) (by decide) (by decide)
    case opening => exact .spans (hspan (u := " 7".toList) (.of_lettered (by decide)))
    case numbered => exact .numbered 1 (t := "cd".toList) (by decide) (by decide)
    case closing => exact .spans (hspan .nil)
    case heading => exact .heading (d := '2') (t := "ef".toList) (by decide) (by decide)
  have hkept : ∀ l ∈ splitLines t, isRemarked l = false := by
    rw [hlines]
    decide
  exact ⟨hmarkup, hkept, (legacy_convert_convert_eq_iff hmarkup).mpr hkept, by decide⟩

theorem not_legacy_convert_convert_eq :
    ¬ ∀ t : Text, (∀ l ∈ splitLines t, MarkupLine l) →
      Dialect.legacy.convert (Dialect.legacy.convert t) = Dialect.legacy.convert t := by
  intro h
  have hmarkup : ∀ l ∈ splitLines "** ab".toList, MarkupLine l := by
    have hlines : splitLines "** ab".toList = ["** ab".toList] := by decide
    rw [hlines]
    simp only [List.forall_mem_cons]
    exact ⟨.bullet 1 (t := "ab".toList) (by decide) (by decide), by simp⟩
  exact absurd (h _ hmarkup) (by decide)

end JiraMarkup
