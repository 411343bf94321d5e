import JiraMarkup.LineMarkup
import JiraMarkup.Proofs.Scanning
import JiraMarkup.Proofs.Search
import Mathlib.Tactic.IntervalCases

/-!
# List items and headings

What the markers in front of a line are, and that they are respelled without
reading the rest of the line. A line that had a marker begins afterwards, behind
its indentation, with a star, a one or a hash.
-/

namespace JiraMarkup

/-! ## List items -/

theorem listMarker_eq_some {marker : Char} {bullet : String} {t : Text} {m : Match}
    (h : listMarker marker bullet t = some m) :
    ∃ (indent blanks : Text) (depth : Nat), t = indent ++ List.replicate depth marker ++ blanks ++ m.rest ∧
      (∀ c ∈ indent, isIndent c = true) ∧ depth ≠ 0 ∧ blanks ≠ [] ∧ (∀ c ∈ blanks, isBlank c = true) ∧
      m.output = List.replicate (2 * depth) ' ' ++ bullet.toList := by
  simp only [listMarker] at h
  split at h
  · cases h
  · rename_i hg
    simp only [Bool.or_eq_true, decide_eq_true_eq, Bool.not_eq_true', not_or, Bool.not_eq_false] at hg
    obtain rfl := Option.some.inj h
    generalize hbody : t.dropWhile isIndent = body at *
    generalize hbehind : body.dropWhile (· == marker) = behind at *
    refine ⟨t.takeWhile isIndent, behind.takeWhile isBlank, (body.takeWhile (· == marker)).length,
      ?_, fun c hc => List.mem_takeWhile_imp hc, hg.1, ?_, fun c hc => List.mem_takeWhile_imp hc, rfl⟩
    · have hrun : List.replicate (body.takeWhile (· == marker)).length marker =
          body.takeWhile (· == marker) := Eq.symm <| List.eq_replicate_iff.mpr
        ⟨rfl, fun c hc => by simpa using List.mem_takeWhile_imp hc⟩
      rw [hrun, List.append_assoc, List.takeWhile_append_dropWhile, List.append_assoc, ← hbehind,
        List.takeWhile_append_dropWhile, ← hbody, List.takeWhile_append_dropWhile]
    · intro hnil
      cases behind with
      | nil => simp at hg
      | cons c behind =>
        have hc : isBlank c = true := by simpa using hg.2
        simp [hc] at hnil

theorem listMarker_rest {marker : Char} {bullet : String} {t : Text} {m : Match}
    (h : listMarker marker bullet t = some m) : ∀ c ∈ m.rest.head?, isBlank c = false := by
  simp only [listMarker] at h
  split at h
  · cases h
  · obtain rfl := Option.some.inj h
    exact head_dropWhile isBlank _

theorem listMarker_respells (marker : Char) (bullet : String) :
    (listMarker marker bullet).Respells
      (Swaps (String.singleton marker ++ " \t\n\x0c\r") (" " ++ bullet)) := by
  intro t m h
  obtain ⟨indent, blanks, depth, ht, hi, hd, hne, hb, ho⟩ := listMarker_eq_some h
  refine ⟨indent ++ List.replicate depth marker ++ blanks, by simp [hne], ht, .of_swap ⟨?_, ?_, ?_⟩⟩
  · intro c hc
    simp only [String.toList_append, String.toList_singleton, List.mem_append, List.mem_singleton]
    rcases List.mem_append.mp hc with hc | hc
    · rcases List.mem_append.mp hc with hc | hc
      · have := isIndent_iff.mp (hi c hc)
        simp at this ⊢; tauto
      · exact Or.inl (List.eq_of_mem_replicate hc)
    · exact Or.inr (isBlank_iff.mp (hb c hc))
  · simp [ho, hd]
  · intro c hc
    rw [ho] at hc
    simp only [String.toList_append, List.mem_append]
    rcases List.mem_append.mp hc with hc | hc
    · exact Or.inl (by simp [List.eq_of_mem_replicate hc])
    · exact Or.inr hc

theorem listMarker_run {marker : Char} (bullet : String) {indent t : Text} (hm : isIndent marker = false)
    (hi : ∀ c ∈ indent, isIndent c = true) (ht : t.head? ≠ some marker) (n : Nat) :
    listMarker marker bullet (indent ++ List.replicate (n + 1) marker ++ t) =
      if t.head?.any isBlank then
        some ⟨List.replicate (2 * (n + 1)) ' ' ++ bullet.toList, t.dropWhile isBlank⟩
      else none := by
  have hbody : (indent ++ List.replicate (n + 1) marker ++ t).dropWhile isIndent =
      List.replicate (n + 1) marker ++ t := by
    rw [List.append_assoc, List.dropWhile_append_of_pos hi, List.replicate_succ, List.cons_append,
      List.dropWhile_cons, hm]
    rfl
  have hrun : ∀ c ∈ List.replicate (n + 1) marker, (c == marker) = true := by
    intro c hc
    rw [List.eq_of_mem_replicate hc, beq_self_eq_true]
  have htake : t.takeWhile (· == marker) = [] := by cases t <;> simp_all
  have hdrop : t.dropWhile (· == marker) = t := by cases t <;> simp_all
  rw [listMarker, hbody]
  simp only [List.takeWhile_append_of_pos hrun, List.dropWhile_append_of_pos hrun, htake, hdrop,
    List.append_nil, List.length_replicate]
  cases t.head?.any isBlank <;> rfl

/-! ## Headings -/

theorem headingLevel?_eq_some {d : Char} {level : Nat} (h : headingLevel? d = some level) :
    d ∈ "0123456".toList ∧ d.toNat = '0'.toNat + level := by
  unfold headingLevel? at h
  split at h
  · rename_i hd
    obtain ⟨h0, h6⟩ := hd
    have h0 : 48 ≤ d.toNat := h0
    have h6 : d.toNat ≤ 54 := h6
    obtain rfl := Option.some.inj h
    refine ⟨?_, by simp; omega⟩
    rw [← Char.ofNat_toNat d]
    interval_cases d.toNat <;> decide
  · cases h

theorem headingLine_eq_some {t : Text} {m : Match} (h : headingLine t = some m) :
    ∃ (d : Char) (level : Nat), t = 'h' :: d :: '.' :: m.rest ∧ headingLevel? d = some level ∧
      '\n' ∉ m.rest ∧ m.output = List.replicate (level + 1) '#' := by
  unfold headingLine at h
  split at h
  · rename_i d title
    split at h
    · rename_i level hl
      split at h
      · cases h
      · rename_i hn
        obtain rfl := Option.some.inj h
        exact ⟨d, level, rfl, hl, fun hm => hn (List.any_eq_true.mpr ⟨_, hm, rfl⟩), rfl⟩
    · cases h
  · cases h

theorem headingLine_title {d : Char} {level : Nat} (hd : headingLevel? d = some level) {t : Text}
    (ht : '\n' ∉ t) : headingLine ('h' :: d :: '.' :: t) = some ⟨List.replicate (level + 1) '#', t⟩ := by
  have hany : t.any isLineEnd = false := List.any_eq_false.mpr fun c hc =>
    Bool.eq_false_iff.mp (isLineEnd_of_not_mem ht c hc)
  simp [headingLine, hd, hany]

theorem heading_respells : heading.pattern.Respells (Swaps "h0123456." "#") := by
  intro t m h
  obtain ⟨d, level, ht, hl, -, ho⟩ := headingLine_eq_some h
  have hd := (headingLevel?_eq_some hl).1
  refine ⟨['h', d, '.'], by simp, ht, .of_swap ⟨?_, by simp [ho], ?_⟩⟩
  · intro c hc
    simp at hc hd ⊢
    grind
  · intro c hc
    rw [ho] at hc
    simp [List.eq_of_mem_replicate hc]

/-! ## Marked lines -/

def markLine (l : Text) : Text := heading.apply (numberedItem.apply (bulletItem.apply l))

def lead (l : Text) : Option Char := (l.dropWhile isIndent).head?

theorem lead_append {indent : Text} {c : Char} (hi : ∀ d ∈ indent, isIndent d = true)
    (hc : isIndent c = false) (l : Text) : lead (indent ++ c :: l) = some c := by
  rw [lead, List.dropWhile_append_of_pos hi, List.dropWhile_cons, hc]
  rfl

theorem mem_of_lead {l : Text} {c : Char} (h : lead l = some c) : c ∈ l :=
  (List.dropWhile_suffix isIndent).subset (List.mem_of_head? h)

theorem listItem_apply (marker c : Char) (bullet : String) (hc : isIndent c = false)
    (hb : bullet.toList.head? = some c) (l : Text) :
    Rewrite.apply ⟨.textStart, listMarker marker bullet⟩ l = l ∨
      lead (Rewrite.apply ⟨.textStart, listMarker marker bullet⟩ l) = some c := by
  cases h : listMarker marker bullet l with
  | none => exact Or.inl (Rewrite.apply_textStart_of_none rfl h)
  | some m =>
    obtain ⟨-, -, depth, -, -, -, -, -, ho⟩ := listMarker_eq_some h
    obtain ⟨b, hbullet⟩ := List.head?_eq_some_iff.mp hb
    have hs : ∀ d ∈ List.replicate (2 * depth) ' ', isIndent d = true := fun d hd => by
      rw [List.eq_of_mem_replicate hd]; rfl
    refine Or.inr ?_
    rw [Rewrite.apply_textStart_of_some rfl (listMarker_respells marker bullet).consumes h, ho, hbullet,
      List.append_assoc, List.cons_append]
    exact lead_append hs hc _

theorem heading_apply (l : Text) : heading.apply l = l ∨ lead (heading.apply l) = some '#' := by
  cases h : heading.pattern l with
  | none => exact Or.inl (Rewrite.apply_textStart_of_none rfl h)
  | some m =>
    obtain ⟨-, level, -, -, -, ho⟩ := headingLine_eq_some h
    refine Or.inr ?_
    rw [Rewrite.apply_textStart_of_some rfl heading_respells.consumes h, ho, List.replicate_succ,
      List.cons_append]
    exact lead_append (show ∀ d ∈ [], isIndent d = true by simp) (by decide) _

section
variable {marker : Char} {bullet : String} (hm : isIndent marker = false)
include hm

theorem listItem_apply_of_lead {l : Text} (h : lead l ≠ some marker) :
    Rewrite.apply ⟨.textStart, listMarker marker bullet⟩ l = l := by
  refine Rewrite.apply_textStart_of_none rfl ?_
  rw [Option.eq_none_iff_forall_ne_some]
  intro m hsome
  obtain ⟨indent, blanks, depth, ht, hi, hd, -⟩ := listMarker_eq_some hsome
  obtain ⟨n, rfl⟩ := Nat.exists_eq_succ_of_ne_zero hd
  refine h ?_
  rw [ht, List.replicate_succ, List.append_assoc, List.append_assoc, List.cons_append]
  exact lead_append hi hm _

theorem listItem_apply_run {indent t : Text} (hi : ∀ c ∈ indent, isIndent c = true)
    (ht : t.head? ≠ some marker) (n : Nat) :
    Rewrite.apply ⟨.textStart, listMarker marker bullet⟩ (indent ++ List.replicate (n + 1) marker ++ t) =
      if t.head?.any isBlank then
        List.replicate (2 * (n + 1)) ' ' ++ bullet.toList ++ t.dropWhile isBlank
      else indent ++ List.replicate (n + 1) marker ++ t := by
  have hrun := listMarker_run bullet hm hi ht n
  cases hblank : t.head?.any isBlank with
  | true =>
    rw [hblank, if_pos rfl] at hrun
    rw [Rewrite.apply_textStart_of_some rfl (listMarker_respells marker bullet).consumes hrun]
    rfl
  | false =>
    rw [hblank, if_neg (by simp)] at hrun
    exact Rewrite.apply_textStart_of_none rfl hrun

end

theorem heading_apply_of_ne {l : Text} (h : ∀ d t, l ≠ 'h' :: d :: '.' :: t) : heading.apply l = l := by
  refine Rewrite.apply_textStart_of_none rfl ?_
  rw [Option.eq_none_iff_forall_ne_some]
  intro m hm
  obtain ⟨d, level, ht, -⟩ := headingLine_eq_some hm
  exact h d m.rest ht

theorem heading_apply_title {d : Char} {level : Nat} (hd : headingLevel? d = some level) {t : Text}
    (ht : '\n' ∉ t) : heading.apply ('h' :: d :: '.' :: t) = List.replicate (level + 1) '#' ++ t := by
  have hmatch : heading.pattern ('h' :: d :: '.' :: t) = some ⟨List.replicate (level + 1) '#', t⟩ :=
    headingLine_title hd ht
  exact Rewrite.apply_textStart_of_some rfl heading_respells.consumes hmatch

theorem markLine_eq_or_lead (l : Text) :
    markLine l = l ∨ ∃ c, c ∈ "*1#".toList ∧ lead (markLine l) = some c := by
  rw [markLine]
  rcases heading_apply (numberedItem.apply (bulletItem.apply l)) with h | h
  · rw [h]
    rcases listItem_apply '#' '1' "1. " (by decide) (by decide) (bulletItem.apply l) with h | h
    · rw [show numberedItem.apply (bulletItem.apply l) = bulletItem.apply l from h]
      rcases listItem_apply '*' '*' "* " (by decide) (by decide) l with h | h
      · exact Or.inl h
      · exact Or.inr ⟨'*', by decide, h⟩
    · exact Or.inr ⟨'1', by decide, h⟩
  · exact Or.inr ⟨'#', by decide, h⟩

end JiraMarkup
