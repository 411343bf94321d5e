import JiraMarkup.Proofs.StyleMarks

/-!
# Letters and a few marks

No rule looks at a letter, and none at a character outside ASCII. So it is
enough to know the other characters of a line to tell which styles find
nothing in it.
-/

namespace JiraMarkup

/-! ## Lines of letters and marks -/

def isLetter (c : Char) : Bool := c.isAlpha || 128 ≤ c.toNat

def Lettered (marks : String) (l : Text) : Prop := ∀ c ∈ l, isLetter c = true ∨ c ∈ marks.toList

instance (marks : String) (l : Text) : Decidable (Lettered marks l) := decidableForallMem l

def Foreign (marks : String) (mark : String × String) : Prop :=
  ∃ c ∈ (mark.1 ++ mark.2).toList, isLetter c = false ∧ c ∉ marks.toList

instance (marks : String) (mark : String × String) : Decidable (Foreign marks mark) := decidableExistsMem _

theorem isBlank_of_isLetter {c : Char} (h : isLetter c = true) : isBlank c = false := by
  have hblank : ∀ d ∈ " \t\n\x0c\r".toList, isLetter d = false := by decide
  refine Bool.eq_false_iff.mpr fun hb => ?_
  rw [hblank c (isBlank_iff.mp hb)] at h
  cases h

namespace Lettered

variable {marks marks' : String} {l l' : Text} {c : Char}

theorem nil : Lettered marks [] := by simp [Lettered]

theorem append (h : Lettered marks l) (h' : Lettered marks l') : Lettered marks (l ++ l') := by
  intro c hc
  rcases List.mem_append.mp hc with hc | hc
  · exact h c hc
  · exact h' c hc

theorem cons (hc : c ∈ marks.toList) (h : Lettered marks l) : Lettered marks (c :: l) :=
  List.forall_mem_cons.mpr ⟨Or.inr hc, h⟩

theorem replicate (hc : c ∈ marks.toList) (n : Nat) : Lettered marks (List.replicate n c) :=
  fun _ hd => Or.inr (List.eq_of_mem_replicate hd ▸ hc)

theorem of_subset (h : l ⊆ marks.toList) : Lettered marks l := fun _ hc => Or.inr (h hc)

theorem of_letters (h : ∀ c ∈ l, isLetter c = true) : Lettered marks l := fun c hc => Or.inl (h c hc)

theorem mono (h : Lettered marks l) (hm : marks.toList ⊆ marks'.toList := by decide) : Lettered marks' l :=
  fun c hc => (h c hc).imp_right fun hc => hm hc

theorem subset (h : Lettered marks l) (hs : l' ⊆ l) : Lettered marks l' := fun c hc => h c (hs hc)

theorem not_mem (h : Lettered marks l) (hc : isLetter c = false ∧ c ∉ marks.toList := by decide) :
    c ∉ l := by
  intro hm
  rcases h c hm with hl | hl
  · rw [hc.1] at hl
    cases hl
  · exact hc.2 hl

theorem apply {r : Rewrite} {swap : Text → Text → Prop} (hr : r.pattern.Respells swap)
    (hsw : ∀ old new, swap old new → ∀ c ∈ new, c ∈ marks.toList) (h : Lettered marks l) :
    Lettered marks (r.apply l) :=
  (Rewrite.apply_respelled hr l).forall_mem (fun old new hs c hc => Or.inr (hsw old new hs c hc)) h

theorem not_hasMarks (h : Lettered marks l) {mark : String × String} (hm : Foreign marks mark) :
    ¬ HasMarks mark l := by
  obtain ⟨c, hmem, hc⟩ := hm
  intro hl
  exact h.not_mem hc (hl.2.subset hmem)

theorem restyle_take (h : Lettered marks l) {i : Nat} (hi : ∀ mark ∈ styleMarks.take i, Foreign marks mark) :
    restyle (inlineChain.take i) l = l :=
  restyle_eq_self (List.forall₂_take i inlineChain_opens) fun mark hm => h.not_hasMarks (hi mark hm)

end Lettered

/-! ## What follows a character -/

/-- Wherever `c` stands in the text, what follows is as described. -/
def Leads (c : Char) (P : Text → Prop) (l : Text) : Prop := ∀ s, c :: s <:+ l → P s

namespace Leads

variable {c d : Char} {P : Text → Prop} {l l' : Text}

theorem of_not_mem (h : c ∉ l) : Leads c P l := fun _ hs => absurd (hs.subset List.mem_cons_self) h

theorem cons_iff : Leads c P (d :: l) ↔ (c = d → P l) ∧ Leads c P l := by
  constructor
  · intro h
    exact ⟨fun hcd => h l (hcd ▸ List.suffix_rfl), fun s hs => h s (hs.trans (List.suffix_cons d l))⟩
  · rintro ⟨hd, h⟩ s hs
    rcases List.suffix_cons_iff.mp hs with he | hs
    · obtain ⟨rfl, rfl⟩ := List.cons.inj he
      exact hd rfl
    · exact h s hs

theorem append (hP : ∀ s, P s → P (s ++ l')) (h : Leads c P l) (h' : Leads c P l') :
    Leads c P (l ++ l') := by
  induction l with
  | nil => exact h'
  | cons d l ih =>
    rw [cons_iff] at h
    rw [List.cons_append, cons_iff]
    exact ⟨fun hcd => hP l (h.1 hcd), ih h.2⟩

theorem append_of_not_mem (h : c ∉ l) (h' : Leads c P l') : Leads c P (l ++ l') := by
  induction l with
  | nil => exact h'
  | cons d l ih =>
    rw [List.mem_cons, not_or] at h
    rw [List.cons_append, cons_iff]
    exact ⟨fun hcd => absurd hcd h.1, ih h.2⟩

theorem absent (h : Leads c P l) {mark : Text} (hP : ∀ s, ¬ P (mark ++ s)) : ¬ c :: mark <:+: l := by
  rintro ⟨a, b, rfl⟩
  refine hP b (h (mark ++ b) ⟨a, ?_⟩)
  simp

end Leads

theorem Lettered.not_hasMarks_of_leads {marks : String} {l : Text} (h : Lettered marks l) {c : Char}
    {P : Text → Prop} (hl : Leads c P l) {os : List Text} (hP : ∀ o ∈ os, ∀ s, ¬ P (o ++ s))
    {mark : String × String} (hm : Foreign marks mark ∨ mark.1.toList ∈ os.map (c :: ·)) :
    ¬ HasMarks mark l := by
  rcases hm with hm | hm
  · exact h.not_hasMarks hm
  · obtain ⟨o, ho, he⟩ := List.mem_map.mp hm
    intro hmarks
    exact hl.absent (hP o ho) (he ▸ hmarks.1)

end JiraMarkup
