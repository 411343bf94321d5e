import JiraMarkup.Text

/-!
# Respelled texts

A rewrite copies most of a text and swaps a few stretches of it for others.
What can be swapped for what decides which characters are kept, which can be
new, and which marks can come to stand in the text that were not there before.
-/

namespace JiraMarkup

/-- The second text is the first with stretches swapped for others. -/
inductive Respelled (swap : Text → Text → Prop) : Text → Text → Prop
  | nil : Respelled swap [] []
  | copy (c : Char) {s t : Text} : Respelled swap s t → Respelled swap (c :: s) (c :: t)
  | swapped {old new s t : Text} : swap old new → Respelled swap s t →
      Respelled swap (old ++ s) (new ++ t)

/-- Characters of `dropped` make room for at least one of `written`. -/
structure Swaps (dropped written : String) (old new : Text) : Prop where
  dropped : ∀ c ∈ old, c ∈ dropped.toList
  new_ne_nil : new ≠ []
  written : ∀ c ∈ new, c ∈ written.toList

def Writes (written : String) (_old new : Text) : Prop := ∀ c ∈ new, c ∈ written.toList

theorem Swaps.widen {d d' w w' : String} {old new : Text} (h : Swaps d w old new)
    (hd : d.toList ⊆ d'.toList) (hw : w.toList ⊆ w'.toList) : Swaps d' w' old new :=
  ⟨fun c hc => hd (h.dropped c hc), h.new_ne_nil, fun c hc => hw (h.written c hc)⟩

namespace Respelled

variable {swap swap' : Text → Text → Prop} {s s' t t' : Text}

/-! ## Building respellings -/

theorem refl (swap : Text → Text → Prop) : ∀ t : Text, Respelled swap t t
  | [] => nil
  | c :: t => copy c (refl swap t)

theorem append (h : Respelled swap s t) (h' : Respelled swap s' t') :
    Respelled swap (s ++ s') (t ++ t') := by
  induction h with
  | nil => exact h'
  | copy c _ ih => exact copy c ih
  | swapped hs _ ih => rw [List.append_assoc, List.append_assoc]; exact swapped hs ih

theorem of_swap {old new : Text} (h : swap old new) : Respelled swap old new := by
  simpa using swapped h nil

theorem mono (hsw : ∀ old new, swap old new → swap' old new) (h : Respelled swap s t) :
    Respelled swap' s t := by
  induction h with
  | nil => exact nil
  | copy c _ ih => exact copy c ih
  | swapped hs _ ih => exact swapped (hsw _ _ hs) ih

theorem infixes (h : Respelled swap s t) : Respelled (fun old new => swap old new ∧ old <:+: s) s t := by
  induction h with
  | nil => exact nil
  | copy c _ ih => exact copy c (ih.mono fun _ _ h => ⟨h.1, List.infix_cons h.2⟩)
  | swapped hs _ ih =>
    exact swapped ⟨hs, (List.prefix_append _ _).isInfix⟩
      (ih.mono fun _ _ h => ⟨h.1, List.infix_append_of_infix_right h.2⟩)

theorem of_sublist (hd : ∀ old, swap old []) (h : t.Sublist s) : Respelled swap s t := by
  induction h with
  | slnil => exact nil
  | cons c _ ih => exact swapped (hd [c]) ih
  | cons_cons c _ ih => exact copy c ih

/-! ## What respellings keep -/

theorem filter_sublist {p : Char → Bool} (h : Respelled swap s t)
    (hw : ∀ old new, swap old new → ∀ c ∈ new, p c = false) :
    (t.filter p).Sublist (s.filter p) := by
  induction h with
  | nil => exact List.Sublist.refl _
  | copy c _ ih =>
    rw [List.filter_cons, List.filter_cons]
    split
    · exact ih.cons_cons c
    · exact ih
  | swapped hs _ ih =>
    rw [List.filter_append, List.filter_append,
      List.filter_eq_nil_iff.mpr fun c hc => Bool.eq_false_iff.mp (hw _ _ hs c hc)]
    exact ih.trans (List.sublist_append_right _ _)

theorem filter_eq {p : Char → Bool} (h : Respelled swap s t)
    (hk : ∀ old new, swap old new → ∀ c ∈ old ++ new, p c = false) : t.filter p = s.filter p := by
  induction h with
  | nil => rfl
  | copy c _ ih => rw [List.filter_cons, List.filter_cons, ih]
  | swapped hs _ ih =>
    have h0 := List.filter_eq_nil_iff.mpr fun c hc => Bool.eq_false_iff.mp (hk _ _ hs c hc)
    obtain ⟨ho, hn⟩ := List.append_eq_nil_iff.mp (List.filter_append .. ▸ h0)
    rw [List.filter_append, List.filter_append, ho, hn, ih]

theorem forall_mem {p : Char → Prop} (h : Respelled swap s t)
    (hw : ∀ old new, swap old new → ∀ c ∈ new, p c) (hs : ∀ c ∈ s, p c) : ∀ c ∈ t, p c := by
  induction h with
  | nil => exact hs
  | copy c _ ih =>
    rw [List.forall_mem_cons] at hs ⊢
    exact ⟨hs.1, ih hs.2⟩
  | swapped hsw _ ih =>
    rw [List.forall_mem_append] at hs ⊢
    exact ⟨hw _ _ hsw, ih hs.2⟩

theorem not_mem {c : Char} (h : Respelled swap s t) (hw : ∀ old new, swap old new → c ∉ new)
    (hc : c ∉ s) : c ∉ t := by
  have hne := h.forall_mem (p := (· ≠ c)) (fun old new hsw d hd hdc => hw old new hsw (hdc ▸ hd))
    fun d hd hdc => hc (hdc ▸ hd)
  exact fun ht => hne c ht rfl

/-- A mark none of whose characters is written begins only where it began before: something new
stands in every place where text was dropped, so that no two parts of the mark are joined there. -/
theorem starts_of_starts {mark : Text} (h : Respelled swap s t)
    (hw : ∀ old new, swap old new → new ≠ [] ∧ ∀ c ∈ new, c ∉ mark) (hm : mark <+: t) : mark <+: s := by
  induction h generalizing mark with
  | nil => exact hm
  | copy c _ ih =>
    cases mark with
    | nil => exact List.nil_prefix
    | cons d mark =>
      obtain ⟨rfl, hm'⟩ := List.cons_prefix_cons.mp hm
      exact List.cons_prefix_cons.mpr ⟨rfl, ih (fun old new hs =>
        ⟨(hw old new hs).1, fun c hc hcm => (hw old new hs).2 c hc (List.mem_cons_of_mem _ hcm)⟩) hm'⟩
  | swapped hs _ _ =>
    obtain ⟨hne, hdisj⟩ := hw _ _ hs
    obtain ⟨n, new, rfl⟩ := List.exists_cons_of_ne_nil hne
    cases mark with
    | nil => exact List.nil_prefix
    | cons d mark =>
      have hd : d = n := (List.cons_prefix_cons.mp hm).1
      exact absurd (hd ▸ List.mem_cons_self) (hdisj n List.mem_cons_self)

theorem occurs_of_occurs {mark : Text} (hne : mark ≠ []) (h : Respelled swap s t)
    (hw : ∀ old new, swap old new → new ≠ [] ∧ ∀ c ∈ new, c ∉ mark) (hm : mark <:+: t) :
    mark <:+: s := by
  induction h with
  | nil => exact hm
  | copy c h ih =>
    rcases List.infix_cons_iff.mp hm with hp | hi
    · exact ((copy c h).starts_of_starts hw hp).isInfix
    · exact List.infix_cons (ih hi)
  | @swapped old new s t hs _ ih =>
    refine List.infix_append_of_infix_right (ih ?_)
    have hdisj := (hw _ _ hs).2
    clear hs
    -- The mark cannot begin inside what is new, character by character.
    induction new with
    | nil => exact hm
    | cons n new ihn =>
      rcases List.infix_cons_iff.mp hm with hp | hi
      · obtain ⟨d, mark, rfl⟩ := List.exists_cons_of_ne_nil hne
        have hd : d = n := (List.cons_prefix_cons.mp hp).1
        exact absurd (hd ▸ List.mem_cons_self) (hdisj n List.mem_cons_self)
      · exact ihn hi fun c hc => hdisj c (List.mem_cons_of_mem _ hc)

end Respelled

end JiraMarkup
