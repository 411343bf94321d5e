import JiraMarkup.Proofs.Conversion

/-!
# What a conversion keeps

The rules write punctuation, digits and small ASCII letters. All other
characters come out in the order in which they went in, and none of them twice;
they are lost only in the name of a color, in the attributes of a code block and
in the body of a panel that is reduced to its title.
-/

namespace JiraMarkup

/-- The characters that no rule writes: all outside ASCII, and the capital letters. -/
def isInert (c : Char) : Bool := 128 ≤ c.toNat || ('A' ≤ c && c ≤ 'Z')

/-! ## What the block rules write -/

def droppedBlockMarks : String := "*# \t\n\x0c\rh0123456.|\x7bcode:panl=ti\x7d"

def writtenBlockMarks : String := " *1.#\n|-`"

structure BlockSwaps (old new : Text) : Prop where
  dropped : (∀ c ∈ old, c ∈ droppedBlockMarks.toList) ∨ '=' ∈ old
  new_ne_nil : new ≠ []
  written : ∀ c ∈ new, c ∈ writtenBlockMarks.toList

theorem Swaps.blockSwaps {d w : String} {old new : Text} (h : Swaps d w old new)
    (hd : d.toList ⊆ droppedBlockMarks.toList) (hw : w.toList ⊆ writtenBlockMarks.toList) :
    BlockSwaps old new := ⟨Or.inl fun c hc => hd (h.dropped c hc), h.new_ne_nil, (h.widen hd hw).written⟩

theorem Fences.blockSwaps {old new : Text} (h : Fences old new) : BlockSwaps old new where
  dropped := h.dropped.imp_left fun hd c hc =>
    (show "\x7bcode:\x7d\n".toList ⊆ droppedBlockMarks.toList by decide) (hd c hc)
  new_ne_nil := h.new_ne_nil
  written c hc := (show "`\n".toList ⊆ writtenBlockMarks.toList by decide) (h.written c hc)

theorem blockRewrites_respell : ∀ r ∈ blockRewrites, r.pattern.Respells BlockSwaps := by
  have hswaps : ∀ {p : Pattern} {d w : String}, p.Respells (Swaps d w) →
      d.toList ⊆ droppedBlockMarks.toList → w.toList ⊆ writtenBlockMarks.toList → p.Respells BlockSwaps :=
    fun hp hd hw => hp.mono fun _ _ h => h.blockSwaps hd hw
  simp only [blockRewrites, List.forall_mem_cons]
  refine ⟨?bulletItem, ?numberedItem, ?heading, ?soleTableHeader, ?codeBlock, ?panelTable, ?tableHeaders,
    ?tableIndent, by simp⟩
  case bulletItem => exact hswaps (listMarker_respells _ _) (by decide) (by decide)
  case numberedItem => exact hswaps (listMarker_respells _ _) (by decide) (by decide)
  case heading => exact hswaps heading_respells (by decide) (by decide)
  case soleTableHeader => exact hswaps soleTableHeader_respells (by decide) (by decide)
  case codeBlock => exact codeSpan_respells.mono fun _ _ h => h.blockSwaps
  case panelTable => exact hswaps panelTable_respells (by decide) (by decide)
  case tableHeaders => exact hswaps tableHeaders_respells (by decide) (by decide)
  case tableIndent => exact hswaps tableIndent_respells (by decide) (by decide)

/-! ## Nothing is invented, reordered or doubled -/

theorem stepwise_filter_sublist (p : Char → Bool) :
    Stepwise fun s t => (t.filter p).Sublist (s.filter p) where
  refl _ := List.Sublist.refl _
  trans h h' := h'.trans h
  join h h' := by
    rw [List.filter_append, List.filter_append, List.filter_cons, List.filter_cons]
    refine h.append ?_
    split
    · exact h'.cons_cons _
    · exact h'

theorem filter_inert_sublist {r : Rewrite} {swap : Text → Text → Prop} {w : String}
    (h : r.pattern.Respells swap) (hsw : ∀ old new, swap old new → ∀ c ∈ new, c ∈ w.toList)
    (hw : ∀ c ∈ w.toList, isInert c = false) (t : Text) :
    ((r.apply t).filter isInert).Sublist (t.filter isInert) :=
  (Rewrite.apply_respelled h t).filter_sublist fun old new hs c hc => hw c (hsw old new hs c hc)

theorem filter_inert_convert_sublist (dialect : Dialect) (t : Text) :
    ((dialect.convert t).filter isInert).Sublist (t.filter isInert) := by
  have hR := stepwise_filter_sublist isInert
  refine hR.convert (fun r hr t => ?_) (hR.restyle fun style hs l => ?_) dialect t
  · exact filter_inert_sublist (blockRewrites_respell r hr) (fun _ _ h => h.written) (by decide) t
  · exact filter_inert_sublist (inlineChain_writes style hs) (fun _ _ h => h) (by decide) l

/-! ## Texts of which nothing is lost -/

def colorOpening : String := "\x7bcolor:"

/-- Nothing opens a colored span, and no tag has a value. -/
structure Lossless (t : Text) : Prop where
  equals_not_mem : '=' ∉ t
  color_absent : ¬ colorOpening.toList <:+: t

theorem Lossless.join_iff {s t : Text} : Lossless (s ++ '\n' :: t) ↔ Lossless s ∧ Lossless t := by
  have hi := infix_append_newline_iff (m := colorOpening.toList) (a := s) (b := t) (by decide) (by decide)
  constructor
  · intro h
    obtain ⟨he, hc⟩ := h
    rw [hi, not_or] at hc
    simp only [List.mem_append, List.mem_cons, not_or] at he
    exact ⟨⟨he.1, hc.1⟩, ⟨he.2.2, hc.2⟩⟩
  · rintro ⟨hs, ht⟩
    refine ⟨by simp [hs.equals_not_mem, ht.equals_not_mem], ?_⟩
    rw [hi, not_or]
    exact ⟨hs.color_absent, ht.color_absent⟩

def Keeps (s t : Text) : Prop := Lossless s → Lossless t ∧ t.filter isInert = s.filter isInert

theorem stepwise_keeps : Stepwise Keeps where
  refl _ h := ⟨h, rfl⟩
  trans h h' hs := by
    obtain ⟨ht, he⟩ := h hs
    obtain ⟨hu, he'⟩ := h' ht
    exact ⟨hu, he'.trans he⟩
  join h h' hs := by
    obtain ⟨hs, hs'⟩ := Lossless.join_iff.mp hs
    obtain ⟨ht, he⟩ := h hs
    obtain ⟨ht', he'⟩ := h' hs'
    exact ⟨Lossless.join_iff.mpr ⟨ht, ht'⟩, by
      rw [List.filter_append, List.filter_append, List.filter_cons, List.filter_cons, he, he']⟩

theorem Respelled.keeps {d w : String} {s t : Text} (h : Respelled (Swaps d w) s t)
    (hk : ∀ c ∈ d.toList ++ w.toList, isInert c = false)
    (hw : ∀ c ∈ w.toList, c ≠ '=' ∧ c ∉ colorOpening.toList) : Keeps s t := fun hs =>
  ⟨⟨h.not_mem (fun _ _ hsw he => (hw _ (hsw.written _ he)).1 rfl) hs.equals_not_mem,
      fun hc => hs.color_absent (h.occurs_of_occurs (by decide)
        (fun _ _ hsw => ⟨hsw.new_ne_nil, fun c hc => (hw c (hsw.written c hc)).2⟩) hc)⟩,
    h.filter_eq fun _ _ hsw c hc => hk c <| (List.mem_append.mp hc).elim
      (fun hc => List.mem_append_left _ (hsw.dropped c hc))
      (fun hc => List.mem_append_right _ (hsw.written c hc))⟩

theorem blockRewrites_keep (r : Rewrite) (hr : r ∈ blockRewrites) (t : Text) : Keeps t (r.apply t) := by
  intro ht
  have h := (Rewrite.apply_respelled (blockRewrites_respell r hr) t).infixes
  have h' : Respelled (Swaps droppedBlockMarks writtenBlockMarks) t (r.apply t) := h.mono fun old new hs =>
    ⟨hs.1.dropped.resolve_right fun he => ht.equals_not_mem (hs.2.subset he), hs.1.new_ne_nil, hs.1.written⟩
  exact h'.keeps (by decide) (by decide) ht

theorem markStyles_keep : ∀ l, Keeps l (restyle markStyles l) :=
  stepwise_keeps.restyle fun style hs l =>
    (Rewrite.apply_respelled (markStyles_respell style hs) l).keeps (by decide) (by decide)

theorem color_apply_eq_self {t : Text} (h : Lossless t) : Rewrite.apply ⟨.anywhere, color⟩ t = t :=
  Rewrite.apply_eq_self fun _ hs => color_eq_none fun hp => h.color_absent (hp.isInfix.trans hs.isInfix)

theorem panelTitle_apply_eq_self {t : Text} (h : Lossless t) :
    Rewrite.apply ⟨.anywhere, panelTitle⟩ t = t :=
  Rewrite.apply_eq_self fun s hs => panelTitle_eq_none fun hp =>
    h.equals_not_mem (hs.subset (hp.subset (by decide)))

theorem inlineStyles_keep (l : Text) : Keeps l (inlineStyles l) := by
  intro hl
  obtain ⟨hm, he⟩ := markStyles_keep l hl
  rw [inlineStyles_eq, color_apply_eq_self hm, panelTitle_apply_eq_self hm]
  exact ⟨hm, he⟩

/-- Inert characters come out in order and none twice; without colors and values of tags, all do. -/
theorem filter_inert_convert (dialect : Dialect) (t : Text) :
    ((dialect.convert t).filter isInert).Sublist (t.filter isInert) ∧
      ('=' ∉ t → ¬ colorOpening.toList <:+: t → (dialect.convert t).filter isInert = t.filter isInert) :=
  ⟨filter_inert_convert_sublist dialect t, fun he hc =>
    (stepwise_keeps.convert blockRewrites_keep inlineStyles_keep dialect t ⟨he, hc⟩).2⟩

theorem filter_inert_convert_code :
    '=' ∉ "* Öl\n\x7bcode\x7dA\x7bcode\x7d".toList ∧
      ¬ colorOpening.toList <:+: "* Öl\n\x7bcode\x7dA\x7bcode\x7d".toList ∧
      (Dialect.legacy.convert "* Öl\n\x7bcode\x7dA\x7bcode\x7d".toList).filter isInert = ['Ö', 'A'] := by
  have he : '=' ∉ "* Öl\n\x7bcode\x7dA\x7bcode\x7d".toList := by decide
  have hc : ¬ colorOpening.toList <:+: "* Öl\n\x7bcode\x7dA\x7bcode\x7d".toList := by decide
  exact ⟨he, hc, ((filter_inert_convert .legacy _).2 he hc).trans (by decide)⟩

end JiraMarkup
