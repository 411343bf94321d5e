import JiraMarkup.Text

/-!
# Lines of a text

Splitting a text and joining its lines give the text back. The other way round
this holds of the documents that have a line and no line feed inside one, the
well-formed ones, and of no others: those come back longer.
-/

namespace JiraMarkup

/-! ## Splitting and joining -/

theorem splitLines_ne_nil (t : Text) : splitLines t ≠ [] := by
  cases t with
  | nil => simp [splitLines]
  | cons c t =>
    rw [splitLines]
    split
    · simp
    · split <;> simp

theorem splitLines_newline (t : Text) : splitLines ('\n' :: t) = [] :: splitLines t := by
  simp [splitLines]

theorem splitLines_cons {c : Char} {t l : Text} {ls : List Text} (hc : c ≠ '\n')
    (h : splitLines t = l :: ls) : splitLines (c :: t) = (c :: l) :: ls := by
  simp [splitLines, hc, h]

theorem joinLines_cons (l : Text) {ls : List Text} (h : ls ≠ []) :
    joinLines (l :: ls) = l ++ '\n' :: joinLines ls := by
  cases ls with
  | nil => exact absurd rfl h
  | cons m ls => rfl

theorem joinLines_cons_cons (c : Char) (l : Text) (ls : List Text) :
    joinLines ((c :: l) :: ls) = c :: joinLines (l :: ls) := by
  cases ls <;> rfl

theorem joinLines_append_cons (s l : Text) (ls : List Text) :
    joinLines ((s ++ l) :: ls) = s ++ joinLines (l :: ls) := by
  induction s with
  | nil => rfl
  | cons c s ih => rw [List.cons_append, joinLines_cons_cons, ih, List.cons_append]

theorem joinLines_append {ls ms : List Text} (hl : ls ≠ []) (hm : ms ≠ []) :
    joinLines (ls ++ ms) = joinLines ls ++ '\n' :: joinLines ms := by
  induction ls with
  | nil => exact absurd rfl hl
  | cons l ls ih =>
    by_cases h : ls = []
    · subst h; exact joinLines_cons l hm
    · rw [List.cons_append, joinLines_cons l (by simp [h]), ih h, joinLines_cons l h,
        List.append_assoc, List.cons_append]

theorem joinLines_splitLines (t : Text) : joinLines (splitLines t) = t := by
  induction t with
  | nil => rfl
  | cons c t ih =>
    by_cases hc : c = '\n'
    · subst hc
      rw [splitLines_newline, joinLines_cons _ (splitLines_ne_nil t), ih, List.nil_append]
    · obtain ⟨l, ls, h⟩ := List.exists_cons_of_ne_nil (splitLines_ne_nil t)
      rw [splitLines_cons hc h, joinLines_cons_cons, ← h, ih]

theorem mem_joinLines {ls : List Text} {l : Text} {c : Char} (hl : l ∈ ls) (hc : c ∈ l) :
    c ∈ joinLines ls := by
  induction ls with
  | nil => simp at hl
  | cons m ms ih =>
    by_cases hms : ms = []
    · subst hms
      rw [List.mem_singleton] at hl
      exact hl ▸ hc
    · rw [joinLines_cons m hms]
      rcases List.mem_cons.mp hl with rfl | hl
      · exact List.mem_append_left _ hc
      · exact List.mem_append_right _ (List.mem_cons_of_mem _ (ih hl))

theorem splitLines_append_newline (a b : Text) :
    splitLines (a ++ '\n' :: b) = splitLines a ++ splitLines b := by
  induction a with
  | nil => exact splitLines_newline b
  | cons c a ih =>
    rw [List.cons_append]
    by_cases hc : c = '\n'
    · subst hc; rw [splitLines_newline, splitLines_newline, ih, List.cons_append]
    · obtain ⟨l, ls, h⟩ := List.exists_cons_of_ne_nil (splitLines_ne_nil a)
      rw [splitLines_cons hc h, splitLines_cons hc (by rw [ih, h, List.cons_append]),
        List.cons_append]

theorem splitLines_of_not_mem {l : Text} (h : '\n' ∉ l) : splitLines l = [l] := by
  induction l with
  | nil => rfl
  | cons c l ih =>
    simp only [List.mem_cons, not_or] at h
    exact splitLines_cons (Ne.symm h.1) (ih h.2)

theorem not_mem_of_mem_splitLines {t l : Text} (h : l ∈ splitLines t) : '\n' ∉ l := by
  induction t generalizing l with
  | nil => simp [splitLines] at h; simp [h]
  | cons c t ih =>
    by_cases hc : c = '\n'
    · subst hc
      rw [splitLines_newline] at h
      rcases List.mem_cons.mp h with rfl | h
      · simp
      · exact ih h
    · obtain ⟨m, ms, hm⟩ := List.exists_cons_of_ne_nil (splitLines_ne_nil t)
      rw [splitLines_cons hc hm] at h
      rcases List.mem_cons.mp h with rfl | h
      · simp [Ne.symm hc, ih (hm ▸ List.mem_cons_self)]
      · exact ih (hm ▸ List.mem_cons_of_mem _ h)

theorem splitLines_joinLines {ls : List Text} (hne : ls ≠ []) (h : ∀ l ∈ ls, '\n' ∉ l) :
    splitLines (joinLines ls) = ls := by
  induction ls with
  | nil => exact absurd rfl hne
  | cons l ls ih =>
    have hl := splitLines_of_not_mem (h l List.mem_cons_self)
    by_cases hls : ls = []
    · subst hls; exact hl
    · rw [joinLines_cons l hls, splitLines_append_newline, hl,
        ih hls fun m hm => h m (List.mem_cons_of_mem _ hm)]
      rfl

theorem splitLines_joinLines_flatMap {ls : List Text} (hne : ls ≠ []) :
    splitLines (joinLines ls) = ls.flatMap splitLines := by
  induction ls with
  | nil => exact absurd rfl hne
  | cons l ls ih =>
    by_cases hls : ls = []
    · subst hls
      simp [joinLines]
    · rw [joinLines_cons l hls, splitLines_append_newline, ih hls, List.flatMap_cons]

theorem length_splitLines (t : Text) : (splitLines t).length = t.count '\n' + 1 := by
  induction t with
  | nil => rfl
  | cons c t ih =>
    by_cases hc : c = '\n'
    · subst hc
      rw [splitLines_newline, List.length_cons, ih, List.count_cons_self]
    · obtain ⟨l, ls, h⟩ := List.exists_cons_of_ne_nil (splitLines_ne_nil t)
      rw [splitLines_cons hc h, List.length_cons, ← List.length_cons, ← h, ih, List.count_cons_of_ne hc]

theorem count_joinLines {ls : List Text} (hne : ls ≠ []) :
    (joinLines ls).count '\n' + 1 = ls.length + ls.flatten.count '\n' := by
  induction ls with
  | nil => exact absurd rfl hne
  | cons l ls ih =>
    rw [List.flatten_cons, List.count_append, List.length_cons]
    by_cases hls : ls = []
    · subst hls
      simp only [joinLines, List.length_nil, List.flatten_nil, List.count_nil]
      omega
    · have hcount := ih hls
      rw [joinLines_cons l hls, List.count_append, List.count_cons_self]
      omega

theorem length_le_count_joinLines (ls : List Text) : ls.length ≤ (joinLines ls).count '\n' + 1 := by
  by_cases hls : ls = []
  · subst hls
    exact Nat.zero_le _
  · rw [count_joinLines hls]
    exact Nat.le_add_right _ _

def onLines (f : Text → Text) (t : Text) : Text := joinLines ((splitLines t).map f)

theorem onLines_append_newline (f : Text → Text) (a b : Text) :
    onLines f (a ++ '\n' :: b) = onLines f a ++ '\n' :: onLines f b := by
  rw [onLines, splitLines_append_newline, List.map_append, joinLines_append] <;>
    simp [onLines, splitLines_ne_nil]

theorem onLines_of_not_mem (f : Text → Text) {l : Text} (h : '\n' ∉ l) : onLines f l = f l := by
  rw [onLines, splitLines_of_not_mem h]; rfl

theorem eq_onLines {f g : Text → Text} (happend : ∀ a b, f (a ++ '\n' :: b) = f a ++ '\n' :: f b)
    (hline : ∀ l, '\n' ∉ l → f l = g l) (t : Text) : f t = onLines g t := by
  have hlines : ∀ ls : List Text, ls ≠ [] → (∀ l ∈ ls, '\n' ∉ l) → f (joinLines ls) = joinLines (ls.map g) := by
    intro ls hne hls
    induction ls with
    | nil => exact absurd rfl hne
    | cons l ls ih =>
      rw [List.forall_mem_cons] at hls
      by_cases hnil : ls = []
      · subst hnil
        exact hline l hls.1
      · rw [joinLines_cons l hnil, happend, hline l hls.1, ih hnil hls.2, List.map_cons, joinLines_cons]
        simpa using hnil
  have h := hlines (splitLines t) (splitLines_ne_nil t) fun _ => not_mem_of_mem_splitLines
  rwa [joinLines_splitLines] at h

theorem onLines_onLines {f : Text → Text} (hf : ∀ l, '\n' ∉ l → '\n' ∉ f l) (g : Text → Text) (t : Text) :
    onLines g (onLines f t) = onLines (g ∘ f) t := by
  have hmap : ∀ l ∈ (splitLines t).map f, '\n' ∉ l := fun l hl => by
    obtain ⟨m, hm, rfl⟩ := List.mem_map.mp hl
    exact hf m (not_mem_of_mem_splitLines hm)
  rw [onLines, onLines, onLines, splitLines_joinLines (by simp [splitLines_ne_nil]) hmap, List.map_map]

theorem onLines_joinLines (f : Text → Text) {ls : List Text} (hne : ls ≠ []) :
    onLines f (joinLines ls) = joinLines (ls.map (onLines f)) := by
  induction ls with
  | nil => exact absurd rfl hne
  | cons l ls ih =>
    by_cases hls : ls = []
    · subst hls
      rfl
    · rw [joinLines_cons l hls, onLines_append_newline, ih hls, List.map_cons, joinLines_cons]
      simpa using hls

theorem onLines_eq_self_iff {f : Text → Text} (hf : ∀ l, '\n' ∉ l → '\n' ∉ f l) {t : Text} :
    onLines f t = t ↔ ∀ l ∈ splitLines t, f l = l := by
  have hne : (splitLines t).map f ≠ [] := by simp [splitLines_ne_nil]
  have hlines : ∀ l ∈ (splitLines t).map f, '\n' ∉ l := by
    intro l hl
    obtain ⟨m, hm, rfl⟩ := List.mem_map.mp hl
    exact hf m (not_mem_of_mem_splitLines hm)
  constructor
  · intro h
    have hmap : (splitLines t).map f = (splitLines t).map id := by
      rw [List.map_id, ← splitLines_joinLines hne hlines]
      exact congrArg splitLines h
    exact List.map_inj_left.mp hmap
  · intro h
    rw [onLines, List.map_congr_left h, List.map_id', joinLines_splitLines]

/-! ## Well-formed documents -/

namespace Document

/-- The documents that splitting a text gives. -/
structure WellFormed (d : Document) : Prop where
  lines_ne_nil : d.lines ≠ []
  newline_not_mem : ∀ l ∈ d.lines, '\n' ∉ l

theorem toText_ofText (t : Text) : (ofText t).toText = t := joinLines_splitLines t

theorem wellFormed_ofText (t : Text) : (ofText t).WellFormed :=
  ⟨splitLines_ne_nil t, fun _ hl => not_mem_of_mem_splitLines hl⟩

theorem WellFormed.ofText_toText {d : Document} (h : d.WellFormed) : ofText d.toText = d := by
  cases d with
  | mk lines => exact congrArg Document.mk (splitLines_joinLines h.lines_ne_nil h.newline_not_mem)

theorem WellFormed.mapLines {d : Document} (h : d.WellFormed) {f : Text → Text}
    (hf : ∀ l, '\n' ∉ l → '\n' ∉ f l) : (d.mapLines f).WellFormed where
  lines_ne_nil := by simpa [Document.mapLines] using h.lines_ne_nil
  newline_not_mem l hl := by
    obtain ⟨m, hm, rfl⟩ := List.mem_map.mp hl
    exact hf m (h.newline_not_mem m hm)

theorem toText_mapText (f : Text → Text) (d : Document) : (d.mapText f).toText = f d.toText :=
  toText_ofText _

theorem mapText_mapText (f g : Text → Text) (d : Document) :
    (d.mapText f).mapText g = d.mapText (g ∘ f) := by
  rw [mapText, toText_mapText]
  rfl

theorem mapLines_mapLines (f g : Text → Text) (d : Document) :
    (d.mapLines f).mapLines g = d.mapLines (g ∘ f) := by
  rw [mapLines, mapLines, mapLines, List.map_map]

theorem mapLines_eq_self {f : Text → Text} {d : Document} (h : ∀ l ∈ d.lines, f l = l) :
    d.mapLines f = d := by
  rw [mapLines, List.map_congr_left h, List.map_id']

theorem size_mapText (f : Text → Text) (d : Document) : (d.mapText f).size = (f d.toText).count '\n' + 1 :=
  length_splitLines (f d.toText)

theorem size_le_size_mapText {f : Text → Text} (hf : ∀ t, t.count '\n' ≤ (f t).count '\n')
    (d : Document) : d.size ≤ (d.mapText f).size := by
  have hin : d.size ≤ d.toText.count '\n' + 1 := length_le_count_joinLines d.lines
  have hrule := hf d.toText
  rw [size_mapText]
  omega

/-! ## Splitting again -/

theorem resplit_eq_self_iff {d : Document} : d.resplit = d ↔ d.WellFormed := by
  constructor
  · intro h
    rw [← h]
    exact wellFormed_ofText _
  · exact WellFormed.ofText_toText

theorem size_le_size_resplit (d : Document) : d.size ≤ d.resplit.size :=
  d.size_le_size_mapText fun _ => Nat.le_refl _

theorem size_resplit_eq_iff {d : Document} : d.resplit.size = d.size ↔ d.WellFormed := by
  constructor
  · intro h
    rw [resplit, size_mapText, id_eq, toText, size] at h
    have hne : d.lines ≠ [] := by
      intro hnil
      rw [hnil, List.length_nil] at h
      exact Nat.succ_ne_zero _ h
    -- No line feed is left over for the inside of the lines.
    have hinside : d.lines.flatten.count '\n' = 0 := by
      have hcount := count_joinLines hne
      omega
    have hflat := List.count_eq_zero.mp hinside
    exact ⟨hne, fun l hl hn => hflat (List.mem_flatten_of_mem hl hn)⟩
  · intro h
    rw [resplit_eq_self_iff.mpr h]

/-- Joining undoes splitting on every text. Splitting undoes joining on the well-formed documents and
on no others, and those come back longer. -/
theorem split_join_inverse :
    (∀ t : Text, (ofText t).toText = t) ∧
      ∀ ls : List Text,
        (ofText (toText ⟨ls⟩) = ⟨ls⟩ ↔ ls ≠ [] ∧ ∀ l ∈ ls, '\n' ∉ l) ∧
        ls.length ≤ (ofText (toText ⟨ls⟩)).size ∧
        ((ofText (toText ⟨ls⟩)).size = ls.length ↔ ofText (toText ⟨ls⟩) = ⟨ls⟩) := by
  refine ⟨toText_ofText, fun ls => ⟨?_, size_le_size_resplit ⟨ls⟩, ?_⟩⟩
  · constructor
    · intro h
      have hwell : WellFormed ⟨ls⟩ := resplit_eq_self_iff.mp h
      exact ⟨hwell.lines_ne_nil, hwell.newline_not_mem⟩
    · rintro ⟨hne, hlines⟩
      exact WellFormed.ofText_toText ⟨hne, hlines⟩
  · exact size_resplit_eq_iff.trans resplit_eq_self_iff.symm

example : (resplit ⟨["a\nb".toList, []]⟩).lines = ["a".toList, "b".toList, []] := by decide

example : (resplit ⟨[]⟩).lines = [[]] := by decide

end Document

end JiraMarkup
