import JiraMarkup.BlockMarkup
import JiraMarkup.Proofs.Scanning
import JiraMarkup.Proofs.Search

/-!
# Panels

The parts of a panel, and that a panel ends where it ends if the text goes on
behind a line without any `{panel}`.
-/

namespace JiraMarkup

/-! ## The parts of a panel -/

theorem dropNewline_eq (t : Text) : ∃ nl, nl.Sublist ['\n'] ∧ t = nl ++ dropNewline t := by
  unfold dropNewline
  split
  · exact ⟨['\n'], List.Sublist.refl _, rfl⟩
  · exact ⟨[], List.nil_sublist _, rfl⟩

theorem eq_newline_of_mem {nl : Text} (h : nl.Sublist ['\n']) : ∀ c ∈ nl, c = '\n' := fun _ hc =>
  List.mem_singleton.mp (h.subset hc)

theorem panelBody?_eq_some {t body rest : Text} (h : panelBody? t = some (body, rest)) :
    ∃ nl, nl.Sublist ['\n'] ∧ t = body ++ nl ++ panelClosing.toList ++ rest := by
  induction t generalizing body with
  | nil => simp [panelBody?] at h
  | cons c t ih =>
    rw [panelBody?] at h
    split at h
    · rename_i r hr
      simp only [Option.some.injEq, Prod.mk.injEq] at h
      obtain ⟨rfl, rfl⟩ := h
      exact ⟨[], List.nil_sublist _, after?_eq_some_iff.mp hr⟩
    · split at h
      · rename_i hc
        obtain ⟨r, hr, he⟩ := Option.map_eq_some_iff.mp h
        simp only [Prod.mk.injEq] at he
        obtain ⟨rfl, rfl⟩ := he
        exact ⟨['\n'], List.Sublist.refl _, by rw [hc, after?_eq_some_iff.mp hr]; rfl⟩
      · obtain ⟨⟨body', r⟩, hb, he⟩ := Option.map_eq_some_iff.mp h
        simp only [Prod.mk.injEq] at he
        obtain ⟨rfl, rfl⟩ := he
        obtain ⟨nl, hnl, rfl⟩ := ih hb
        exact ⟨nl, hnl, rfl⟩

theorem panel?_eq_some {t : Text} {p : Panel} (h : panel? t = some p) :
    ∃ nl nl', nl.Sublist ['\n'] ∧ nl'.Sublist ['\n'] ∧ t = panelOpening.toList ++ p.title ++ ('}' :: nl) ++
      p.body ++ (nl' ++ panelClosing.toList) ++ p.rest := by
  simp only [panel?, Option.bind_eq_bind, Option.bind_eq_some_iff, Option.pure_def, Option.some.injEq] at h
  obtain ⟨inner, hinner, opened, hopened, ⟨body, rest⟩, hbody, rfl⟩ := h
  obtain ⟨nl, hnl, hopened'⟩ := dropNewline_eq opened
  obtain ⟨nl', hnl', hbody'⟩ := panelBody?_eq_some hbody
  refine ⟨nl, nl', hnl, hnl', ?_⟩
  have htitle : inner = inner.takeWhile (· != '}') ++ '}' :: opened := by
    have := after?_eq_some_iff.mp hopened
    rw [show '}' :: opened = inner.dropWhile (· != '}') from this.symm, List.takeWhile_append_dropWhile]
  rw [hopened', hbody'] at htitle
  rw [after?_eq_some_iff.mp hinner]
  conv_lhs => rw [htitle]
  simp

/-! ## What becomes of a panel -/

theorem panelTable_respells :
    panelTable.pattern.Respells (Swaps "\x7bpanel:title=\x7d\n" "\n| -") := by
  intro t m h
  obtain ⟨p, hp, rfl⟩ := Option.map_eq_some_iff.mp h
  obtain ⟨nl, nl', hnl, hnl', ht⟩ := panel?_eq_some hp
  refine ⟨_, by simp, ht, ?_⟩
  have hopening : Respelled (Swaps "\x7bpanel:title=\x7d\n" "\n| -") panelOpening.toList "\n| ".toList :=
    .of_swap ⟨by decide, by simp, by decide⟩
  have hmiddle : Respelled (Swaps "\x7bpanel:title=\x7d\n" "\n| -") ('}' :: nl)
      " |\n| --- |\n| ".toList := by
    refine .of_swap ⟨fun c hc => ?_, by simp, by decide⟩
    rcases List.mem_cons.mp hc with rfl | hc
    · decide
    · rw [eq_newline_of_mem hnl c hc]; decide
  have hclosing : Respelled (Swaps "\x7bpanel:title=\x7d\n" "\n| -") (nl' ++ panelClosing.toList)
      " |".toList := by
    refine .of_swap ⟨fun c hc => ?_, by simp, by decide⟩
    rcases List.mem_append.mp hc with hc | hc
    · rw [eq_newline_of_mem hnl' c hc]; decide
    · exact (show ∀ c ∈ panelClosing.toList, c ∈ "\x7bpanel:title=\x7d\n".toList by decide) c hc
  exact (((hopening.append (.refl _ _)).append hmiddle).append (.refl _ _)).append hclosing

theorem panel?_title_sublist {t : Text} {p : Panel} (h : panel? t = some p) :
    ∃ used, used ≠ [] ∧ t = used ++ p.rest ∧ p.title.Sublist used := by
  obtain ⟨nl, nl', -, -, ht⟩ := panel?_eq_some h
  refine ⟨_, by simp, ht, ?_⟩
  simp only [List.append_assoc]
  exact (List.sublist_append_left _ _).trans (List.sublist_append_right _ _)

section
variable {u : Text} (hu : '}' ∉ u)
include hu

theorem panel?_opened (v : Text) : panel? (panelOpening.toList ++ (u ++ '}' :: v)) =
    (panelBody? (dropNewline v)).map fun (body, rest) => ⟨u, body, rest⟩ := by
  obtain ⟨htake, hdrop⟩ := takeWhile_append_mark hu v
  have hafter : after? "\x7d" ('}' :: v) = some v := after?_append "\x7d" v
  simp only [panel?, after?_append, Option.bind_eq_bind, Option.bind_some, hdrop, hafter, htake]
  cases panelBody? (dropNewline v) <;> rfl

theorem panel?_unopened : panel? (panelOpening.toList ++ u) = none := by
  have hd : u.dropWhile (· != '}') = [] := List.dropWhile_eq_nil_iff.mpr (bne_of_not_mem hu)
  simp only [panel?, after?_append, Option.bind_eq_bind, Option.bind_some, hd]
  rfl

end

theorem panel?_eq_none {t : Text} (h : ¬ panelOpening.toList <+: t) : panel? t = none := by
  simp [panel?, after?_eq_none_iff.mpr h]

theorem panelTable_eq_self {t : Text} (h : ¬ panelOpening.toList <:+: t) : panelTable.apply t = t := by
  refine Rewrite.apply_eq_self fun s hs => Option.map_eq_none_iff.mpr (panel?_eq_none fun hp => ?_)
  exact h (hp.isInfix.trans hs.isInfix)

/-! ## The end of a line behind a panel -/

section
variable {b : Text} (hb : ¬ panelClosing.toList <:+: b)
include hb

theorem panelBody?_eq_none {t : Text} (ht : t <:+ b) : panelBody? t = none := by
  rw [Option.eq_none_iff_forall_ne_some]
  rintro ⟨body, rest⟩ h
  obtain ⟨nl, -, rfl⟩ := panelBody?_eq_some h
  exact hb ((List.infix_append _ _ _).trans ht.isInfix)

theorem panelBody?_append_newline (x : Text) :
    panelBody? (x ++ '\n' :: b) = (panelBody? x).map fun p => (p.1, p.2 ++ '\n' :: b) := by
  induction x with
  | nil =>
    have h1 : after? panelClosing ('\n' :: b) = none := after?_newline (by decide) (by decide) b
    have h2 : after? panelClosing b = none := after?_eq_none_iff.mpr fun h => hb h.isInfix
    simp [panelBody?, h1, h2]
  | cons c x ih =>
    rw [List.cons_append, panelBody?, panelBody?, ← List.cons_append, after?_append_newline (by decide)]
    cases after? panelClosing (c :: x) with
    | some rest => rfl
    | none =>
      simp only [Option.map_none]
      split
      · rw [after?_append_newline (by decide), Option.map_map, Option.map_map]; rfl
      · rw [ih, Option.map_map, Option.map_map]; rfl

theorem panelBody?_dropNewline_eq_none {t : Text} (ht : t <:+ b) : panelBody? (dropNewline t) = none := by
  obtain ⟨nl, -, h⟩ := dropNewline_eq t
  exact panelBody?_eq_none hb (List.IsSuffix.trans ⟨nl, h.symm⟩ ht)

theorem panelBody?_dropNewline_append (x : Text) : panelBody? (dropNewline (x ++ '\n' :: b)) =
    (panelBody? (dropNewline x)).map fun p => (p.1, p.2 ++ '\n' :: b) := by
  cases x with
  | nil => exact panelBody?_eq_none hb List.suffix_rfl
  | cons c x =>
    by_cases hc : c = '\n'
    · subst hc; exact panelBody?_append_newline hb x
    · rw [show dropNewline (c :: x ++ '\n' :: b) = c :: x ++ '\n' :: b by simp [dropNewline, hc],
        show dropNewline (c :: x) = c :: x by simp [dropNewline, hc]]
      exact panelBody?_append_newline hb (c :: x)

theorem panel?_append_newline (s : Text) :
    panel? (s ++ '\n' :: b) = (panel? s).map fun p => { p with rest := p.rest ++ '\n' :: b } := by
  cases h : after? panelOpening s with
  | none =>
    have hs := after?_eq_none_iff.mp h
    rw [panel?_eq_none hs, panel?_eq_none fun hp => hs ((prefix_append_newline_iff (by decide)).mp hp)]
    rfl
  | some inner =>
    rw [after?_eq_some_iff.mp h, List.append_assoc]
    by_cases hi : '}' ∈ inner
    · obtain ⟨u, v, rfl, hu⟩ := List.eq_append_cons_of_mem hi
      rw [List.append_assoc, List.cons_append, panel?_opened hu, panel?_opened hu,
        panelBody?_dropNewline_append hb, Option.map_map, Option.map_map]
      rfl
    -- A title that ends behind the line leaves no closing tag for the body.
    · rw [panel?_unopened hi]
      by_cases hb' : '}' ∈ b
      · obtain ⟨u, v, rfl, hu⟩ := List.eq_append_cons_of_mem hb'
        have hu' : '}' ∉ inner ++ '\n' :: u := by simp [hi, hu]
        have := panel?_opened hu' v
        rw [panelBody?_dropNewline_eq_none hb ⟨u ++ ['}'], by simp⟩] at this
        simpa using this
      · exact panel?_unopened (by simp [hi, hb'])

end

end JiraMarkup
