import JiraMarkup.Rewrite
import JiraMarkup.Proofs.Respelling

/-!
# Scans

`Scanned` says what a scan writes, match by match and without counting the
characters to skip; `scanned_scan` is the only place where the counting is
looked at. Whatever a pattern does to one match, a rewrite does to a text.
-/

namespace JiraMarkup

/-! ## Patterns -/

def Pattern.Consumes (p : Pattern) : Prop :=
  ∀ t m, p t = some m → ∃ used, used ≠ [] ∧ t = used ++ m.rest

def Pattern.Respells (swap : Text → Text → Prop) (p : Pattern) : Prop :=
  ∀ t m, p t = some m → ∃ used, used ≠ [] ∧ t = used ++ m.rest ∧ Respelled swap used m.output

theorem Pattern.Respells.consumes {swap : Text → Text → Prop} {p : Pattern} (h : p.Respells swap) :
    p.Consumes := fun t m hm => by
  obtain ⟨used, hne, ht, -⟩ := h t m hm
  exact ⟨used, hne, ht⟩

theorem Pattern.Respells.mono {swap swap' : Text → Text → Prop} {p : Pattern} (h : p.Respells swap)
    (hsw : ∀ old new, swap old new → swap' old new) : p.Respells swap' := fun t m hm => by
  obtain ⟨used, hne, ht, hr⟩ := h t m hm
  exact ⟨used, hne, ht, hr.mono hsw⟩

theorem Pattern.Consumes.nil_eq_none {p : Pattern} (h : p.Consumes) : p [] = none := by
  rw [Option.eq_none_iff_forall_ne_some]
  intro m hm
  obtain ⟨used, hne, ht⟩ := h [] m hm
  exact hne (List.append_eq_nil_iff.mp ht.symm).1

def Anchor.opensBehind (a : Anchor) (opened : Bool) (used : Text) : Bool :=
  used.foldl (fun _ c => a.opensAfter c) opened

theorem Anchor.opensBehind_anywhere (used : Text) : anywhere.opensBehind true used = true := by
  induction used with
  | nil => rfl
  | cons _ used ih => exact ih

theorem Anchor.opensBehind_textStart (used : Text) : textStart.opensBehind false used = false := by
  induction used with
  | nil => rfl
  | cons _ used ih => exact ih

namespace Rewrite

variable {r : Rewrite}

/-! ## Steps of a scan -/

theorem scan_skip (r : Rewrite) (rest : Text) : ∀ (used : Text) (opened : Bool),
    r.scan opened used.length (used ++ rest) = r.scan (r.anchor.opensBehind opened used) 0 rest
  | [], _ => rfl
  | c :: used, _ => by
    rw [List.cons_append, List.length_cons, scan, scan_skip r rest used]; rfl

theorem scan_hit {opened : Bool} {used rest output : Text} (hne : used ≠ [])
    (h : r.tryAt opened (used ++ rest) = some ⟨output, rest⟩) :
    r.scan opened 0 (used ++ rest) =
      output ++ r.scan (r.anchor.opensBehind opened used) 0 rest := by
  obtain ⟨c, used, rfl⟩ := List.exists_cons_of_ne_nil hne
  rw [List.cons_append] at h ⊢
  rw [scan, h]
  simp only [List.length_append, Nat.add_sub_cancel]
  rw [scan_skip]; rfl

theorem scan_miss {opened : Bool} {c : Char} {t : Text} (h : r.tryAt opened (c :: t) = none) :
    r.scan opened 0 (c :: t) = c :: r.scan (r.anchor.opensAfter c) 0 t := by
  rw [scan, h]

/-- What the scan of a text writes: each match is replaced, and all else is copied. -/
inductive Scanned (r : Rewrite) : Bool → Text → Text → Prop
  | nil (opened : Bool) : Scanned r opened [] []
  | hit {opened : Bool} {used rest output u : Text} : used ≠ [] →
      r.tryAt opened (used ++ rest) = some ⟨output, rest⟩ →
      Scanned r (r.anchor.opensBehind opened used) rest u → Scanned r opened (used ++ rest) (output ++ u)
  | miss {opened : Bool} {c : Char} {t u : Text} : r.tryAt opened (c :: t) = none →
      Scanned r (r.anchor.opensAfter c) t u → Scanned r opened (c :: t) (c :: u)

theorem tryAt_eq_some {opened : Bool} {t : Text} {m : Match} (h : r.tryAt opened t = some m) :
    opened = true ∧ r.pattern t = some m := by
  cases opened with
  | false => cases h
  | true => exact ⟨rfl, h⟩

theorem scanned_scan (hc : r.pattern.Consumes) (opened : Bool) (t : Text) :
    Scanned r opened t (r.scan opened 0 t) := by
  induction hn : t.length using Nat.strongRecOn generalizing opened t with
  | _ n ih =>
    cases t with
    | nil => exact .nil opened
    | cons c t =>
      cases h : r.tryAt opened (c :: t) with
      | none =>
        rw [scan_miss h]
        exact .miss h (ih t.length (by simp at hn; omega) _ t rfl)
      | some m =>
        obtain ⟨used, hne, ht⟩ := hc _ m (tryAt_eq_some h).2
        have hlen := List.length_pos_iff.mpr hne
        rw [ht] at h hn ⊢
        rw [List.length_append] at hn
        rw [scan_hit hne h]
        exact .hit hne h (ih m.rest.length (by omega) _ m.rest rfl)

/-! ## Whole texts -/

theorem Scanned.respelled {swap : Text → Text → Prop} (h : r.pattern.Respells swap) {opened : Bool}
    {t u : Text} (hs : Scanned r opened t u) : Respelled swap t u := by
  induction hs with
  | nil => exact .nil
  | hit _ ht _ ih =>
    obtain ⟨used, -, hu, hr⟩ := h _ _ (tryAt_eq_some ht).2
    obtain rfl := List.append_cancel_right hu
    exact hr.append ih
  | miss _ _ ih => exact .copy _ ih

theorem apply_respelled {swap : Text → Text → Prop} (h : r.pattern.Respells swap) (t : Text) :
    Respelled swap t (r.apply t) := (scanned_scan h.consumes true t).respelled h

theorem scan_eq_self {opened : Bool} {t : Text} (h : ∀ s, s <:+ t → r.pattern s = none) :
    r.scan opened 0 t = t := by
  induction t generalizing opened with
  | nil => rfl
  | cons c t ih =>
    have hc : r.tryAt opened (c :: t) = none := by
      cases opened with
      | false => rfl
      | true => exact h _ List.suffix_rfl
    rw [scan_miss hc, ih fun s hs => h s (hs.trans (List.suffix_cons c t))]

theorem apply_eq_self {t : Text} (h : ∀ s, s <:+ t → r.pattern s = none) : r.apply t = t :=
  scan_eq_self h

section
variable (hr : r.anchor = .anywhere)
include hr

theorem apply_hit {used rest output : Text} (hne : used ≠ [])
    (h : r.pattern (used ++ rest) = some ⟨output, rest⟩) : r.apply (used ++ rest) = output ++ r.apply rest := by
  have hit : r.tryAt true (used ++ rest) = some ⟨output, rest⟩ := h
  rw [apply, scan_hit hne hit, hr, Anchor.opensBehind_anywhere]
  rfl

theorem apply_of_some (hc : r.pattern.Consumes) {t : Text} {m : Match} (h : r.pattern t = some m) :
    r.apply t = m.output ++ r.apply m.rest := by
  obtain ⟨used, hne, rfl⟩ := hc t m h
  exact apply_hit hr hne h

theorem apply_miss {c : Char} {t : Text} (h : r.pattern (c :: t) = none) :
    r.apply (c :: t) = c :: r.apply t := by
  have miss : r.tryAt true (c :: t) = none := h
  rw [apply, scan_miss miss, hr]
  rfl

theorem apply_append {s t : Text} (h : ∀ u, u ≠ [] → u <:+ s → r.pattern (u ++ t) = none) :
    r.apply (s ++ t) = s ++ r.apply t := by
  induction s with
  | nil => rfl
  | cons c s ih =>
    have hc := h (c :: s) (by simp) List.suffix_rfl
    rw [List.cons_append] at hc ⊢
    rw [apply_miss hr hc, ih fun u hu hs => h u hu (hs.trans (List.suffix_cons c s))]
    rfl

theorem apply_once {s used rest output : Text} (hs : ∀ u, u ≠ [] → u <:+ s → r.pattern (u ++ (used ++ rest)) = none)
    (hne : used ≠ []) (h : r.pattern (used ++ rest) = some ⟨output, rest⟩) (hrest : r.apply rest = rest) :
    r.apply (s ++ (used ++ rest)) = s ++ (output ++ rest) := by
  rw [apply_append hr hs, apply_hit hr hne h, hrest]

end

end Rewrite

/-! ## Stretches without matches -/

namespace Pattern

variable {p : Pattern} {s t : Text}

/-- No match begins in the text, whatever follows it. -/
def Passes (p : Pattern) (t : Text) : Prop := ∀ u, u ≠ [] → u <:+ t → ∀ v, p (u ++ v) = none

theorem Passes.cons {c : Char} (hc : ∀ v, p (c :: t ++ v) = none) (ht : p.Passes t) : p.Passes (c :: t) := by
  intro u hu hs v
  rcases List.suffix_cons_iff.mp hs with rfl | hs
  · exact hc v
  · exact ht u hu hs v

theorem Passes.append (hs : p.Passes s) (ht : p.Passes t) : p.Passes (s ++ t) := by
  induction s with
  | nil => exact ht
  | cons c s ih =>
    have hs' : p.Passes s := fun u hu hus => hs u hu (hus.trans (List.suffix_cons c s))
    refine Passes.cons (fun v => ?_) (ih hs')
    have h := hs (c :: s) (by simp) List.suffix_rfl (t ++ v)
    simpa using h

def BeginsWith (p : Pattern) (c : Char) : Prop := ∀ d t m, p (d :: t) = some m → d = c

theorem BeginsWith.passes {c : Char} (h : p.BeginsWith c) (hc : c ∉ t) : p.Passes t := by
  intro u hu hs v
  obtain ⟨d, u, rfl⟩ := List.exists_cons_of_ne_nil hu
  rw [Option.eq_none_iff_forall_ne_some]
  intro m hm
  exact hc (hs.subset (h d _ m hm ▸ List.mem_cons_self))

end Pattern

namespace Rewrite

variable {r : Rewrite}

theorem apply_of_passes (hr : r.anchor = .anywhere) {s : Text} (h : r.pattern.Passes s) (t : Text) :
    r.apply (s ++ t) = s ++ r.apply t := apply_append hr fun u hu hus => h u hu hus t

theorem apply_eq_self_of_passes (hr : r.anchor = .anywhere) {t : Text} (h : r.pattern.Passes t) :
    r.apply t = t := by
  have ht := apply_of_passes hr h []
  rwa [List.append_nil, show r.apply [] = [] from rfl, List.append_nil] at ht

/-! ## Matches at the start of a text -/

section
variable (hr : r.anchor = .textStart)
include hr

theorem scan_textStart (t : Text) : r.scan false 0 t = t := by
  induction t with
  | nil => rfl
  | cons c t ih =>
    rw [scan_miss (show r.tryAt false (c :: t) = none from rfl), hr]
    exact congrArg (c :: ·) ih

theorem apply_textStart_of_none {t : Text} (h : r.pattern t = none) : r.apply t = t := by
  cases t with
  | nil => rfl
  | cons c t =>
    rw [apply, scan_miss (show r.tryAt true (c :: t) = none from h), hr]
    exact congrArg (c :: ·) (scan_textStart hr t)

theorem apply_textStart_of_some (hc : r.pattern.Consumes) {t : Text} {m : Match}
    (h : r.pattern t = some m) : r.apply t = m.output ++ m.rest := by
  obtain ⟨used, hne, rfl⟩ := hc t m h
  rw [apply, scan_hit hne (show r.tryAt true _ = some ⟨m.output, m.rest⟩ from h), hr]
  obtain ⟨c, used, rfl⟩ := List.exists_cons_of_ne_nil hne
  rw [show Anchor.textStart.opensBehind true (c :: used) = false from
    Anchor.opensBehind_textStart used, scan_textStart hr]

theorem fires_textStart (hc : r.pattern.Consumes) (t : Text) : r.fires t = (r.pattern t).isSome := by
  have hf : ∀ t, r.firesFrom false t = false := fun t => by
    induction t with
    | nil => rfl
    | cons c t ih => rw [firesFrom, hr]; simpa [tryAt, Anchor.opensAfter] using ih
  cases t with
  | nil => rw [hc.nil_eq_none]; rfl
  | cons c t => simp [fires, firesFrom, tryAt, hr, Anchor.opensAfter, hf]

theorem apply_textStart_of_not_fires (hc : r.pattern.Consumes) {t : Text} (h : r.fires t = false) :
    r.apply t = t := by
  rw [fires_textStart hr hc, Option.isSome_eq_false_iff, Option.isNone_iff_eq_none] at h
  exact apply_textStart_of_none hr h

end

/-! ## The end of a line -/

theorem scan_lineStart (p : Pattern) {t : Text} (ht : '\n' ∉ t) (opened : Bool) (n : Nat) :
    scan ⟨.lineStart, p⟩ opened n t = scan ⟨.textStart, p⟩ opened n t := by
  induction t generalizing opened n with
  | nil => rfl
  | cons c t ih =>
    rw [List.mem_cons, not_or] at ht
    have hclosed : Anchor.lineStart.opensAfter c = Anchor.textStart.opensAfter c :=
      beq_eq_false_iff_ne.mpr (Ne.symm ht.1)
    cases n with
    | succ n => rw [scan, scan, hclosed, ih ht.2]
    | zero =>
      rw [scan, scan]
      simp only [tryAt, hclosed, ih ht.2]

section
variable {a b : Text} (hopen : r.anchor.opensAfter '\n' = true) (hb : r.pattern ('\n' :: b) = none)
  (ha : ∀ s, s <:+ a → r.pattern (s ++ '\n' :: b) =
    (r.pattern s).map fun m => ⟨m.output, m.rest ++ '\n' :: b⟩)
include hopen hb ha

theorem Scanned.scan_append_newline {opened : Bool} {t u : Text} (h : Scanned r opened t u)
    (hsuf : t <:+ a) : r.scan opened 0 (t ++ '\n' :: b) = u ++ '\n' :: r.apply b := by
  induction h with
  | nil opened =>
    have hn : r.tryAt opened ('\n' :: b) = none := by
      cases opened with
      | false => rfl
      | true => exact hb
    rw [List.nil_append, scan_miss hn, hopen]; rfl
  | hit hne ht _ ih =>
    obtain ⟨rfl, hp⟩ := tryAt_eq_some ht
    have hh := ha _ hsuf
    rw [hp, List.append_assoc] at hh
    rw [List.append_assoc, scan_hit hne (show r.tryAt true _ = _ from hh),
      ih ((List.suffix_append _ _).trans hsuf), List.append_assoc]
  | @miss opened c t u ht _ ih =>
    have hm : r.tryAt opened (c :: (t ++ '\n' :: b)) = none := by
      cases opened with
      | false => rfl
      | true => exact (ha _ hsuf).trans (by rw [show r.pattern (c :: t) = none from ht]; rfl)
    rw [List.cons_append, scan_miss hm, ih ((List.suffix_cons c t).trans hsuf), List.cons_append]

/-- If every match in front of a line feed stays what it is when the text goes on behind it, then
the two sides are rewritten apart. -/
theorem apply_append_newline (hc : r.pattern.Consumes) :
    r.apply (a ++ '\n' :: b) = r.apply a ++ '\n' :: r.apply b :=
  (scanned_scan hc true a).scan_append_newline hopen hb ha List.suffix_rfl

end

end Rewrite

end JiraMarkup
