import JiraMarkup.Text
import Mathlib.Data.List.Basic
import Mathlib.Data.List.TakeWhile

/-!
# Searching for marks

What the searches find, in terms of prefixes and infixes. A mark without a line
feed is never found across the end of a line, so that a search in a text that
goes on behind a line finds in the line what it finds there alone.
-/

namespace JiraMarkup

/-! ## Character classes -/

/-- Only the characters of the text are looked at, not all that there are. -/
instance decidableForallMem {p : Char → Prop} [DecidablePred p] (t : Text) : Decidable (∀ c ∈ t, p c) :=
  List.decidableBAll p t

instance decidableExistsMem {p : Char → Prop} [DecidablePred p] (t : Text) : Decidable (∃ c ∈ t, p c) :=
  List.decidableBEx p t

theorem isIndent_iff {c : Char} : isIndent c = true ↔ c ∈ " \t".toList := by simp [isIndent]

theorem isBlank_iff {c : Char} : isBlank c = true ↔ c ∈ " \t\n\x0c\r".toList := by
  simp [isBlank, or_assoc]

theorem isLineEnd_of_not_mem {t : Text} (h : '\n' ∉ t) : ∀ c ∈ t, isLineEnd c = false := fun c hc =>
  beq_eq_false_iff_ne.mpr fun (he : c = '\n') => h (he ▸ hc)

/-! ## Runs of characters -/

section
variable {p : Char → Bool} {c : Char} (hc : p c = false)
include hc

theorem takeWhile_append_stop (s b : Text) : (s ++ c :: b).takeWhile p = s.takeWhile p := by
  induction s with
  | nil => simp [hc]
  | cons d s ih => simp only [List.cons_append, List.takeWhile_cons, ih]

theorem dropWhile_append_stop (s b : Text) : (s ++ c :: b).dropWhile p = s.dropWhile p ++ c :: b := by
  induction s with
  | nil => simp [hc]
  | cons d s ih =>
    simp only [List.cons_append, List.dropWhile_cons, ih]
    split <;> rfl

end

theorem head_dropWhile (p : Char → Bool) (t : Text) : ∀ c ∈ (t.dropWhile p).head?, p c = false := by
  intro c hc
  have hhead := List.head?_dropWhile_not p t
  rw [Option.mem_def.mp hc] at hhead
  simpa using hhead

section
variable {p : Char → Bool} {a a' b b' : Text}

theorem takeWhile_append_boundary (ha : ∀ c ∈ a, p c = true) (hb : ∀ c ∈ b.head?, p c = false) :
    (a ++ b).takeWhile p = a ∧ (a ++ b).dropWhile p = b := by
  rw [List.takeWhile_append_of_pos ha, List.dropWhile_append_of_pos ha]
  cases b with
  | nil => simp
  | cons c b => simp [hb c rfl]

theorem bne_of_not_mem {mark : Char} {u : Text} (hu : mark ∉ u) : ∀ c ∈ u, (c != mark) = true := fun c hc =>
  bne_iff_ne.mpr fun (e : c = mark) => hu (e ▸ hc)

theorem takeWhile_append_mark {mark : Char} {u : Text} (hu : mark ∉ u) (t : Text) :
    (u ++ mark :: t).takeWhile (· != mark) = u ∧ (u ++ mark :: t).dropWhile (· != mark) = mark :: t :=
  takeWhile_append_boundary (bne_of_not_mem hu) (by simp)

theorem append_inj_of_boundary (ha : ∀ c ∈ a, p c = true) (ha' : ∀ c ∈ a', p c = true)
    (hb : ∀ c ∈ b.head?, p c = false) (hb' : ∀ c ∈ b'.head?, p c = false) (h : a ++ b = a' ++ b') :
    a = a' ∧ b = b' := by
  obtain ⟨htake, hdrop⟩ := takeWhile_append_boundary ha hb
  obtain ⟨htake', hdrop'⟩ := takeWhile_append_boundary ha' hb'
  rw [h] at htake hdrop
  exact ⟨htake.symm.trans htake', hdrop.symm.trans hdrop'⟩

end

theorem append_cons_inj {c : Char} {a a' b b' : Text} (ha : c ∉ a) (ha' : c ∉ a')
    (h : a ++ c :: b = a' ++ c :: b') : a = a' ∧ b = b' := by
  induction a generalizing a' with
  | nil =>
    cases a' with
    | nil => exact ⟨rfl, (List.cons.inj h).2⟩
    | cons d a' => exact absurd ((List.cons.inj h).1 ▸ List.mem_cons_self) ha'
  | cons d a ih =>
    cases a' with
    | nil => exact absurd ((List.cons.inj h).1 ▸ List.mem_cons_self) ha
    | cons e a' =>
      rw [List.mem_cons, not_or] at ha ha'
      obtain ⟨hd, ht⟩ := List.cons.inj h
      obtain ⟨rfl, hb⟩ := ih ha.2 ha'.2 ht
      exact ⟨congrArg (· :: a) hd, hb⟩

/-! ## Marks and the end of a line -/

theorem prefix_append_stop_iff {m s b : Text} {c : Char} (hm : c ∉ m) : m <+: s ++ c :: b ↔ m <+: s := by
  refine ⟨fun ⟨u, h⟩ => ?_, fun h => List.prefix_append_of_prefix h⟩
  rcases List.append_eq_append_iff.mp h with ⟨v, rfl, -⟩ | ⟨v, rfl, hv⟩
  · exact List.prefix_append m v
  · cases v with
    | nil => simp
    | cons d v =>
      have hd : d = c := (List.cons.inj hv).1.symm
      simp [hd] at hm

theorem prefix_append_newline_iff {m s b : Text} (hm : '\n' ∉ m) : m <+: s ++ '\n' :: b ↔ m <+: s :=
  prefix_append_stop_iff hm

theorem infix_append_newline_iff {m a b : Text} (hm : '\n' ∉ m) (hne : m ≠ []) :
    m <:+: a ++ '\n' :: b ↔ m <:+: a ∨ m <:+: b := by
  induction a with
  | nil =>
    have h : ¬ m <+: '\n' :: b := fun h =>
      hne (List.prefix_nil.mp ((prefix_append_newline_iff (s := []) hm).mp h))
    simp [List.infix_cons_iff, h, hne]
  | cons c a ih =>
    rw [List.cons_append, List.infix_cons_iff, ← List.cons_append, prefix_append_newline_iff hm, ih,
      List.infix_cons_iff, or_assoc]

/-! ## A mark at the head of a text -/

theorem after?_eq_some_iff {mark : String} {t rest : Text} :
    after? mark t = some rest ↔ t = mark.toList ++ rest := by
  rw [after?, List.isPrefixOf?_eq_some_iff_append_eq, eq_comm]

theorem after?_append (mark : String) (rest : Text) : after? mark (mark.toList ++ rest) = some rest :=
  after?_eq_some_iff.mpr rfl

theorem after?_eq_none_iff {mark : String} {t : Text} : after? mark t = none ↔ ¬ mark.toList <+: t := by
  rw [Option.eq_none_iff_forall_ne_some]
  constructor
  · rintro h ⟨rest, rfl⟩
    exact h rest (after?_append mark rest)
  · intro h rest hr
    exact h ⟨rest, (after?_eq_some_iff.mp hr).symm⟩

section
variable {mark : String} (hm : '\n' ∉ mark.toList)
include hm

theorem after?_append_newline (s b : Text) :
    after? mark (s ++ '\n' :: b) = (after? mark s).map (· ++ '\n' :: b) := by
  cases h : after? mark s with
  | some rest =>
    rw [after?_eq_some_iff.mp h, List.append_assoc, after?_append]; rfl
  | none =>
    rw [after?_eq_none_iff] at h
    exact after?_eq_none_iff.mpr fun hp => h ((prefix_append_newline_iff hm).mp hp)

theorem after?_newline (hne : mark.toList ≠ []) (b : Text) : after? mark ('\n' :: b) = none := by
  rw [after?_eq_none_iff]
  intro h
  exact hne (List.prefix_nil.mp ((prefix_append_newline_iff (s := []) hm).mp h))

end

/-! ## The first mark -/

theorem breakFirst?_eq_some {stop : Char → Bool} {mark : String} {t a b : Text}
    (h : breakFirst? stop mark t = some (a, b)) :
    t = a ++ mark.toList ++ b ∧ ∀ c ∈ a, stop c = false := by
  induction t generalizing a with
  | nil => simp [breakFirst?] at h
  | cons c t ih =>
    rw [breakFirst?] at h
    split at h
    · rename_i rest hr
      simp only [Option.some.injEq, Prod.mk.injEq] at h
      obtain ⟨rfl, rfl⟩ := h
      exact ⟨after?_eq_some_iff.mp hr, by simp⟩
    · split at h
      · cases h
      · rename_i hc
        obtain ⟨⟨a', b'⟩, hab, he⟩ := Option.map_eq_some_iff.mp h
        simp only [Prod.mk.injEq] at he
        obtain ⟨rfl, rfl⟩ := he
        obtain ⟨rfl, ha⟩ := ih hab
        refine ⟨rfl, fun d hd => ?_⟩
        rcases List.mem_cons.mp hd with rfl | hd
        · exact Bool.eq_false_iff.mpr hc
        · exact ha d hd

theorem breakFirst?_length_le {stop : Char → Bool} {mark : String} {t a b a' b' : Text}
    (h : breakFirst? stop mark t = some (a, b)) (h' : t = a' ++ mark.toList ++ b') : a.length ≤ a'.length := by
  induction t generalizing a a' with
  | nil => simp [breakFirst?] at h
  | cons c t ih =>
    rw [breakFirst?] at h
    cases hafter : after? mark (c :: t) with
    | some rest =>
      rw [hafter] at h
      obtain ⟨rfl, -⟩ := Prod.mk.inj (Option.some.inj h)
      exact Nat.zero_le _
    | none =>
      simp only [hafter] at h
      split at h
      · cases h
      · obtain ⟨⟨u, v⟩, huv, he⟩ := Option.map_eq_some_iff.mp h
        obtain ⟨rfl, rfl⟩ := Prod.mk.inj he
        cases a' with
        | nil => exact absurd ⟨b', h'.symm⟩ (after?_eq_none_iff.mp hafter)
        | cons d a' => exact Nat.succ_le_succ (ih huv (List.cons.inj h').2)

theorem breakFirst?_append {stop : Char → Bool} {mark : String} {a b : Text}
    (hstop : ∀ c ∈ a, stop c = false)
    (h : ∀ s, s ≠ [] → s <:+ a → ¬ mark.toList <+: s ++ mark.toList ++ b) (hne : mark.toList ≠ []) :
    breakFirst? stop mark (a ++ mark.toList ++ b) = some (a, b) := by
  induction a with
  | nil =>
    obtain ⟨c, m, hc⟩ := List.exists_cons_of_ne_nil hne
    have hm := after?_append mark b
    rw [hc, List.cons_append] at hm
    rw [List.nil_append, hc, List.cons_append, breakFirst?, hm]
  | cons c a ih =>
    have hc := after?_eq_none_iff.mpr (h (c :: a) (by simp) List.suffix_rfl)
    rw [List.forall_mem_cons] at hstop
    rw [List.cons_append, List.cons_append] at hc ⊢
    rw [breakFirst?, hc, hstop.1, ih hstop.2 fun s hs hsa => h s hs (hsa.trans (List.suffix_cons c a))]
    rfl

/-- A mark whose first character comes only once in it cannot overlap itself. -/
theorem not_prefix_append_of_absent {mark m a s b : Text} {c : Char} (hmark : mark = c :: m) (hc : c ∉ m)
    (h : ¬ mark <:+: a) (hs : s ≠ []) (hsa : s <:+ a) : ¬ mark <+: s ++ (mark ++ b) := by
  rintro ⟨u, hu⟩
  rcases List.append_eq_append_iff.mp hu with ⟨v, rfl, -⟩ | ⟨v, hv, hvu⟩
  · exact h ((List.prefix_append _ _).isInfix.trans hsa.isInfix)
  · obtain ⟨d, s, rfl⟩ := List.exists_cons_of_ne_nil hs
    have hm : m = s ++ v := (List.cons.inj (hmark.symm.trans hv)).2
    cases v with
    | nil => exact h (by rw [hv, List.append_nil]; exact hsa.isInfix)
    | cons e v =>
      rw [hmark] at hvu
      exact hc (by rw [hm, (List.cons.inj hvu).1]; simp)

theorem breakFirst?_append_of_absent {stop : Char → Bool} {mark : String} {c : Char} {m a b : Text}
    (hstop : ∀ c ∈ a, stop c = false) (hmark : mark.toList = c :: m) (hc : c ∉ m)
    (h : ¬ mark.toList <:+: a) : breakFirst? stop mark (a ++ mark.toList ++ b) = some (a, b) := by
  refine breakFirst?_append hstop (fun s hs hsa => ?_) (by simp [hmark])
  rw [List.append_assoc]
  exact not_prefix_append_of_absent hmark hc h hs hsa

theorem breakFirst?_eq_none_iff {mark : String} (hne : mark.toList ≠ []) {t : Text} :
    breakFirst? (fun _ => false) mark t = none ↔ ¬ mark.toList <:+: t := by
  induction t with
  | nil => simp [breakFirst?, hne]
  | cons c t ih =>
    rw [breakFirst?, List.infix_cons_iff]
    cases h : after? mark (c :: t) with
    | some rest => simp [after?_eq_some_iff.mp h]
    | none => simp [ih, after?_eq_none_iff.mp h]

theorem occurs_iff {mark : String} (hne : mark.toList ≠ []) {t : Text} :
    occurs mark t = true ↔ mark.toList <:+: t := by
  rw [occurs, Option.isSome_iff_ne_none, ne_eq, breakFirst?_eq_none_iff hne, Classical.not_not]

theorem breakFirst?_append_newline {stop : Char → Bool} {mark : String} (hm : '\n' ∉ mark.toList)
    {b : Text} (hb : breakFirst? stop mark ('\n' :: b) = none) (s : Text) :
    breakFirst? stop mark (s ++ '\n' :: b) =
      (breakFirst? stop mark s).map fun p => (p.1, p.2 ++ '\n' :: b) := by
  induction s with
  | nil => exact hb
  | cons c s ih =>
    rw [List.cons_append, breakFirst?, breakFirst?, ← List.cons_append, after?_append_newline hm]
    cases after? mark (c :: s) with
    | some rest => rfl
    | none =>
      simp only [Option.map_none]
      split
      · rfl
      · rw [ih, Option.map_map, Option.map_map]; rfl

/-! ## The last mark -/

theorem breakLast?_eq_some {stop : Char → Bool} {mark : String} {t a b : Text}
    (h : breakLast? stop mark t = some (a, b)) :
    t = a ++ mark.toList ++ b ∧ ∀ c ∈ a, stop c = false := by
  induction t generalizing a with
  | nil => simp [breakLast?] at h
  | cons c t ih =>
    rw [breakLast?] at h
    split at h
    · cases h
    · rename_i hc
      split at h
      · rename_i a' b' hab
        simp only [Option.some.injEq, Prod.mk.injEq] at h
        obtain ⟨rfl, rfl⟩ := h
        obtain ⟨rfl, ha⟩ := ih hab
        refine ⟨rfl, fun d hd => ?_⟩
        rcases List.mem_cons.mp hd with rfl | hd
        · exact Bool.eq_false_iff.mpr hc
        · exact ha d hd
      · obtain ⟨rest, hr, he⟩ := Option.map_eq_some_iff.mp h
        simp only [Prod.mk.injEq] at he
        obtain ⟨rfl, rfl⟩ := he
        exact ⟨after?_eq_some_iff.mp hr, by simp⟩

theorem breakLast?_append_of_none {stop : Char → Bool} {mark : String} {c : Char} {m a b : Text}
    (hmark : mark.toList = c :: m) (hc : stop c = false) (ha : ∀ d ∈ a, stop d = false)
    (hb : breakLast? stop mark (m ++ b) = none) : breakLast? stop mark (a ++ mark.toList ++ b) = some (a, b) := by
  induction a with
  | nil =>
    have hafter := after?_append mark b
    rw [hmark, List.cons_append] at hafter
    rw [List.nil_append, hmark, List.cons_append, breakLast?, hc, hb, hafter]
    rfl
  | cons d a ih =>
    rw [List.forall_mem_cons] at ha
    rw [List.cons_append, List.cons_append, breakLast?, ha.1, ih ha.2]
    rfl

theorem breakLast?_append {stop : Char → Bool} {mark : String} {c : Char} {m a b : Text}
    (hmark : mark.toList = c :: m) (hc : stop c = false) (ha : ∀ d ∈ a, stop d = false)
    (hb : ¬ mark.toList <:+: m ++ b) : breakLast? stop mark (a ++ mark.toList ++ b) = some (a, b) := by
  refine breakLast?_append_of_none hmark hc ha (Option.eq_none_iff_forall_ne_some.mpr ?_)
  rintro ⟨a', b'⟩ h
  exact hb ⟨a', b', (breakLast?_eq_some h).1.symm⟩

theorem breakLast?_eq_none_append {stop : Char → Bool} {mark : String} {c : Char} {m s t : Text}
    (hmark : mark.toList = c :: m) (hs : c ∉ s) (ht : breakLast? stop mark t = none) :
    breakLast? stop mark (s ++ t) = none := by
  induction s with
  | nil => exact ht
  | cons d s ih =>
    rw [List.mem_cons, not_or] at hs
    have hd : after? mark (d :: (s ++ t)) = none := by
      rw [after?_eq_none_iff, hmark]
      intro hp
      exact hs.1 (List.cons_prefix_cons.mp hp).1
    rw [List.cons_append, breakLast?, ih hs.2, hd]
    split <;> rfl

end JiraMarkup
