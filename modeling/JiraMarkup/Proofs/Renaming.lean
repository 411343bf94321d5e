import JiraMarkup.Proofs.Conversion

/-!
# Renaming characters

No rule knows a character outside ASCII: renaming such characters before a
conversion or behind it is the same. A no-break space is hence a letter to every
rule, and so is every other space that is not an ASCII one.
-/

namespace JiraMarkup

/-! ## Characters -/

def Outside (c : Char) : Prop := 128 ≤ c.toNat ∨ c = 'X'

instance (c : Char) : Decidable (Outside c) := inferInstanceAs (Decidable (_ ∨ _))

theorem Outside.not_in_range {c low high : Char} (hc : Outside c)
    (hrange : high.toNat < 128 ∧ ¬ (low ≤ 'X' ∧ 'X' ≤ high)) : ¬ (low ≤ c ∧ c ≤ high) := by
  rcases hc with hc | rfl
  · rintro ⟨-, hle⟩
    have hle : c.toNat ≤ high.toNat := hle
    omega
  · exact hrange.2

def Inside (t : Text) : Prop := ∀ c ∈ t, ¬ Outside c

instance (t : Text) : Decidable (Inside t) := decidableForallMem t

/-- Characters outside ASCII are renamed among themselves or to the letter `X`. -/
structure Renaming where
  char : Char → Char
  ascii : ∀ c, c.toNat < 128 → char c = c
  outside : ∀ c, 128 ≤ c.toNat → Outside (char c)

namespace Renaming

def toLetter : Renaming where
  char c := if c.toNat < 128 then c else 'X'
  ascii _ h := if_pos h
  outside _ h := Or.inr (if_neg (Nat.not_lt.mpr h))

variable (f : Renaming)

theorem eq_of_outside {α : Type} {p : Char → α} {a : α} (hp : ∀ c, Outside c → p c = a) (c : Char) :
    p (f.char c) = p c := by
  rcases Nat.lt_or_ge c.toNat 128 with h | h
  · rw [f.ascii c h]
  · rw [hp _ (f.outside c h), hp c (Or.inl h)]

def Respects (p : Char → Bool) : Prop := ∀ c, p (f.char c) = p c

theorem char_eq_iff {c d : Char} (hd : ¬ Outside d) : f.char c = d ↔ c = d := by
  have h : decide (f.char c = d) = decide (c = d) :=
    f.eq_of_outside (p := fun c => decide (c = d))
      (fun e he => decide_eq_false fun hed => hd (hed ▸ he)) c
  simpa using h

theorem char_eq {c : Char} (hc : ¬ Outside c) : f.char c = c := (f.char_eq_iff hc).mpr rfl

theorem respects_of_mem {p : Char → Bool} {marks : String} (hp : ∀ c, p c = true → c ∈ marks.toList)
    (hm : Inside marks.toList := by decide) : f.Respects p := fun c =>
  f.eq_of_outside (fun d hd => Bool.eq_false_iff.mpr fun h => hm d (hp d h) hd) c

theorem respects_isBlank : f.Respects isBlank := f.respects_of_mem fun _ => isBlank_iff.mp

theorem respects_isIndent : f.Respects isIndent := f.respects_of_mem fun _ => isIndent_iff.mp

theorem respects_beq {d : Char} (hd : ¬ Outside d) : f.Respects (· == d) := fun c =>
  f.eq_of_outside (p := (· == d)) (fun _ he => beq_eq_false_iff_ne.mpr fun hed => hd (hed ▸ he)) c

theorem respects_isLineEnd : f.Respects isLineEnd := f.respects_beq (by decide)

theorem Respects.negated {f : Renaming} {p : Char → Bool} (hp : f.Respects p) : f.Respects (!p ·) :=
  fun c => congrArg not (hp c)

theorem respects_bne {d : Char} (hd : ¬ Outside d) : f.Respects (· != d) := (f.respects_beq hd).negated

theorem isLower_char (c : Char) : ('a' ≤ f.char c ∧ f.char c ≤ 'z') = ('a' ≤ c ∧ c ≤ 'z') :=
  f.eq_of_outside (p := fun c => 'a' ≤ c ∧ c ≤ 'z')
    (fun _ hd => eq_false (hd.not_in_range (by decide))) c

theorem headingLevel?_char (c : Char) : headingLevel? (f.char c) = headingLevel? c :=
  f.eq_of_outside (p := headingLevel?) (fun _ hd => if_neg (hd.not_in_range (by decide))) c

/-! ## Texts -/

theorem map_eq_iff {s t : Text} (hs : Inside s) : t.map f.char = s ↔ t = s := by
  induction s generalizing t with
  | nil => simp
  | cons c s ih =>
    have hc := List.forall_mem_cons.mp hs
    cases t with
    | nil => simp
    | cons d t => rw [List.map_cons, List.cons.injEq, List.cons.injEq, f.char_eq_iff hc.1, ih hc.2]

theorem map_eq_self {s : Text} (hs : Inside s := by decide) : s.map f.char = s := (f.map_eq_iff hs).mpr rfl

section
variable {p : Char → Bool} (hp : f.Respects p)
include hp

theorem takeWhile_map (t : Text) : (t.map f.char).takeWhile p = (t.takeWhile p).map f.char := by
  rw [List.takeWhile_map, show p ∘ f.char = p from funext hp]

theorem dropWhile_map (t : Text) : (t.map f.char).dropWhile p = (t.dropWhile p).map f.char := by
  rw [List.dropWhile_map, show p ∘ f.char = p from funext hp]

theorem any_map (t : Text) : (t.map f.char).any p = t.any p := by
  rw [List.any_map, show p ∘ f.char = p from funext hp]

theorem head?_any_map (t : Text) : (t.map f.char).head?.any p = t.head?.any p := by
  cases t with
  | nil => rfl
  | cons c t => exact hp c

end

theorem prefix_map_iff {s : Text} (hs : Inside s) (t : Text) : s <+: t.map f.char ↔ s <+: t := by
  constructor
  · intro h
    obtain ⟨u, hu, he⟩ := List.prefix_map_iff.mp h
    exact (f.map_eq_iff hs).mp he.symm ▸ hu
  · intro h
    exact f.map_eq_self hs ▸ h.map f.char

theorem suffix_map_iff {s : Text} (hs : Inside s) (t : Text) : s <:+ t.map f.char ↔ s <:+ t := by
  constructor
  · intro h
    obtain ⟨u, hu, he⟩ := List.suffix_map_iff.mp h
    exact (f.map_eq_iff hs).mp he.symm ▸ hu
  · intro h
    exact f.map_eq_self hs ▸ h.map f.char

theorem length_map (t : Text) : (t.map f.char).length = t.length := List.length_map f.char

/-! ## Searches -/

section
variable {mark : String} (hm : Inside mark.toList)
include hm

theorem after?_map (t : Text) : after? mark (t.map f.char) = (after? mark t).map (·.map f.char) := by
  cases h : after? mark t with
  | some rest =>
    rw [after?_eq_some_iff.mp h, List.map_append, f.map_eq_self hm, after?_append]
    rfl
  | none => exact after?_eq_none_iff.mpr fun hp => after?_eq_none_iff.mp h ((f.prefix_map_iff hm t).mp hp)

variable {stop : Char → Bool} (hs : f.Respects stop)
include hs

theorem breakFirst?_map (t : Text) : breakFirst? stop mark (t.map f.char) =
    (breakFirst? stop mark t).map fun p => (p.1.map f.char, p.2.map f.char) := by
  induction t with
  | nil => rfl
  | cons c t ih =>
    have hafter := f.after?_map hm (c :: t)
    rw [List.map_cons] at hafter
    rw [List.map_cons, breakFirst?, breakFirst?, hafter, hs, ih]
    cases after? mark (c :: t) with
    | some rest => rfl
    | none =>
      simp only [Option.map_none]
      split
      · rfl
      · rw [Option.map_map, Option.map_map]
        rfl

theorem breakLast?_map (t : Text) : breakLast? stop mark (t.map f.char) =
    (breakLast? stop mark t).map fun p => (p.1.map f.char, p.2.map f.char) := by
  induction t with
  | nil => rfl
  | cons c t ih =>
    have hafter := f.after?_map hm (c :: t)
    rw [List.map_cons] at hafter
    rw [List.map_cons, breakLast?, breakLast?, hafter, hs, ih]
    split
    · rfl
    · cases breakLast? stop mark t with
      | some p => rfl
      | none =>
        simp only [Option.map_none]
        rw [Option.map_map, Option.map_map]
        rfl

end

theorem occurs_map {mark : String} (hm : Inside mark.toList) (t : Text) :
    occurs mark (t.map f.char) = occurs mark t := by
  rw [occurs, f.breakFirst?_map hm fun _ => rfl, Option.isSome_map]
  rfl

/-! ## Lines -/

theorem splitLines_map (t : Text) : splitLines (t.map f.char) = (splitLines t).map (·.map f.char) := by
  induction t with
  | nil => rfl
  | cons c t ih =>
    have hc : f.char c = '\n' ↔ c = '\n' := f.char_eq_iff (by decide)
    obtain ⟨l, ls, h⟩ := List.exists_cons_of_ne_nil (splitLines_ne_nil t)
    rw [h, List.map_cons] at ih
    by_cases hn : c = '\n'
    · rw [List.map_cons, hc.mpr hn, hn, splitLines_newline, splitLines_newline, ih, h]
      rfl
    · rw [List.map_cons, splitLines_cons (fun he => hn (hc.mp he)) ih, splitLines_cons hn h]
      rfl

theorem joinLines_map (ls : List Text) :
    joinLines (ls.map (·.map f.char)) = (joinLines ls).map f.char := by
  induction ls with
  | nil => rfl
  | cons l ls ih =>
    by_cases hls : ls = []
    · subst hls
      rfl
    · rw [List.map_cons, joinLines_cons _ (by simpa using hls), joinLines_cons l hls, ih, List.map_append,
        List.map_cons, f.char_eq (by decide)]

theorem onLines_map {g : Text → Text} (hg : ∀ l, g (l.map f.char) = (g l).map f.char) (t : Text) :
    onLines g (t.map f.char) = (onLines g t).map f.char := by
  have hmap : ((splitLines t).map (·.map f.char)).map g = ((splitLines t).map g).map (·.map f.char) := by
    rw [List.map_map, List.map_map]
    exact List.map_congr_left fun l _ => hg l
  rw [onLines, f.splitLines_map, hmap, f.joinLines_map, onLines]

end Renaming

/-! ## Scans -/

def Match.rename (f : Renaming) (m : Match) : Match := ⟨m.output.map f.char, m.rest.map f.char⟩

/-- The pattern finds in a renamed text what it finds in the text, renamed. -/
def Pattern.Commutes (p : Pattern) (f : Renaming) : Prop := ∀ t, p (t.map f.char) = (p t).map (·.rename f)

theorem Rewrite.scan_map {r : Rewrite} {f : Renaming} (h : r.pattern.Commutes f) (opened : Bool) (n : Nat)
    (t : Text) : r.scan opened n (t.map f.char) = (r.scan opened n t).map f.char := by
  have hopen : ∀ c, r.anchor.opensAfter (f.char c) = r.anchor.opensAfter c := fun c => by
    cases r.anchor with
    | lineStart => exact f.respects_isLineEnd c
    | _ => rfl
  have htry : ∀ opened t, r.tryAt opened (t.map f.char) = (r.tryAt opened t).map (·.rename f) := by
    intro opened t
    cases opened with
    | false => rfl
    | true => exact h t
  induction t generalizing opened n with
  | nil => cases n <;> rfl
  | cons c t ih =>
    cases n with
    | succ n => rw [List.map_cons, scan, scan, hopen, ih]
    | zero =>
      have hc := htry opened (c :: t)
      rw [List.map_cons] at hc
      rw [List.map_cons, scan, scan, hc, hopen]
      cases r.tryAt opened (c :: t) with
      | none => exact congrArg (f.char c :: ·) (ih _ _)
      | some m =>
        simp only [Option.map_some, Match.rename, f.length_map, ih, List.map_append]

theorem Rewrite.apply_map {r : Rewrite} {f : Renaming} (h : r.pattern.Commutes f) (t : Text) :
    r.apply (t.map f.char) = (r.apply t).map f.char := scan_map h true 0 t

end JiraMarkup
