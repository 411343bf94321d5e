import JiraMarkup.Proofs.CodeBody
import JiraMarkup.Proofs.Letters

/-!
# Fences in monospace text

In a text whose braces are all those of spans `{{w}}`, two spans of the word
`code` hold the tags of a code block between their outer braces. What the fencing
makes of such a text is followed span by span.
-/

namespace JiraMarkup

/-! ## Text with monospace spans -/

def Prose (l : Text) : Prop := Lettered " 0123456789" l

instance (l : Text) : Decidable (Prose l) := inferInstanceAs (Decidable (Lettered _ l))

def braced (w : Text) : Text := between "\x7b\x7b" "\x7d\x7d" w

inductive Spanned (marks : String) : Text → Prop
  | nil : Spanned marks []
  | copy {c : Char} {t : Text} : Lettered marks [c] → Spanned marks t → Spanned marks (c :: t)
  | span {w t : Text} : w ≠ [] → Prose w → Spanned marks t → Spanned marks (braced w ++ t)

theorem braced_append (w t : Text) : braced w ++ t = '{' :: '{' :: (w ++ '}' :: '}' :: t) := by
  simp [braced, between]

namespace Spanned

variable {marks marks' : String} {s t : Text}

theorem of_lettered (h : Lettered marks t) : Spanned marks t := by
  induction t with
  | nil => exact nil
  | cons c t ih => exact copy (h.subset (by simp)) (ih (h.subset (List.subset_cons_self c t)))

theorem append (h : Spanned marks s) (h' : Spanned marks t) : Spanned marks (s ++ t) := by
  induction h with
  | nil => exact h'
  | copy hc _ ih => exact copy hc ih
  | span hne hw _ ih => rw [List.append_assoc]; exact span hne hw ih

theorem mono (h : Spanned marks t) (hm : marks.toList ⊆ marks'.toList := by decide) :
    Spanned marks' t := by
  induction h with
  | nil => exact nil
  | copy hc _ ih => exact copy (hc.mono hm) ih
  | span hne hw _ ih => exact span hne hw ih

theorem lettered (h : Spanned marks t) (hm : " 0123456789\x7b\x7d".toList ⊆ marks'.toList := by decide)
    (hs : marks.toList ⊆ marks'.toList := by decide) : Lettered marks' t := by
  induction h with
  | nil => exact .nil
  | @copy c t hc _ ih => exact (hc.mono hs).append ih
  | @span w t hne hw _ ih =>
    have hopen : Lettered marks' "\x7b\x7b".toList := .of_subset fun c hc => hm (by simp at hc ⊢; tauto)
    have hclose : Lettered marks' "\x7d\x7d".toList := .of_subset fun c hc => hm (by simp at hc ⊢; tauto)
    have hinner : Lettered marks' w := hw.mono fun c hc => hm (by simp at hc ⊢; tauto)
    exact ((hopen.append hinner).append hclose).append ih

end Spanned

/-- A span that is kept, or a tag in it that gives way to a fence. -/
inductive FencedSpan : Text → Text → Prop
  | kept {w : Text} : w ≠ [] → Prose w → FencedSpan w (braced w)
  | opened : FencedSpan "code".toList "\x7b```\n\x7d".toList
  | closed : FencedSpan "code".toList "\x7b\n```\x7d".toList

inductive Fenced : Text → Text → Prop
  | nil : Fenced [] []
  | copy {c : Char} {t u : Text} : c ≠ '{' → Fenced t u → Fenced (c :: t) (c :: u)
  | span {w v t u : Text} : FencedSpan w v → Fenced t u → Fenced (braced w ++ t) (v ++ u)

theorem FencedSpan.prose {w v : Text} (h : FencedSpan w v) : Prose w := by
  cases h with
  | kept _ hw => exact hw
  | opened => exact .of_letters (by decide)
  | closed => exact .of_letters (by decide)

theorem Fenced.append {s s' t t' : Text} (h : Fenced s t) (h' : Fenced s' t') :
    Fenced (s ++ s') (t ++ t') := by
  induction h with
  | nil => exact h'
  | copy hc _ ih => exact copy hc ih
  | span hv _ ih => rw [List.append_assoc, List.append_assoc]; exact span hv ih

/-! ## Tags in spans -/

theorem codeSpan_opens : Pattern.Opens codeSpan (codeOpening, codeClosing) := by
  intro t m h
  obtain ⟨sep, lang, attrs, body, -, -, -, ht, -⟩ := codeSpan_eq_some h
  exact opens_of_eq (x := sep ++ lang ++ attrs ++ '}' :: body) (y := m.rest) (by simp [ht])

theorem codeClosing_prefix_iff {w : Text} (hw : '}' ∉ w) (t : Text) :
    codeClosing.toList <+: '{' :: (w ++ '}' :: t) ↔ w = "code".toList := by
  constructor
  · rintro ⟨u, hu⟩
    have hinner : "code".toList ++ '}' :: u = w ++ '}' :: t := (List.cons.inj hu).2
    exact (append_cons_inj (by decide) hw hinner).1.symm
  · rintro rfl
    exact ⟨t, rfl⟩

theorem codeClosing_infix_braced {w : Text} (hw : Prose w) (t : Text) :
    codeClosing.toList <:+: braced w ++ t ↔ w = "code".toList ∨ codeClosing.toList <:+: t := by
  have hbrace : '}' ∉ w := hw.not_mem
  have hinner : '{' ∉ w ++ ['}', '}'] := by simp [hw.not_mem (c := '{')]
  have houter : ¬ codeClosing.toList <+: '{' :: '{' :: (w ++ '}' :: '}' :: t) := by
    intro h
    exact absurd (List.cons_prefix_cons.mp (List.cons_prefix_cons.mp h).2).1 (by decide)
  have hrest := codeClosing_infix_append hinner t
  rw [List.append_assoc] at hrest
  rw [braced_append, List.infix_cons_iff, or_iff_right houter, List.infix_cons_iff,
    codeClosing_prefix_iff hbrace]
  exact or_congr_right hrest

theorem exists_first_code {marks : String} (hmarks : '{' ∉ marks.toList) {t : Text} (h : Spanned marks t)
    (hcode : codeClosing.toList <:+: t) :
    ∃ a b, t = a ++ (braced "code".toList ++ b) ∧ Spanned marks a ∧ Spanned marks b ∧
      ¬ codeClosing.toList <:+: a ++ ['{'] := by
  induction h with
  | nil => exact absurd (List.infix_nil.mp hcode) (by decide)
  | @copy c t hc _ ih =>
    have hbrace : '{' ∉ [c] := hc.not_mem ⟨by decide, hmarks⟩
    obtain ⟨a, b, rfl, ha, hb, habsent⟩ := ih ((codeClosing_infix_append hbrace t).mp hcode)
    exact ⟨c :: a, b, rfl, .copy hc ha, hb, (codeClosing_infix_append hbrace (a ++ ['{'])).not.mpr habsent⟩
  | @span w t hne hw ht ih =>
    by_cases hword : w = "code".toList
    · exact ⟨[], t, by rw [hword, List.nil_append], .nil, ht, by decide⟩
    · have hrest := ((codeClosing_infix_braced hw t).mp hcode).resolve_left hword
      obtain ⟨a, b, rfl, ha, hb, habsent⟩ := ih hrest
      refine ⟨braced w ++ a, b, (List.append_assoc ..).symm, .span hne hw ha, hb, ?_⟩
      rw [List.append_assoc, codeClosing_infix_braced hw, not_or]
      exact ⟨hword, habsent⟩

/-- The tags of a block in spans take over one brace of each span. -/
theorem codeSpan_braced {a : Text} (ha : ¬ codeClosing.toList <:+: a ++ ['{']) (b : Text) :
    codeSpan ('{' :: ("code\x7d\x7d".toList ++ (a ++ (braced "code".toList ++ b)))) =
      some ⟨fence [] ('}' :: a ++ ['{']), '}' :: b⟩ := by
  have habsent : ¬ codeClosing.toList <:+: '}' :: a ++ ['{'] :=
    (codeClosing_infix_append (s := ['}']) (by decide) (a ++ ['{'])).not.mpr ha
  have hsplit : CodeTag.text ⟨[], [], List.forall_mem_nil _⟩ ++
      ('}' :: a ++ ['{'] ++ codeClosing.toList ++ '}' :: b) =
        '{' :: ("code\x7d\x7d".toList ++ (a ++ (braced "code".toList ++ b))) := by
    simp [CodeTag.text, CodeTag.languageText, CodeTag.attributesText, braced_append, codeOpening, codeClosing]
  rw [← hsplit]
  exact CodeTag.codeSpan_text _ habsent _

theorem codeSpan_braced_eq_some {w t : Text} {m : Match} (hw : '}' ∉ w) (hcolon : ':' ∉ w ++ t)
    (hequals : '=' ∉ w ++ t) (h : codeSpan ('{' :: (w ++ '}' :: '}' :: t)) = some m) :
    w = "code".toList ∧ codeClosing.toList <:+: t := by
  obtain ⟨sep, lang, attrs, body, hsep, -, hattrs, ht, -⟩ := codeSpan_eq_some h
  have hmem : ∀ c, c ∈ sep ++ attrs → c ∈ '{' :: (w ++ '}' :: '}' :: t) := by
    intro c hc
    rw [ht]
    simp only [List.mem_append] at hc ⊢
    tauto
  have hcolon' : ':' ∉ '{' :: (w ++ '}' :: '}' :: t) := by simpa using hcolon
  have hequals' : '=' ∉ '{' :: (w ++ '}' :: '}' :: t) := by simpa using hequals
  obtain ⟨rfl, rfl⟩ : sep = [] ∧ lang = [] := by
    rcases hsep with rfl | h
    · exact absurd (hmem ':' (by simp)) hcolon'
    · exact h
  obtain rfl : attrs = [] := by
    by_contra h
    exact hequals' (hmem '=' (List.mem_append_right _ (hattrs.equals_mem h)))
  have hinner : w ++ '}' :: ('}' :: t) = "code".toList ++ '}' :: (body ++ codeClosing.toList ++ m.rest) :=
    (List.cons.inj ht).2
  obtain ⟨hword, hbody⟩ := append_cons_inj hw (by decide) hinner
  have hinfix : codeClosing.toList <:+: '}' :: t := hbody ▸ List.infix_append _ _ _
  exact ⟨hword, (codeClosing_infix_append (s := ['}']) (by decide) t).mp hinfix⟩

/-! ## The fenced text -/

theorem codeBlock_append {s : Text} (hs : '{' ∉ s) (t : Text) :
    codeBlock.apply (s ++ t) = s ++ codeBlock.apply t :=
  Pattern.Opens.apply_append codeSpan_opens rfl (show codeOpening.toList = '{' :: "code".toList from rfl) hs t

theorem codeBlock_braced (w t : Text) :
    codeBlock.apply (braced w ++ t) = '{' :: codeBlock.apply ('{' :: (w ++ '}' :: '}' :: t)) := by
  rw [braced_append]
  exact Rewrite.apply_miss rfl (codeSpan_eq_none (by simp [codeOpening]))

theorem codeBlock_braced_of_none {w t : Text} (hw : Prose w)
    (h : codeSpan ('{' :: (w ++ '}' :: '}' :: t)) = none) :
    codeBlock.apply (braced w ++ t) = braced w ++ codeBlock.apply t := by
  have hinner : '{' ∉ w ++ ['}', '}'] := by simp [hw.not_mem (c := '{')]
  have hcopy := codeBlock_append hinner t
  rw [List.append_assoc, List.append_assoc] at hcopy
  rw [codeBlock_braced, Rewrite.apply_miss rfl h, braced_append]
  exact congrArg ('{' :: '{' :: ·) hcopy

theorem codeBlock_braced_block {a : Text} (ha : ¬ codeClosing.toList <:+: a ++ ['{']) (b : Text) :
    codeBlock.apply (braced "code".toList ++ (a ++ (braced "code".toList ++ b))) =
      "\x7b```\n\x7d".toList ++ (a ++ ("\x7b\n```\x7d".toList ++ codeBlock.apply b)) := by
  have hspan : codeBlock.apply _ = _ :=
    Rewrite.apply_of_some rfl codeSpan_respells.consumes (codeSpan_braced ha b)
  have hbrace : codeBlock.apply ('}' :: b) = '}' :: codeBlock.apply b :=
    codeBlock_append (s := ['}']) (by decide) b
  have htrim : trimNewlines ('}' :: a ++ ['{']) = '}' :: a ++ ['{'] := by simp [trimNewlines, dropNewline]
  have hfence : fence [] ('}' :: a ++ ['{']) = "```\n\x7d".toList ++ (a ++ "\x7b\n```".toList) := by
    rw [fence, htrim]
    simp
  rw [hbrace, hfence] at hspan
  rw [codeBlock_braced]
  refine (congrArg ('{' :: ·) hspan).trans ?_
  simp

theorem fenced_self {marks : String} (hmarks : '{' ∉ marks.toList) {t : Text} (h : Spanned marks t) :
    Fenced t t := by
  induction h with
  | nil => exact .nil
  | copy hc _ ih =>
    have hbrace := hc.not_mem (c := '{') ⟨by decide, hmarks⟩
    exact .copy (fun he => hbrace (by simp [he])) ih
  | span hne hw _ ih => exact .span (.kept hne hw) ih

/-- A span of the word `code` takes part in a block if there is another one to take part in it. -/
theorem fenced_codeBlock {marks : String} (hmarks : ∀ c ∈ "\x7b:=".toList, c ∉ marks.toList) {t : Text}
    (h : Spanned marks t) : Fenced t (codeBlock.apply t) := by
  have hbrace : '{' ∉ marks.toList := hmarks '{' (by decide)
  -- On the length, as a block reaches over all the spans up to the next one of the word.
  induction hn : t.length using Nat.strongRecOn generalizing t with
  | _ n ih =>
    cases h with
    | nil => exact .nil
    | @copy c t hc ht =>
      have hc' : '{' ∉ [c] := hc.not_mem ⟨by decide, hbrace⟩
      have hcopy : codeBlock.apply (c :: t) = c :: codeBlock.apply t := codeBlock_append hc' t
      rw [hcopy]
      exact .copy (fun he => hc' (by simp [he])) (ih t.length (by simp at hn; omega) ht rfl)
    | @span w t hne hw ht =>
      simp only [braced_append, List.length_cons, List.length_append] at hn
      cases hspan : codeSpan ('{' :: (w ++ '}' :: '}' :: t)) with
      | none =>
        rw [codeBlock_braced_of_none hw hspan]
        exact .span (.kept hne hw) (ih t.length (by omega) ht rfl)
      | some m =>
        have hletters : Lettered (marks ++ " 0123456789\x7b\x7d") (w ++ t) :=
          (hw.mono (by simp)).append (ht.lettered (by simp) (by simp))
        have hcolon : ':' ∉ w ++ t := hletters.not_mem ⟨by decide, by simp [hmarks ':' (by decide)]⟩
        have hequals : '=' ∉ w ++ t := hletters.not_mem ⟨by decide, by simp [hmarks '=' (by decide)]⟩
        obtain ⟨rfl, hcode⟩ := codeSpan_braced_eq_some hw.not_mem hcolon hequals hspan
        obtain ⟨a, b, rfl, ha, hb, hfirst⟩ := exists_first_code hbrace ht hcode
        rw [codeBlock_braced_block hfirst]
        simp only [List.length_append] at hn
        exact .span .opened ((fenced_self hbrace ha).append (.span .closed (ih b.length (by omega) hb rfl)))

/-! ## The lines of a fenced text -/

namespace Fenced

variable {a b u : Text}

theorem eq_self_of_not_mem (h : Fenced a u) (ha : '{' ∉ a) : u = a := by
  induction h with
  | nil => rfl
  | copy _ _ ih =>
    rw [List.mem_cons, not_or] at ha
    rw [ih ha.2]
  | @span w v t u _ _ _ => exact absurd (by simp [braced_append]) ha

theorem append_newline (h : Fenced (a ++ '\n' :: b) u) :
    ∃ u₁ u₂, u = u₁ ++ '\n' :: u₂ ∧ Fenced a u₁ ∧ Fenced b u₂ := by
  generalize ht : a ++ '\n' :: b = t at h
  induction h generalizing a with
  | nil => simp at ht
  | @copy c t u hc h ih =>
    cases a with
    | nil =>
      obtain ⟨hd, rfl⟩ := List.cons.inj ht
      exact ⟨[], u, hd ▸ rfl, nil, h⟩
    | cons d a =>
      obtain ⟨rfl, hrest⟩ := List.cons.inj ht
      obtain ⟨u₁, u₂, rfl, ha, hb⟩ := ih hrest
      exact ⟨d :: u₁, u₂, rfl, copy hc ha, hb⟩
  | @span w v t u hv h ih =>
    obtain ⟨a, rfl, hrest⟩ : ∃ a', a = braced w ++ a' ∧ t = a' ++ '\n' :: b := by
      have hw : '\n' ∉ braced w := by
        have hw := hv.prose.not_mem (c := '\n')
        simp [braced, between, hw]
      rcases List.append_eq_append_iff.mp ht with ⟨x, hx, hxt⟩ | ⟨x, hx, hxt⟩
      · cases x with
        | nil => exact ⟨[], by simpa using hx.symm, hxt.symm⟩
        | cons c x =>
          obtain ⟨rfl, -⟩ := List.cons.inj hxt
          exact absurd (by simp [hx]) hw
      · exact ⟨x, hx, hxt⟩
    obtain ⟨u₁, u₂, rfl, ha, hb⟩ := ih hrest.symm
    exact ⟨v ++ u₁, u₂, (List.append_assoc ..).symm, span hv ha, hb⟩

theorem forall_lines {ls : List Text} (hne : ls ≠ []) (h : Fenced (joinLines ls) u) :
    ∃ ks, u = joinLines ks ∧ List.Forall₂ Fenced ls ks := by
  induction ls generalizing u with
  | nil => exact absurd rfl hne
  | cons l ls ih =>
    by_cases hls : ls = []
    · subst hls
      exact ⟨[u], rfl, .cons h .nil⟩
    · rw [joinLines_cons l hls] at h
      obtain ⟨k, v, rfl, hl, hrest⟩ := h.append_newline
      obtain ⟨ks, rfl, hks⟩ := ih hls hrest
      have hks' : ks ≠ [] := by
        rintro rfl
        cases hks
        exact hls rfl
      exact ⟨k :: ks, (joinLines_cons k hks').symm, .cons hl hks⟩

end Fenced

end JiraMarkup
