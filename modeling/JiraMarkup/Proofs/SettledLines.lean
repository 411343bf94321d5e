import JiraMarkup.Proofs.Fencing
import JiraMarkup.Proofs.MarkedLines

/-!
# Settled lines

The lines that the chain leaves of list items, headings and monospace spans. No
rule but those for the marks in front of a line has anything to do on them.
-/

namespace JiraMarkup

/-! ## Lines of spans behind the styles -/

inductive Styled : Text → Text → Prop
  | nil : Styled [] []
  | brace : Styled ['{'] ['{']
  | fence : Styled "\x7b```".toList "\x7b```".toList
  | copy {c : Char} {l m : Text} : Lettered " 0123456789`\x7d" [c] → Styled l m → Styled (c :: l) (c :: m)
  | span {w l m : Text} : w ≠ [] → Prose w → Styled l m → Styled (braced w ++ l) (between "`" "`" w ++ m)

namespace Styled

variable {l m : Text}

theorem append {s : Text} (hs : Lettered " 0123456789`\x7d" s) (h : Styled l m) :
    Styled (s ++ l) (s ++ m) := by
  induction s with
  | nil => exact h
  | cons c s ih => exact copy (hs.subset (by simp)) (ih (hs.subset (List.subset_cons_self c s)))

theorem lettered (h : Styled l m) : Lettered " 0123456789`\x7b\x7d" l := by
  induction h with
  | nil => exact .nil
  | brace => decide
  | fence => decide
  | copy hc _ ih => exact hc.mono.append ih
  | span _ hw _ ih =>
    have hinner : Lettered " 0123456789`\x7b\x7d" _ := hw.mono
    exact (((Lettered.of_subset (by decide)).append hinner).append (.of_subset (by decide))).append ih

theorem monospace_apply (h : Styled l m) : Rewrite.apply ⟨.anywhere, monospace⟩ l = m := by
  induction h with
  | nil => rfl
  | brace => rfl
  | fence => decide
  | @copy c l m hc _ ih =>
    have hbrace : '{' ∉ [c] := hc.not_mem
    have hcopy := Pattern.Opens.apply_append (r := ⟨.anywhere, monospace⟩) monospace_opens rfl
      (show ("\x7b\x7b" : String).toList = '{' :: ['{'] from rfl) hbrace l
    rw [ih] at hcopy
    exact hcopy
  | @span w l m hne hw _ ih =>
    have hspan := monospace_span hne hw.not_mem l
    have hused : braced w ≠ [] := by simp [braced, between]
    have happly := Rewrite.apply_hit (r := ⟨.anywhere, monospace⟩) rfl hused hspan
    rw [ih] at happly
    exact happly

theorem lettered_styled (h : Styled l m) : Lettered " 0123456789`\x7b\x7d" m := by
  rw [← h.monospace_apply]
  exact h.lettered.apply monospace_respells fun _ _ hs c hc =>
    (show ∀ c ∈ "`".toList, c ∈ " 0123456789`\x7b\x7d".toList by decide) c (hs.written c hc)

theorem leads (h : Styled l m) : Leads '{' (fun s => s = [] ∨ ∃ t, s = '`' :: t) m := by
  induction h with
  | nil => exact .of_not_mem List.not_mem_nil
  | brace => exact Leads.cons_iff.mpr ⟨fun _ => Or.inl rfl, .of_not_mem List.not_mem_nil⟩
  | fence => exact Leads.cons_iff.mpr ⟨fun _ => Or.inr ⟨_, rfl⟩, .of_not_mem (by decide)⟩
  | @copy c l m hc _ ih =>
    have hbrace : '{' ∉ [c] := hc.not_mem
    exact ih.append_of_not_mem hbrace
  | @span w l m _ hw _ ih =>
    have hquoted : '{' ∉ between "`" "`" w := by
      have hbrace := hw.not_mem (c := '{')
      simp [between, hbrace]
    exact ih.append_of_not_mem hquoted

theorem not_hasMarks (h : Styled l m) : ∀ mark ∈ styleMarks, ¬ HasMarks mark m := by
  have hmarks : ∀ mark ∈ styleMarks, Foreign " 0123456789`\x7b\x7d" mark ∨
      mark.1.toList ∈ ["\x7b".toList, "noformat\x7d".toList].map ('{' :: ·) := by decide
  intro mark hm
  exact h.lettered_styled.not_hasMarks_of_leads h.leads (by simp) (hmarks mark hm)

theorem inlineStyles_eq (h : Styled l m) : inlineStyles l = m := by
  have hbefore := h.lettered.restyle_take (i := 2) (by decide)
  have hafter : ∀ mark ∈ styleMarks.drop (2 + 1), ¬ HasMarks mark (Rewrite.apply ⟨.anywhere, monospace⟩ l) := by
    intro mark hm
    rw [h.monospace_apply]
    exact h.not_hasMarks mark (List.mem_of_mem_drop hm)
  have hstyles := inlineStyles_eq_apply (i := 2) rfl hbefore hafter
  rw [hstyles]
  exact h.monospace_apply

end Styled

theorem Fenced.styled {l k : Text} (h : Fenced l k) (hl : Lettered " 0123456789\x7b\x7d" l) :
    ∃ p ls, k = joinLines (p :: ls) ∧ ∀ m ∈ p :: ls, ∃ m', Styled m m' := by
  induction h with
  | nil => exact ⟨[], [], rfl, by simpa using ⟨[], .nil⟩⟩
  | @copy c t u hbrace _ ih =>
    obtain ⟨p, ls, rfl, hls⟩ := ih (hl.subset (List.subset_cons_self c t))
    have hc : Lettered " 0123456789`\x7d" [c] := by
      intro d hd
      obtain rfl := List.mem_singleton.mp hd
      have hmarks : ∀ c ∈ " 0123456789\x7b\x7d".toList, c ≠ '{' → c ∈ " 0123456789`\x7d".toList := by decide
      exact (hl d List.mem_cons_self).imp_right fun hm => hmarks d hm hbrace
    rw [List.forall_mem_cons] at hls
    obtain ⟨⟨p', hp⟩, hls⟩ := hls
    refine ⟨c :: p, ls, (joinLines_cons_cons c p ls).symm, ?_⟩
    exact List.forall_mem_cons.mpr ⟨⟨c :: p', .copy hc hp⟩, hls⟩
  | @span w v t u hv _ ih =>
    obtain ⟨p, ls, rfl, hls⟩ := ih (hl.subset (List.subset_append_right (braced w) t))
    rw [List.forall_mem_cons] at hls
    obtain ⟨⟨p', hp⟩, hls⟩ := hls
    have hcut : ∀ first s : Text, joinLines (first :: (s ++ p) :: ls) =
        first ++ '\n' :: (s ++ joinLines (p :: ls)) := by
      intro first s
      rw [joinLines_cons _ (List.cons_ne_nil _ _), joinLines_append_cons]
    cases hv with
    | kept hne hw =>
      refine ⟨_, ls, (joinLines_append_cons (braced w) p ls).symm, ?_⟩
      exact List.forall_mem_cons.mpr ⟨⟨_, .span hne hw hp⟩, hls⟩
    | opened =>
      refine ⟨"\x7b```".toList, ("\x7d".toList ++ p) :: ls, (hcut "\x7b```".toList "\x7d".toList).symm, ?_⟩
      exact List.forall_mem_cons.mpr
        ⟨⟨_, .fence⟩, List.forall_mem_cons.mpr ⟨⟨_, hp.append (by decide)⟩, hls⟩⟩
    | closed =>
      refine ⟨['{'], ("```\x7d".toList ++ p) :: ls, (hcut ['{'] "```\x7d".toList).symm, ?_⟩
      exact List.forall_mem_cons.mpr
        ⟨⟨_, .brace⟩, List.forall_mem_cons.mpr ⟨⟨_, hp.append (by decide)⟩, hls⟩⟩

/-! ## Settled lines -/

/-- No rule but those for list items and headings has anything to do on the line. -/
structure Settled (l : Text) : Prop where
  bar_not_mem : '|' ∉ l
  untagged : ¬ codeOpening.toList <:+: l
  inlineStyles_eq : inlineStyles l = l

theorem Settled.of_lettered {marks : String} {l : Text} (hl : Lettered marks l)
    (hstyles : ∀ mark ∈ styleMarks, ¬ HasMarks mark l)
    (hmarks : '|' ∉ marks.toList ∧ '{' ∉ marks.toList := by decide) : Settled l where
  bar_not_mem := hl.not_mem ⟨by decide, hmarks.1⟩
  untagged h := hl.not_mem ⟨by decide, hmarks.2⟩ (h.subset (by decide : '{' ∈ codeOpening.toList))
  inlineStyles_eq := inlineStyles_eq_self_of_marks hstyles

theorem Styled.settled {l m : Text} (h : Styled l m) : Settled m where
  bar_not_mem := h.lettered_styled.not_mem
  untagged := by
    have hopening : codeOpening.toList = '{' :: "code".toList := rfl
    rw [hopening]
    exact h.leads.absent (by simp)
  inlineStyles_eq := inlineStyles_eq_self_of_marks h.not_hasMarks

theorem infix_joinLines {mark : Text} (hn : '\n' ∉ mark) (hne : mark ≠ []) {ls : List Text}
    (h : mark <:+: joinLines ls) : ∃ l ∈ ls, mark <:+: l := by
  induction ls with
  | nil => exact absurd (List.infix_nil.mp h) hne
  | cons l ls ih =>
    by_cases hls : ls = []
    · subst hls
      exact ⟨l, List.mem_cons_self, h⟩
    · rw [joinLines_cons l hls, infix_append_newline_iff hn hne] at h
      rcases h with h | h
      · exact ⟨l, List.mem_cons_self, h⟩
      · obtain ⟨m, hm, hmark⟩ := ih h
        exact ⟨m, List.mem_cons_of_mem l hm, hmark⟩

/-- If the marked lines are settled, then marking them is all that the chain does. -/
theorem legacy_convert_of_settled {t : Text} (h : ∀ l ∈ splitLines t, Settled (markLine l)) :
    Dialect.legacy.convert t = onLines markLine t := by
  have habsent : ∀ mark : Text, '\n' ∉ mark → mark ≠ [] → (∀ l, Settled l → ¬ mark <:+: l) →
      ¬ mark <:+: onLines markLine t := by
    intro mark hn hne hsettled hmark
    obtain ⟨m, hm, hinfix⟩ := infix_joinLines hn hne hmark
    obtain ⟨l, hl, rfl⟩ := List.mem_map.mp hm
    exact hsettled _ (h l hl) hinfix
  have hbar : '|' ∉ onLines markLine t := by
    rw [← List.singleton_infix_iff]
    refine habsent ['|'] (by decide) (by simp) fun l hl hb => hl.bar_not_mem ?_
    exact (List.singleton_infix_iff '|' l).mp hb
  have hcode : codeBlock.apply (onLines markLine t) = onLines markLine t :=
    codeBlock_eq_self (habsent codeOpening.toList (by decide) (by decide) fun l hl => hl.untagged)
  have hstyles : onLines inlineStyles (onLines markLine t) = onLines markLine t := by
    have hmap : (splitLines t).map (inlineStyles ∘ markLine) = (splitLines t).map markLine := by
      refine List.map_congr_left fun l hl => ?_
      rw [Function.comp_apply]
      exact (h l hl).inlineStyles_eq
    rw [onLines_onLines markLine_newline_not_mem, onLines, hmap, onLines]
  rw [Dialect.legacy_convert, soleTableHeader_eq_self hbar, hcode, hstyles]

/-! ## Marked lines -/

def itemLine (bullet : String) (depth : Nat) (t : Text) : Text :=
  List.replicate (2 * depth) ' ' ++ bullet.toList ++ t

theorem itemLine_inj {bullet : String} {depth depth' : Nat} {t : Text} :
    itemLine bullet depth t = itemLine bullet depth' t ↔ depth = depth' := by
  constructor
  · intro h
    have hlen := congrArg List.length h
    simp only [itemLine, List.length_append, List.length_replicate] at hlen
    omega
  · rintro rfl
    rfl

theorem isIndent_of_mem_replicate {n : Nat} : ∀ c ∈ List.replicate n ' ', isIndent c = true := by
  intro c hc
  rw [List.eq_of_mem_replicate hc]
  rfl

theorem itemLine_ne_cons {bullet : String} {depth : Nat} {t u : Text} {c : Char} (hc : c ≠ ' ') :
    itemLine bullet (depth + 1) t ≠ c :: u := fun h => hc (List.cons.inj h).1.symm

theorem markLine_item (k : ItemKind) {indent t : Text} (hi : ∀ c ∈ indent, isIndent c = true) (n : Nat) :
    markLine (indent ++ List.replicate (n + 1) k.marker ++ ' ' :: t) =
      itemLine k.sign (n + 1) (t.dropWhile isBlank) := by
  have hblanks : ∀ c ∈ ' ' :: t.takeWhile isBlank, isBlank c = true := by
    rw [List.forall_mem_cons]
    exact ⟨rfl, fun c hc => List.mem_takeWhile_imp hc⟩
  let i : ItemLine := ⟨k, indent, n + 1, ' ' :: t.takeWhile isBlank, t.dropWhile isBlank, hi, by simp, by simp,
    hblanks, head_dropWhile isBlank t⟩
  have hmarkup : i.markup = indent ++ List.replicate (n + 1) k.marker ++ ' ' :: t := by
    simp [i, ItemLine.markup]
  rw [← hmarkup]
  exact LineForm.markLine_markup (.item i)

theorem markLine_bullet {indent t : Text} (hi : ∀ c ∈ indent, isIndent c = true) (n : Nat) :
    markLine (indent ++ List.replicate (n + 1) '*' ++ ' ' :: t) =
      itemLine "* " (n + 1) (t.dropWhile isBlank) := markLine_item .bullet hi n

theorem markLine_numbered {indent t : Text} (hi : ∀ c ∈ indent, isIndent c = true) (n : Nat) :
    markLine (indent ++ List.replicate (n + 1) '#' ++ ' ' :: t) =
      itemLine "1. " (n + 1) (t.dropWhile isBlank) := markLine_item .numbered hi n

theorem markLine_title {d : Char} {level : Nat} (hd : headingLevel? d = some level) {t : Text}
    (ht : '\n' ∉ t) : markLine ('h' :: d :: '.' :: t) = List.replicate (level + 1) '#' ++ t := by
  have hlead : lead ('h' :: d :: '.' :: t) = some 'h' := rfl
  have hbullet : bulletItem.apply ('h' :: d :: '.' :: t) = _ :=
    listItem_apply_of_lead (by decide) (by rw [hlead]; decide)
  have hnumbered : numberedItem.apply ('h' :: d :: '.' :: t) = _ :=
    listItem_apply_of_lead (by decide) (by rw [hlead]; decide)
  rw [markLine, hbullet, hnumbered, heading_apply_title hd ht]

theorem markLine_eq_self {l : Text} (hbullet : lead l ≠ some '*') (hnumbered : lead l ≠ some '#')
    (hheading : ∀ d t, l ≠ 'h' :: d :: '.' :: t) : markLine l = l := by
  have hb : bulletItem.apply l = l := listItem_apply_of_lead (by decide) hbullet
  have hn : numberedItem.apply l = l := listItem_apply_of_lead (by decide) hnumbered
  rw [markLine, hb, hn, heading_apply_of_ne hheading]

theorem markLine_hashes {t : Text} (ht : ∀ c ∈ t.head?, c ≠ '#' ∧ isBlank c = false) (n : Nat) :
    markLine (List.replicate (n + 1) '#' ++ t) = List.replicate (n + 1) '#' ++ t := by
  have hlead : lead (List.replicate (n + 1) '#' ++ t) = some '#' := rfl
  have hbullet : bulletItem.apply (List.replicate (n + 1) '#' ++ t) = _ :=
    listItem_apply_of_lead (by decide) (by rw [hlead]; decide)
  have hnumbered : numberedItem.apply (List.replicate (n + 1) '#' ++ t) = List.replicate (n + 1) '#' ++ t := by
    have hindent : ∀ c ∈ ([] : Text), isIndent c = true := by simp
    have hrun : numberedItem.apply ([] ++ List.replicate (n + 1) '#' ++ t) = _ :=
      listItem_apply_run (by decide) hindent (fun h => (ht '#' h).1 rfl) n
    have hblank : t.head?.any isBlank = false := by
      cases t with
      | nil => rfl
      | cons c t => exact (ht c rfl).2
    rw [hblank] at hrun
    exact hrun
  rw [markLine, hbullet, hnumbered]
  exact heading_apply_of_ne fun d u h => absurd (List.cons.inj h).1 (by decide)

theorem markLine_eq_self_of_not_mem {l : Text} (h : ∀ c ∈ "*#.".toList, c ∉ l) : markLine l = l := by
  refine markLine_eq_self (fun hl => ?_) (fun hl => ?_) fun d t he => ?_
  · exact h '*' (by decide) (mem_of_lead hl)
  · exact h '#' (by decide) (mem_of_lead hl)
  · exact h '.' (by decide) (by simp [he])

theorem Styled.markLine_eq {l m : Text} (h : Styled l m) : markLine m = m := by
  refine markLine_eq_self_of_not_mem fun c hc => h.lettered_styled.not_mem ?_
  revert c
  decide

theorem lettered_itemLine {marks bullet : String} {t : Text} (ht : Prose t) (depth : Nat)
    (hm : " 0123456789".toList ⊆ marks.toList := by decide)
    (hb : Lettered marks bullet.toList := by decide) : Lettered marks (itemLine bullet depth t) :=
  ((Lettered.replicate (hm (by decide)) _).append hb).append (ht.mono hm)

theorem settled_bullet {t : Text} (ht : Prose t) (depth : Nat) : Settled (itemLine "* " depth t) := by
  have hl : Lettered " 0123456789*" (itemLine "* " depth t) :=
    lettered_itemLine ht depth
  have hmarks : ∀ mark ∈ styleMarks,
      Foreign " 0123456789*" mark ∨ (mark.1 ++ mark.2).toList = ['*', '*'] := by decide
  refine .of_lettered hl fun mark hm => ?_
  rcases hmarks mark hm with hc | hc
  · exact hl.not_hasMarks hc
  · intro hstars
    have hcount := (hc ▸ hstars.2).count_le '*'
    have htext : t.count '*' = 0 := List.count_eq_zero.mpr ht.not_mem
    simp [itemLine, htext, List.count_replicate] at hcount

theorem settled_numbered {t : Text} (ht : Prose t) (depth : Nat) : Settled (itemLine "1. " depth t) := by
  have hl : Lettered " 0123456789." (itemLine "1. " depth t) :=
    lettered_itemLine ht depth
  have hmarks : ∀ mark ∈ styleMarks,
      Foreign " 0123456789." mark ∨ mark.1.toList ∈ ["q.".toList].map ('b' :: ·) := by decide
  have hdot : '.' ∉ t := ht.not_mem
  have hleads : Leads 'b' (fun s => '.' ∉ s) (itemLine "1. " depth t) := by
    refine Leads.append_of_not_mem ?_ fun s hs hm => ?_
    · simp
    · exact hdot (hs.subset (List.mem_cons_of_mem 'b' hm))
  exact .of_lettered hl fun mark hm => hl.not_hasMarks_of_leads hleads (by simp) (hmarks mark hm)

theorem settled_hashes {t : Text} (ht : Prose t) (n : Nat) : Settled (List.replicate n '#' ++ t) := by
  have hl : Lettered " 0123456789#" (List.replicate n '#' ++ t) :=
    (Lettered.replicate (by decide) n).append ht.mono
  have hmarks : ∀ mark ∈ styleMarks, Foreign " 0123456789#" mark := by decide
  exact .of_lettered hl fun mark hm => hl.not_hasMarks (hmarks mark hm)

end JiraMarkup
