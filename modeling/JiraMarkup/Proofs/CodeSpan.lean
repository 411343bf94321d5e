import JiraMarkup.BlockMarkup
import JiraMarkup.Proofs.PanelSpan

/-!
# Code blocks

The parts of a code block. A tag that drops anything but its own spelling holds
an equals sign. A block is read the same when the text goes on behind a line
without any `{code}`.
-/

namespace JiraMarkup

/-! ## The parts of a tag -/

theorem dropSeparator_eq (t : Text) : ∃ sep, t = sep ++ dropSeparator t ∧ '\n' ∉ sep := by
  unfold dropSeparator
  split
  · exact ⟨[':'], rfl, by decide⟩
  · exact ⟨['|'], rfl, by decide⟩
  · exact ⟨[], rfl, by decide⟩

theorem not_mem_attributeName {name : String} (h : name ∈ codeAttributes) :
    ∀ d ∈ ":|=\x7d\n".toList, d ∉ name.toList := by
  revert name; decide

structure IsAttributes (attrs : Text) : Prop where
  newline_not_mem : '\n' ∉ attrs
  equals_mem : attrs ≠ [] → '=' ∈ attrs

theorem IsAttributes.nil : IsAttributes [] := ⟨List.not_mem_nil, fun h => absurd rfl h⟩

theorem IsAttributes.append {name value : Text} (hname : '\n' ∉ name ∧ '=' ∈ name) (hvalue : '\n' ∉ value) :
    IsAttributes (name ++ value) :=
  ⟨by simp [hname.1, hvalue], fun _ => List.mem_append_left _ hname.2⟩

theorem attributeName?_eq_some {t r : Text} (h : attributeName? t = some r) :
    ∃ name, t = name ++ r ∧ '\n' ∉ name ∧ '=' ∈ name := by
  obtain ⟨name, hname, hn⟩ := List.exists_of_findSome?_eq_some h
  have hnl : '\n' ∉ name.toList := not_mem_attributeName hname '\n' (by decide)
  obtain ⟨sep, hsep, hsn⟩ := dropSeparator_eq t
  refine ⟨sep ++ (name ++ "=").toList, ?_, by simp [hsn, hnl], by simp⟩
  rw [List.append_assoc, ← after?_eq_some_iff.mp hn, ← hsep]

theorem attribute?_eq_some {t value : Text} (h : attribute? t = some value) :
    ∃ name, t = name ++ value ∧ '\n' ∉ name ∧ '=' ∈ name := by
  unfold attribute? at h
  split at h
  · rename_i c v hn
    split at h
    · rename_i hc
      obtain rfl := Option.some.inj h
      obtain ⟨name, rfl, hnl, he⟩ := attributeName?_eq_some hn
      have hc : '\n' ≠ c := by rintro rfl; simp at hc
      exact ⟨name ++ [c], by simp, by simp [hnl, hc], List.mem_append_left _ he⟩
    · cases h
  · cases h

theorem tagEnd?_eq_some {t body : Text} (h : tagEnd? t = some body) : t = '}' :: body := by
  unfold tagEnd? at h
  split at h
  · split at h
    · obtain rfl := Option.some.inj h; rfl
    · cases h
  · cases h

theorem valueEnd?_skip (s t : Text) : valueEnd? s.length (s ++ t) = valueEnd? 0 t := by
  induction s with
  | nil => rfl
  | cons c s ih => exact ih

theorem valueEnd?_eq_some {t body : Text} (h : valueEnd? 0 t = some body) :
    ∃ value, '\n' ∉ value ∧ t = value ++ '}' :: body := by
  -- On the length, as the name of an attribute is read in one step.
  induction hlen : t.length using Nat.strongRecOn generalizing t with
  | _ n ih =>
    cases t with
    | nil => simp [valueEnd?] at h
    | cons c t =>
      rw [valueEnd?] at h
      cases hattr : attribute? (c :: t) with
      | some value =>
        obtain ⟨name, hname, hn, he⟩ := attribute?_eq_some hattr
        obtain ⟨d, name, rfl⟩ := List.exists_cons_of_ne_nil (List.ne_nil_of_mem he)
        rw [List.cons_append] at hname
        obtain ⟨rfl, rfl⟩ := List.cons.inj hname
        simp only [hattr, List.length_append, Nat.add_sub_cancel, valueEnd?_skip] at h
        obtain ⟨v, hv, rfl⟩ := ih value.length (by simp at hlen; omega) h rfl
        exact ⟨c :: name ++ v, by simp [not_or.mp (List.mem_cons.not.mp hn), hv], by simp⟩
      | none =>
        rw [hattr] at h
        cases htag : tagEnd? (c :: t) with
        | some b =>
          simp only [htag, Option.some.injEq] at h
          exact ⟨[], by simp, h ▸ tagEnd?_eq_some htag⟩
        | none =>
          simp only [htag] at h
          split at h
          · cases h
          · rename_i hc
            obtain ⟨v, hv, rfl⟩ := ih t.length (by simp at hlen; omega) h rfl
            exact ⟨c :: v, by simp [hv, Ne.symm hc], rfl⟩

theorem attributesEnd?_eq_some {t body : Text} (h : attributesEnd? t = some body) :
    ∃ attrs, IsAttributes attrs ∧ t = attrs ++ '}' :: body := by
  unfold attributesEnd? at h
  split at h
  · rename_i value hv
    obtain ⟨name, rfl, hname⟩ := attribute?_eq_some hv
    obtain ⟨v, hn, rfl⟩ := valueEnd?_eq_some h
    exact ⟨name ++ v, .append hname hn, by simp⟩
  · exact ⟨[], .nil, tagEnd?_eq_some h⟩

theorem language?_eq_some {t lang body : Text} (h : language? t = some (lang, body)) :
    (∀ c ∈ lang, 'a' ≤ c ∧ c ≤ 'z') ∧ ∃ attrs, IsAttributes attrs ∧ t = lang ++ attrs ++ '}' :: body := by
  induction t generalizing lang with
  | nil => simp [language?] at h
  | cons c t ih =>
    rw [language?] at h
    split at h
    · rename_i hc
      split at h
      · rename_i l b hl
        simp only [Option.some.injEq, Prod.mk.injEq] at h
        obtain ⟨rfl, rfl⟩ := h
        obtain ⟨hlow, attrs, ha, rfl⟩ := ih hl
        exact ⟨List.forall_mem_cons.mpr ⟨hc, hlow⟩, attrs, ha, by simp⟩
      · obtain ⟨b, hb, he⟩ := Option.map_eq_some_iff.mp h
        simp only [Prod.mk.injEq] at he
        obtain ⟨rfl, rfl⟩ := he
        obtain ⟨attrs, ha, rfl⟩ := attributesEnd?_eq_some hb
        exact ⟨by simpa using hc, attrs, ha, by simp⟩
    · cases h

theorem openingTag?_eq_some {t lang body : Text} (h : openingTag? t = some (lang, body)) :
    (∀ c ∈ lang, 'a' ≤ c ∧ c ≤ 'z') ∧ ∃ sep attrs, (sep = [':'] ∨ sep = [] ∧ lang = []) ∧
      IsAttributes attrs ∧ t = sep ++ lang ++ attrs ++ '}' :: body := by
  rcases Option.or_eq_some_iff.mp h with h | ⟨-, h⟩
  · obtain ⟨t', ht', hl⟩ := Option.bind_eq_some_iff.mp h
    obtain ⟨hlow, attrs, ha, rfl⟩ := language?_eq_some hl
    exact ⟨hlow, [':'], attrs, Or.inl rfl, ha, by rw [after?_eq_some_iff.mp ht']; simp⟩
  · obtain ⟨b, hb, he⟩ := Option.map_eq_some_iff.mp h
    simp only [Prod.mk.injEq] at he
    obtain ⟨rfl, rfl⟩ := he
    obtain ⟨attrs, ha, rfl⟩ := attributesEnd?_eq_some hb
    exact ⟨by simp, [], attrs, Or.inr ⟨rfl, rfl⟩, ha, by simp⟩

theorem codeSpan_eq_some {t : Text} {m : Match} (h : codeSpan t = some m) :
    ∃ sep lang attrs body, (sep = [':'] ∨ sep = [] ∧ lang = []) ∧ (∀ c ∈ lang, 'a' ≤ c ∧ c ≤ 'z') ∧
      IsAttributes attrs ∧
      t = codeOpening.toList ++ (sep ++ lang ++ attrs ++ '}' :: (body ++ codeClosing.toList ++ m.rest)) ∧
      m.output = fence lang body := by
  simp only [codeSpan, Option.bind_eq_bind, Option.bind_eq_some_iff, Option.pure_def, Option.some.injEq] at h
  obtain ⟨tag, htag, ⟨lang, opened⟩, hopen, ⟨body, rest⟩, hbody, rfl⟩ := h
  obtain ⟨hlow, sep, attrs, hs, ha, rfl⟩ := openingTag?_eq_some hopen
  obtain ⟨rfl, -⟩ := breakFirst?_eq_some hbody
  exact ⟨sep, lang, attrs, body, hs, hlow, ha, after?_eq_some_iff.mp htag, rfl⟩

theorem codeSpan_eq_none {t : Text} (h : ¬ codeOpening.toList <+: t) : codeSpan t = none := by
  simp [codeSpan, after?_eq_none_iff.mpr h]

theorem codeSpan_beginsWith : Pattern.BeginsWith codeSpan '{' := by
  intro c t m h
  obtain ⟨sep, lang, attrs, body, -, -, -, ht, -⟩ := codeSpan_eq_some h
  exact (List.cons.inj ht).1

theorem codeClosing_infix_append {s : Text} (hs : '{' ∉ s) (t : Text) :
    codeClosing.toList <:+: s ++ t ↔ codeClosing.toList <:+: t := by
  induction s with
  | nil => rfl
  | cons c s ih =>
    rw [List.mem_cons, not_or] at hs
    rw [List.cons_append, List.infix_cons_iff, ih hs.2, or_iff_right]
    intro hp
    exact hs.1 (List.cons_prefix_cons.mp hp).1

theorem codeBlock_eq_self {t : Text} (h : ¬ codeOpening.toList <:+: t) : codeBlock.apply t = t :=
  Rewrite.apply_eq_self fun _ hs => codeSpan_eq_none fun hp => h (hp.isInfix.trans hs.isInfix)

/-! ## What becomes of a code block -/

theorem trimNewlines_eq (body : Text) :
    ∃ nl nl', nl.Sublist ['\n'] ∧ nl'.Sublist ['\n'] ∧ body = nl ++ trimNewlines body ++ nl' := by
  obtain ⟨nl, hnl, h⟩ := dropNewline_eq body
  obtain ⟨nl', hnl', h'⟩ := dropNewline_eq (dropNewline body).reverse
  refine ⟨nl, nl'.reverse, hnl, hnl'.reverse, ?_⟩
  have : dropNewline body = trimNewlines body ++ nl'.reverse := by
    rw [trimNewlines, ← List.reverse_append, ← h', List.reverse_reverse]
  rw [List.append_assoc, ← this, ← h]

/-- The tags of a code block give way to fences. -/
structure Fences (old new : Text) : Prop where
  dropped : (∀ c ∈ old, c ∈ "\x7bcode:\x7d\n".toList) ∨ '=' ∈ old
  new_ne_nil : new ≠ []
  written : ∀ c ∈ new, c ∈ "`\n".toList

theorem codeSpan_respells : Pattern.Respells Fences codeSpan := by
  intro t m h
  obtain ⟨sep, lang, attrs, body, hsep, -, ha, ht, ho⟩ := codeSpan_eq_some h
  have hs : ∀ c ∈ sep, c = ':' := by rcases hsep with rfl | ⟨rfl, -⟩ <;> simp
  obtain ⟨nl, nl', hnl, hnl', hbody⟩ := trimNewlines_eq body
  refine ⟨(codeOpening.toList ++ sep) ++ lang ++ (attrs ++ '}' :: nl) ++ trimNewlines body ++
    (nl' ++ codeClosing.toList), by simp [codeOpening], ?_, ?_⟩
  · rw [ht]; conv_lhs => rw [hbody]
    simp
  · have hopening : Respelled Fences (codeOpening.toList ++ sep) "```".toList := by
      refine .of_swap ⟨Or.inl fun c hc => ?_, by simp, by decide⟩
      rcases List.mem_append.mp hc with hc | hc
      · exact (show ∀ c ∈ codeOpening.toList, c ∈ "\x7bcode:\x7d\n".toList by decide) c hc
      · rw [hs c hc]; decide
    have hattrs : Respelled Fences (attrs ++ '}' :: nl) ['\n'] := by
      refine .of_swap ⟨?_, by simp, by simp⟩
      by_cases hattrs : attrs = []
      · subst hattrs
        refine Or.inl fun c hc => ?_
        rcases List.mem_cons.mp hc with rfl | hc
        · decide
        · rw [eq_newline_of_mem hnl c hc]; decide
      · exact Or.inr (List.mem_append_left _ (ha.equals_mem hattrs))
    have hclosing : Respelled Fences (nl' ++ codeClosing.toList) "\n```".toList := by
      refine .of_swap ⟨Or.inl fun c hc => ?_, by simp, by decide⟩
      rcases List.mem_append.mp hc with hc | hc
      · rw [eq_newline_of_mem hnl' c hc]; decide
      · exact (show ∀ c ∈ codeClosing.toList, c ∈ "\x7bcode:\x7d\n".toList by decide) c hc
    rw [ho]
    simpa [fence] using
      (((hopening.append (.refl _ lang)).append hattrs).append (.refl _ (trimNewlines body))).append hclosing

/-! ## The end of a line behind a code block -/

section
variable {b : Text} (hb : ¬ codeClosing.toList <:+: b)
include hb

theorem codeClosing_absent : ¬ codeClosing.toList <:+: '\n' :: b := fun h =>
  ((infix_append_newline_iff (a := []) (by decide) (by decide)).mp h).elim
    (fun h => absurd (List.infix_nil.mp h) (by decide)) hb

theorem breakFirst?_codeClosing_append (x : Text) :
    breakFirst? (fun _ => false) codeClosing (x ++ '\n' :: b) =
      (breakFirst? (fun _ => false) codeClosing x).map fun p => (p.1, p.2 ++ '\n' :: b) :=
  breakFirst?_append_newline (by decide)
    ((breakFirst?_eq_none_iff (by decide)).mpr (codeClosing_absent hb)) x

theorem occurs_codeClosing_append (x : Text) :
    occurs codeClosing (x ++ '\n' :: b) = occurs codeClosing x := by
  rw [occurs, breakFirst?_codeClosing_append hb, Option.isSome_map]; rfl

theorem tagCanEnd_append (x : Text) : tagCanEnd (x ++ '\n' :: b) = tagCanEnd x := by
  have hstop : breakFirst? isLineEnd "\x7d" ('\n' :: b) = none := by
    rw [breakFirst?, after?_newline (by decide) (by decide)]; rfl
  rw [tagCanEnd, tagCanEnd, breakFirst?_append_newline (by decide) hstop]
  cases breakFirst? isLineEnd "\x7d" x with
  | none => rfl
  | some p => exact occurs_codeClosing_append hb p.2

theorem tagEnd?_append (x : Text) : tagEnd? (x ++ '\n' :: b) = (tagEnd? x).map (· ++ '\n' :: b) := by
  cases x with
  | nil => rfl
  | cons c x =>
    by_cases hc : c = '}'
    · subst hc
      simp only [List.cons_append, tagEnd?, occurs_codeClosing_append hb]
      split <;> rfl
    · simp [tagEnd?, hc]

omit hb in
theorem attributeName?_append (x : Text) :
    attributeName? (x ++ '\n' :: b) = (attributeName? x).map (· ++ '\n' :: b) := by
  have hsep : dropSeparator (x ++ '\n' :: b) = dropSeparator x ++ '\n' :: b := by
    cases x with
    | nil => rfl
    | cons c x => rw [List.cons_append, dropSeparator.eq_def, dropSeparator.eq_def]; split <;> simp_all
  rw [attributeName?, attributeName?, hsep]
  have hnames : ∀ name ∈ codeAttributes, '\n' ∉ (name ++ "=").toList := by decide
  generalize codeAttributes = names at hnames ⊢
  induction names with
  | nil => rfl
  | cons name names ih =>
    rw [List.findSome?_cons, List.findSome?_cons, after?_append_newline (hnames name List.mem_cons_self)]
    cases after? (name ++ "=") (dropSeparator x) with
    | some r => rfl
    | none => exact ih fun n hn => hnames n (List.mem_cons_of_mem _ hn)

theorem attribute?_append (x : Text) :
    attribute? (x ++ '\n' :: b) = (attribute? x).map (· ++ '\n' :: b) := by
  rw [attribute?, attribute?, attributeName?_append]
  cases attributeName? x with
  | none => rfl
  | some r =>
    cases r with
    | nil => rfl
    | cons c value =>
      simp only [Option.map_some, List.cons_append, tagCanEnd_append hb]
      split <;> rfl

theorem attribute?_newline : attribute? ('\n' :: b) = none := attribute?_append hb []

theorem valueEnd?_append (n : Nat) (x : Text) (hn : n ≤ x.length) :
    valueEnd? n (x ++ '\n' :: b) = (valueEnd? n x).map (· ++ '\n' :: b) := by
  fun_induction valueEnd? n x with
  | case1 n =>
    obtain rfl := Nat.le_zero.mp hn
    rw [List.nil_append, valueEnd?, attribute?_newline hb]
    rfl
  | case2 n c x ih =>
    rw [List.cons_append, valueEnd?]
    exact ih (Nat.le_of_succ_le_succ hn)
  | case3 c x value hv ih =>
    rw [List.cons_append, valueEnd?, ← List.cons_append, attribute?_append hb, hv]
    simp only [Option.map_some, List.length_append, Nat.add_sub_add_right]
    exact ih (Nat.sub_le _ _)
  | case4 c x hv body hbody =>
    rw [List.cons_append, valueEnd?, ← List.cons_append, attribute?_append hb, hv, tagEnd?_append hb, hbody]
    rfl
  | case5 x hv hbody =>
    rw [List.cons_append, valueEnd?, ← List.cons_append, attribute?_append hb, hv]
    rfl
  | case6 c x hv hbody hc ih =>
    rw [List.cons_append, valueEnd?, ← List.cons_append, attribute?_append hb, hv, tagEnd?_append hb, hbody]
    simpa [hc] using ih (Nat.zero_le _)

theorem attributesEnd?_append (x : Text) :
    attributesEnd? (x ++ '\n' :: b) = (attributesEnd? x).map (· ++ '\n' :: b) := by
  rw [attributesEnd?, attributesEnd?, attribute?_append hb]
  cases attribute? x with
  | none => exact tagEnd?_append hb x
  | some value => exact valueEnd?_append hb 0 value (Nat.zero_le _)

theorem language?_append (x : Text) :
    language? (x ++ '\n' :: b) = (language? x).map fun p => (p.1, p.2 ++ '\n' :: b) := by
  induction x with
  | nil => rfl
  | cons c x ih =>
    rw [List.cons_append, language?, language?]
    split
    · rw [ih]
      cases language? x with
      | some p => rfl
      | none =>
        simp only [Option.map_none]
        rw [attributesEnd?_append hb, Option.map_map, Option.map_map]; rfl
    · rfl

theorem openingTag?_append (x : Text) :
    openingTag? (x ++ '\n' :: b) = (openingTag? x).map fun p => (p.1, p.2 ++ '\n' :: b) := by
  rw [openingTag?, openingTag?, after?_append_newline (by decide), attributesEnd?_append hb]
  cases after? ":" x with
  | none => cases attributesEnd? x <;> rfl
  | some y =>
    simp only [Option.map_some, Option.bind_some, language?_append hb]
    cases language? y with
    | none => cases attributesEnd? x <;> rfl
    | some p => rfl

theorem codeSpan_append_newline (s : Text) : codeSpan (s ++ '\n' :: b) =
    (codeSpan s).map fun m => ⟨m.output, m.rest ++ '\n' :: b⟩ := by
  simp only [codeSpan, Option.bind_eq_bind, Option.pure_def]
  rw [after?_append_newline (by decide)]
  cases after? codeOpening s with
  | none => rfl
  | some tag =>
    simp only [Option.map_some, Option.bind_some, openingTag?_append hb]
    cases openingTag? tag with
    | none => rfl
    | some p =>
      simp only [Option.map_some, Option.bind_some, breakFirst?_codeClosing_append hb]
      cases breakFirst? (fun _ => false) codeClosing p.2 <;> rfl

end

end JiraMarkup
