import JiraMarkup.Proofs.CodeSpan
import Mathlib.Data.List.Infix

/-!
# The reading of a tag

Between `{code` and the end of a tag stands a language, an attribute, both or
neither, and anything else is no tag. The value of an attribute may begin with any
character, even with the brace that was to end the tag. But where no attribute
lacks its value, a tag that is read at all is read up to its first brace.
-/

namespace JiraMarkup

/-! ## Names of attributes -/

def attributeSeparators : List Text := [[], [':'], ['|']]

theorem equals_not_mem_name {name : String} (h : name ∈ codeAttributes) : '=' ∉ name.toList :=
  not_mem_attributeName h '=' (by decide)

theorem after?_name {name : String} (hname : name ∈ codeAttributes) {x : Text} (hx : '=' ∉ x) {v r : Text} :
    after? (name ++ "=") (x ++ '=' :: v) = some r ↔ name.toList = x ∧ v = r := by
  have hsplit : (name ++ "=").toList ++ r = name.toList ++ '=' :: r := by simp
  rw [after?_eq_some_iff, hsplit]
  constructor
  · intro h
    obtain ⟨rfl, rfl⟩ := append_cons_inj hx (equals_not_mem_name hname) h
    exact ⟨rfl, rfl⟩
  · rintro ⟨rfl, rfl⟩
    rfl

theorem attributeName?_eq_some_iff {t x v r : Text} (ht : dropSeparator t = x ++ '=' :: v) (hx : '=' ∉ x) :
    attributeName? t = some r ↔ (∃ name ∈ codeAttributes, name.toList = x) ∧ v = r := by
  rw [attributeName?, ht]
  constructor
  · intro h
    obtain ⟨name, hname, hafter⟩ := List.exists_of_findSome?_eq_some h
    obtain ⟨hx', hr⟩ := (after?_name hname hx).mp hafter
    exact ⟨⟨name, hname, hx'⟩, hr⟩
  · rintro ⟨⟨name, hname, hx'⟩, rfl⟩
    have hsome : (codeAttributes.findSome? fun name => after? (name ++ "=") (x ++ '=' :: v)).isSome = true :=
      List.findSome?_isSome_iff.mpr
        ⟨name, hname, by rw [(after?_name hname hx).mpr ⟨hx', rfl⟩]; rfl⟩
    obtain ⟨r, hr⟩ := Option.isSome_iff_exists.mp hsome
    obtain ⟨n, hn, hafter⟩ := List.exists_of_findSome?_eq_some hr
    rw [hr, ((after?_name hn hx).mp hafter).2]

theorem dropSeparator_append {sep : Text} (hsep : sep ∈ attributeSeparators) {name : String}
    (hname : name ∈ codeAttributes) (v : Text) :
    dropSeparator (sep ++ name.toList ++ '=' :: v) = name.toList ++ '=' :: v := by
  simp only [attributeSeparators, List.mem_cons, List.not_mem_nil, or_false] at hsep
  rcases hsep with rfl | rfl | rfl
  · have hhead : ∀ name ∈ codeAttributes, ∃ c t, name.toList = c :: t ∧ c ≠ ':' ∧ c ≠ '|' := by
      simp [codeAttributes]
    obtain ⟨c, t, hct, hcolon, hbar⟩ := hhead name hname
    simp [hct, dropSeparator, hcolon, hbar]
  · rfl
  · rfl

theorem attributeName?_iff {t r : Text} : attributeName? t = some r ↔
    ∃ sep ∈ attributeSeparators, ∃ name ∈ codeAttributes, t = sep ++ name.toList ++ '=' :: r := by
  constructor
  · intro h
    obtain ⟨name, hname, hafter⟩ := List.exists_of_findSome?_eq_some h
    have hdrop : ∃ sep ∈ attributeSeparators, t = sep ++ dropSeparator t := by
      unfold dropSeparator attributeSeparators
      split <;> simp
    obtain ⟨sep, hsep, ht⟩ := hdrop
    refine ⟨sep, hsep, name, hname, ?_⟩
    rw [ht, after?_eq_some_iff.mp hafter]
    simp
  · rintro ⟨sep, hsep, name, hname, rfl⟩
    exact (attributeName?_eq_some_iff (dropSeparator_append hsep hname r) (equals_not_mem_name hname)).mpr
      ⟨⟨name, hname, rfl⟩, rfl⟩

/-! ## Tags -/

/-- Attributes are read as one, whose value has the others in it. -/
inductive Attributes : Text → Prop
  | none : Attributes []
  | some {sep value : Text} {name : String} : sep ∈ attributeSeparators → name ∈ codeAttributes → value ≠ [] →
      Attributes (sep ++ name.toList ++ '=' :: value)

def languageMark (lang : Text) : Text := if lang = [] then [] else ':' :: lang

def IsTag (r : Text) : Prop :=
  ∃ lang attrs, (∀ c ∈ lang, 'a' ≤ c ∧ c ≤ 'z') ∧ Attributes attrs ∧ r = languageMark lang ++ attrs

/-- Text up to the brace that ends a tag. The brace is no value of an attribute: either no attribute
lacks its value, or the tag could not end behind the brace. -/
structure TagText (body r : Text) : Prop where
  brace_not_mem : '}' ∉ r
  newline_not_mem : '\n' ∉ r
  ends : ∀ name ∈ codeAttributes, (name ++ "=").toList <:+ r → tagCanEnd body = false

namespace TagText

variable {body r s : Text}

theorem nil : TagText body [] :=
  ⟨List.not_mem_nil, List.not_mem_nil, fun name _ hs => absurd (List.suffix_nil.mp hs) (by simp)⟩

theorem of_suffix (h : TagText body r) (hs : s <:+ r) : TagText body s :=
  ⟨fun hm => h.brace_not_mem (hs.subset hm), fun hm => h.newline_not_mem (hs.subset hm),
    fun name hname hv => h.ends name hname (hv.trans hs)⟩

end TagText

/-! ## Reading up to the end of a tag -/

section
variable {r body : Text} (hr : TagText body r) (hbody : occurs codeClosing body = true)
include hr hbody

omit hr in
theorem tagCanEnd_close {x : Text} (hbrace : '}' ∉ x) (hn : '\n' ∉ x) :
    tagCanEnd (x ++ '}' :: body) = true := by
  have hbreak : breakFirst? isLineEnd "\x7d" (x ++ "\x7d".toList ++ body) = some (x, body) :=
    breakFirst?_append_of_absent (isLineEnd_of_not_mem hn) rfl List.not_mem_nil
      ((List.singleton_infix_iff '}' x).not.mpr hbrace)
  rw [tagCanEnd, show x ++ '}' :: body = x ++ "\x7d".toList ++ body by simp, hbreak]
  exact hbody

omit hr hbody in
theorem tagCanEnd_line {line : Text} (h : '}' ∉ line) (t : Text) : tagCanEnd (line ++ '\n' :: t) = false := by
  have hstop : breakFirst? isLineEnd "\x7d" ('\n' :: t) = none := by
    rw [breakFirst?, after?_newline (by decide) (by decide)]
    rfl
  have hnone : breakFirst? isLineEnd "\x7d" line = none := by
    rw [Option.eq_none_iff_forall_ne_some]
    rintro ⟨a, b⟩ hab
    have hline := (breakFirst?_eq_some hab).1
    exact h (by simp [hline])
  rw [tagCanEnd, breakFirst?_append_newline (by decide) hstop, hnone]
  rfl

theorem attribute?_iff {value : Text} : attribute? (r ++ '}' :: body) = some value ↔
    ∃ sep ∈ attributeSeparators, ∃ name ∈ codeAttributes, ∃ c v,
      r = sep ++ name.toList ++ '=' :: c :: v ∧ value = v ++ '}' :: body := by
  unfold attribute?
  constructor
  · intro h
    split at h
    · rename_i c v hname
      split at h
      · rename_i hcan
        obtain rfl := Option.some.inj h
        obtain ⟨sep, hsep, name, hn, ht⟩ := attributeName?_iff.mp hname
        have hbrace : '}' ∉ sep ++ (name ++ "=").toList := by
          have hseps : ∀ sep ∈ attributeSeparators, '}' ∉ sep := by decide
          simp [hseps sep hsep, not_mem_attributeName hn '}' (by decide)]
        have hprefix : sep ++ (name ++ "=").toList <+: r := by
          rw [← prefix_append_stop_iff (b := body) hbrace, ht]
          exact ⟨c :: v, by simp⟩
        obtain ⟨z, rfl⟩ := hprefix
        have hz : z ++ '}' :: body = c :: v := by simpa using ht
        cases z with
        | nil =>
          obtain ⟨-, rfl⟩ := List.cons.inj hz
          have hend := hr.ends name hn ⟨sep, by simp⟩
          simp [hend] at hcan
        | cons d z =>
          obtain ⟨rfl, rfl⟩ := List.cons.inj hz
          exact ⟨sep, hsep, name, hn, d, z, by simp, rfl⟩
      · cases h
    · cases h
  · rintro ⟨sep, hsep, name, hn, c, v, rfl, rfl⟩
    have hsplit : sep ++ name.toList ++ '=' :: c :: v ++ '}' :: body =
        sep ++ name.toList ++ '=' :: c :: (v ++ '}' :: body) := by simp
    have hname := attributeName?_iff.mpr ⟨sep, hsep, name, hn, hsplit⟩
    have hv : TagText body (c :: v) := hr.of_suffix ⟨sep ++ name.toList ++ ['='], by simp⟩
    have hc : c ≠ '\n' := fun h => hv.newline_not_mem (by simp [h])
    have hend := tagCanEnd_close hbody (x := v) (fun h => hv.brace_not_mem (List.mem_cons_of_mem c h))
      (fun h => hv.newline_not_mem (List.mem_cons_of_mem c h))
    rw [hname]
    simp [hc, hend]

theorem tagEnd?_iff {b : Text} : tagEnd? (r ++ '}' :: body) = some b ↔ r = [] ∧ b = body := by
  cases r with
  | nil => simp [tagEnd?, hbody, eq_comm]
  | cons c r =>
    have hc : c ≠ '}' := fun h => hr.brace_not_mem (by simp [h])
    simp [tagEnd?, hc]

/-- Whatever attributes a value has in it, it is read up to the end of the tag. -/
theorem valueEnd?_tag : valueEnd? 0 (r ++ '}' :: body) = some body := by
  -- On the length, as the name of an attribute is read in one step.
  induction hn : r.length using Nat.strongRecOn generalizing r with
  | _ n ih =>
    cases r with
    | nil =>
      have hattr : attribute? ('}' :: body) = none := by
        rw [Option.eq_none_iff_forall_ne_some]
        intro v hv
        obtain ⟨sep, -, name, -, c, v, h, -⟩ := (attribute?_iff hr hbody).mp hv
        simp at h
      rw [List.nil_append, valueEnd?, hattr, show tagEnd? ('}' :: body) = some body from
        (tagEnd?_iff hr hbody).mpr ⟨rfl, rfl⟩]
    | cons c r =>
      have hr' := hr.of_suffix (List.suffix_cons c r)
      have hc : c ≠ '\n' := fun h => hr.newline_not_mem (by simp [h])
      have hend : tagEnd? (c :: (r ++ '}' :: body)) = none := by
        rw [Option.eq_none_iff_forall_ne_some]
        intro b hb
        exact absurd ((tagEnd?_iff hr hbody).mp hb).1 (by simp)
      cases hattr : attribute? (c :: (r ++ '}' :: body)) with
      | none =>
        rw [List.cons_append, valueEnd?, hattr, hend]
        simpa [hc] using ih r.length (by simp at hn; omega) hr' rfl
      | some value =>
        obtain ⟨sep, -, name, -, d, v, he, rfl⟩ := (attribute?_iff hr hbody).mp hattr
        have hsuffix : v <:+ r := by
          have hv : v <:+ c :: r := ⟨sep ++ name.toList ++ ['=', d], by simp [he]⟩
          refine (List.suffix_cons_iff.mp hv).resolve_left fun h => ?_
          have hlen := congrArg List.length he
          simp [h] at hlen
          omega
        obtain ⟨s, rfl⟩ := hsuffix
        have hv := hr'.of_suffix (List.suffix_append s v)
        rw [List.cons_append, valueEnd?, hattr, List.append_assoc]
        simp only [List.length_append, Nat.add_sub_cancel]
        rw [valueEnd?_skip]
        exact ih v.length (by simp at hn; omega) hv rfl

theorem attributesEnd?_iff {b : Text} :
    attributesEnd? (r ++ '}' :: body) = some b ↔ Attributes r ∧ b = body := by
  unfold attributesEnd?
  cases hattr : attribute? (r ++ '}' :: body) with
  | none =>
    refine (tagEnd?_iff hr hbody).trans (and_congr_left' ⟨?_, ?_⟩)
    · rintro rfl
      exact .none
    · rintro (_ | ⟨hsep, hname, hne⟩)
      · rfl
      · obtain ⟨c, v, rfl⟩ := List.exists_cons_of_ne_nil hne
        have h := (attribute?_iff hr hbody).mpr ⟨_, hsep, _, hname, c, v, rfl, rfl⟩
        rw [hattr] at h
        cases h
  | some value =>
    obtain ⟨sep, hsep, name, hname, c, v, rfl, rfl⟩ := (attribute?_iff hr hbody).mp hattr
    have hv := hr.of_suffix (s := v) ⟨sep ++ name.toList ++ ['=', c], by simp⟩
    have hattrs : Attributes (sep ++ name.toList ++ '=' :: c :: v) := .some hsep hname (by simp)
    simp only [valueEnd?_tag hv hbody, hattrs, Option.some.injEq, true_and, eq_comm]

theorem language?_sound {lang b : Text} (h : language? (r ++ '}' :: body) = some (lang, b)) :
    b = body ∧ lang ≠ [] ∧ ∃ attrs, Attributes attrs ∧ r = lang ++ attrs := by
  induction r generalizing lang with
  | nil => simp [language?] at h
  | cons c r ih =>
    have hr' := hr.of_suffix (List.suffix_cons c r)
    rw [List.cons_append, language?] at h
    split at h
    · split at h
      · rename_i lang' b' hlang
        simp only [Option.some.injEq, Prod.mk.injEq] at h
        obtain ⟨rfl, rfl⟩ := h
        obtain ⟨hb, -, attrs, hattrs, rfl⟩ := ih hr' hlang
        exact ⟨hb, by simp, attrs, hattrs, rfl⟩
      · obtain ⟨b', hend, he⟩ := Option.map_eq_some_iff.mp h
        simp only [Prod.mk.injEq] at he
        obtain ⟨rfl, rfl⟩ := he
        obtain ⟨hattrs, hb⟩ := (attributesEnd?_iff hr' hbody).mp hend
        exact ⟨hb, by simp, r, hattrs, rfl⟩
    · cases h

omit hr in
theorem language?_complete {lang attrs : Text} (hr : TagText body (lang ++ attrs)) (hne : lang ≠ [])
    (hlow : ∀ c ∈ lang, 'a' ≤ c ∧ c ≤ 'z') (hattrs : Attributes attrs) :
    (language? (lang ++ attrs ++ '}' :: body)).isSome = true := by
  induction lang with
  | nil => exact absurd rfl hne
  | cons c lang ih =>
    have hr' := hr.of_suffix (List.suffix_cons c (lang ++ attrs))
    rw [List.forall_mem_cons] at hlow
    rw [List.cons_append, List.cons_append, language?, if_pos hlow.1]
    by_cases hlang : lang = []
    · subst hlang
      rw [List.nil_append] at hr' ⊢
      rw [(attributesEnd?_iff hr' hbody).mpr ⟨hattrs, rfl⟩]
      split <;> rfl
    · obtain ⟨p, hp⟩ := Option.isSome_iff_exists.mp (ih hr' hlang hlow.2)
      rw [hp]
      rfl

theorem openingTag?_sound {lang b : Text} (h : openingTag? (r ++ '}' :: body) = some (lang, b)) :
    IsTag r ∧ '\n' ∉ lang ∧ b = body := by
  have hlow := (openingTag?_eq_some h).1
  have hline : '\n' ∉ lang := fun hn => absurd (hlow '\n' hn) (by decide)
  rcases Option.or_eq_some_iff.mp h with h | ⟨-, h⟩
  · obtain ⟨t, ht, hlang⟩ := Option.bind_eq_some_iff.mp h
    have hcolon : ":".toList <+: r := by
      rw [← prefix_append_stop_iff (b := body) (c := '}') (by decide), after?_eq_some_iff.mp ht]
      exact List.prefix_append _ _
    obtain ⟨r', rfl⟩ := hcolon
    rw [List.append_assoc, after?_append, Option.some.injEq] at ht
    subst ht
    obtain ⟨hb, hne, attrs, hattrs, rfl⟩ :=
      language?_sound (hr.of_suffix (List.suffix_append _ r')) hbody hlang
    refine ⟨⟨lang, attrs, hlow, hattrs, ?_⟩, hline, hb⟩
    simp [languageMark, hne]
  · obtain ⟨b', hend, he⟩ := Option.map_eq_some_iff.mp h
    simp only [Prod.mk.injEq] at he
    obtain ⟨rfl, rfl⟩ := he
    obtain ⟨hattrs, hb⟩ := (attributesEnd?_iff hr hbody).mp hend
    exact ⟨⟨[], r, by simp, hattrs, rfl⟩, hline, hb⟩

theorem openingTag?_complete (htag : IsTag r) :
    ∃ lang, '\n' ∉ lang ∧ openingTag? (r ++ '}' :: body) = some (lang, body) := by
  obtain ⟨lang, attrs, hlow, hattrs, rfl⟩ := htag
  have hsome : (openingTag? (languageMark lang ++ attrs ++ '}' :: body)).isSome = true := by
    rw [openingTag?, Option.isSome_or, Bool.or_eq_true]
    by_cases hlang : lang = []
    · subst hlang
      refine Or.inr ?_
      rw [Option.isSome_map, (attributesEnd?_iff hr hbody).mpr ⟨hattrs, rfl⟩]
      rfl
    · refine Or.inl ?_
      have hmark : languageMark lang = ":".toList ++ lang := by simp [languageMark, hlang]
      rw [hmark, List.append_assoc] at hr
      have h := language?_complete hbody (hr.of_suffix (List.suffix_append _ _)) hlang hlow hattrs
      rw [hmark, List.append_assoc, List.append_assoc, after?_append]
      rwa [List.append_assoc] at h
  obtain ⟨⟨lang', b⟩, h⟩ := Option.isSome_iff_exists.mp hsome
  obtain ⟨-, hline, rfl⟩ := openingTag?_sound hr hbody h
  exact ⟨lang', hline, h⟩

end

/-! ## Code blocks behind a tag -/

theorem codeSpan_of_openingTag? {tag lang body rest : Text} (habsent : ¬ codeClosing.toList <:+: body)
    (h : openingTag? tag = some (lang, body ++ codeClosing.toList ++ rest)) :
    codeSpan (codeOpening.toList ++ tag) = some ⟨fence lang body, rest⟩ := by
  have hbreak : breakFirst? (fun _ => false) codeClosing (body ++ codeClosing.toList ++ rest) =
      some (body, rest) :=
    breakFirst?_append_of_absent (fun _ _ => rfl) (show codeClosing.toList = '{' :: "code\x7d".toList from rfl)
      (by decide) habsent
  simp only [codeSpan, Option.bind_eq_bind, Option.pure_def, after?_append, Option.bind_some, h, hbreak]

theorem codeSpan_tag_eq_none_iff {r body : Text} (hr : TagText body r)
    (hbody : occurs codeClosing body = true) :
    codeSpan (codeOpening.toList ++ (r ++ '}' :: body)) = none ↔ ¬ IsTag r := by
  simp only [codeSpan, Option.bind_eq_bind, Option.pure_def, after?_append, Option.bind_some]
  constructor
  · intro hnone htag
    obtain ⟨lang, -, hopen⟩ := openingTag?_complete hr hbody htag
    obtain ⟨p, hp⟩ := Option.isSome_iff_exists.mp hbody
    rw [hopen, Option.bind_some, hp] at hnone
    cases hnone
  · intro htag
    cases hopen : openingTag? (r ++ '}' :: body) with
    | none => rfl
    | some p => exact absurd (openingTag?_sound hr hbody hopen).1 htag

end JiraMarkup
