import JiraMarkup.Proofs.TagReading

/-!
# Tags of code blocks

A tag is read as it is written: its language is the whole run of letters behind
the colon, and it ends behind its last attribute. No name of an attribute can be
taken for a language or for a part of one, and none is found inside a value.
-/

namespace JiraMarkup

/-! ## Tags -/

structure CodeAttribute where
  separator : Char
  name : String
  value : Text
  separator_mem : separator ∈ "|:".toList
  name_mem : name ∈ codeAttributes
  value_ne_nil : value ≠ []
  value_clean : ∀ c ∈ value, c ∉ "\x7d=\n".toList

def CodeAttribute.text (a : CodeAttribute) : Text := a.separator :: (a.name.toList ++ '=' :: a.value)

structure CodeTag where
  language : Text
  attributes : List CodeAttribute
  language_lower : ∀ c ∈ language, 'a' ≤ c ∧ c ≤ 'z'

namespace CodeTag

def attributesText (tag : CodeTag) : Text := tag.attributes.flatMap CodeAttribute.text

def languageText (tag : CodeTag) : Text := if tag.language = [] then [] else ':' :: tag.language

def text (tag : CodeTag) : Text := codeOpening.toList ++ tag.languageText ++ tag.attributesText ++ ['}']

end CodeTag

/-! ## The end of a tag -/

theorem CodeAttribute.text_clean (a : CodeAttribute) : '}' ∉ a.text ∧ '\n' ∉ a.text := by
  have hname : ∀ d ∈ "\x7d\n".toList, d ∉ a.name.toList := fun d hd =>
    not_mem_attributeName a.name_mem d (by revert d; decide)
  have hsep : ∀ c ∈ "|:".toList, '}' ≠ c ∧ '\n' ≠ c := by decide
  have hvalue : ∀ c ∈ "\x7d=\n".toList, c ∉ a.value := fun c hc hv => a.value_clean c hv hc
  simp [CodeAttribute.text, hname, hsep a.separator a.separator_mem, hvalue]

theorem attributes_clean (attrs : List CodeAttribute) :
    '}' ∉ attrs.flatMap CodeAttribute.text ∧ '\n' ∉ attrs.flatMap CodeAttribute.text := by
  simp only [List.mem_flatMap, not_exists, not_and]
  exact ⟨fun a _ => a.text_clean.1, fun a _ => a.text_clean.2⟩

theorem attributes_append_close (attrs : List CodeAttribute) (body : Text) :
    ∃ d t, d ∈ "|:\x7d".toList ∧ attrs.flatMap CodeAttribute.text ++ '}' :: body = d :: t := by
  cases attrs with
  | nil => exact ⟨'}', body, by decide, rfl⟩
  | cons a attrs =>
    have hsep : "|:".toList ⊆ "|:\x7d".toList := by decide
    exact ⟨a.separator, _, hsep a.separator_mem, rfl⟩

theorem attributes_tagText (body : Text) (attrs : List CodeAttribute) :
    TagText body (attrs.flatMap CodeAttribute.text) := by
  obtain ⟨hbrace, hn⟩ := attributes_clean attrs
  refine ⟨hbrace, hn, fun name _ hs => absurd hs fun hs => ?_⟩
  rcases List.eq_nil_or_concat attrs with rfl | ⟨front, a, rfl⟩
  · simp at hs
  · obtain ⟨value, c, hvalue⟩ : ∃ value c, a.value = value ++ [c] :=
      ⟨_, _, (List.dropLast_concat_getLast a.value_ne_nil).symm⟩
    have hc : c ≠ '=' := fun h => a.value_clean c (by simp [hvalue]) (by simp [h])
    have hconcat : (front.concat a).flatMap CodeAttribute.text =
        front.flatMap CodeAttribute.text ++ a.separator :: (a.name.toList ++ '=' :: value) ++ [c] := by
      simp [CodeAttribute.text, hvalue]
    obtain ⟨u, hu⟩ := hs
    have hlast := congrArg List.getLast? (hu.trans hconcat)
    rw [String.toList_append, ← List.append_assoc, List.getLast?_concat] at hlast
    simp at hlast
    exact hc hlast.symm

theorem attributes_read (attrs : List CodeAttribute) : Attributes (attrs.flatMap CodeAttribute.text) := by
  cases attrs with
  | nil => exact .none
  | cons a attrs =>
    have hsep : ∀ c ∈ "|:".toList, [c] ∈ attributeSeparators := by decide
    have hne : a.value ++ attrs.flatMap CodeAttribute.text ≠ [] := by simp [a.value_ne_nil]
    have hread := Attributes.some (hsep a.separator a.separator_mem) a.name_mem hne
    simpa [CodeAttribute.text] using hread

theorem attributesEnd?_attributes {body : Text} (hbody : occurs codeClosing body = true)
    (attrs : List CodeAttribute) :
    attributesEnd? (attrs.flatMap CodeAttribute.text ++ '}' :: body) = some body :=
  (attributesEnd?_iff (attributes_tagText body attrs) hbody).mpr ⟨attributes_read attrs, rfl⟩

/-! ## The language -/

theorem attributesEnd?_eq_none {name : String} (hname : name ∈ codeAttributes) {c : Char} {x : Text}
    (hx : c :: x <:+ name.toList) (v : Text) : attributesEnd? (x ++ '=' :: v) = none := by
  have hsuffix : x <:+ name.toList := (List.suffix_cons c x).trans hx
  have habsent (d : Char) (hd : d ∈ ":|=\x7d\n".toList) : d ∉ x := fun h =>
    not_mem_attributeName hname d hd (hsuffix.subset h)
  have hdrop : dropSeparator (x ++ '=' :: v) = x ++ '=' :: v := by
    cases x with
    | nil => simp [dropSeparator]
    | cons d x =>
      have hcolon : d ≠ ':' := fun h => habsent ':' (by decide) (by simp [h])
      have hbar : d ≠ '|' := fun h => habsent '|' (by decide) (by simp [h])
      simp [dropSeparator, hcolon, hbar]
  have hname' : attributeName? (x ++ '=' :: v) = none := by
    refine Option.eq_none_iff_forall_ne_some.mpr fun r hr => ?_
    obtain ⟨⟨name', hname', rfl⟩, -⟩ :=
      (attributeName?_eq_some_iff hdrop (habsent '=' (by decide))).mp hr
    have hsame : ∀ n ∈ codeAttributes, ∀ n' ∈ codeAttributes, n'.toList <:+ n.toList → n' = n := by decide
    have hlen := hx.length_le
    rw [hsame name hname name' hname' hsuffix] at hlen
    exact Nat.not_succ_le_self _ hlen
  have htag : tagEnd? (x ++ '=' :: v) = none := by
    cases x with
    | nil => simp [tagEnd?]
    | cons d x =>
      have hbrace : d ≠ '}' := fun h => habsent '}' (by decide) (by simp [h])
      simp [tagEnd?, hbrace]
  rw [attributesEnd?, attribute?, hname', htag]

theorem language?_name {name : String} (hname : name ∈ codeAttributes) {x : Text} (hx : x <:+ name.toList)
    (v : Text) : language? (x ++ '=' :: v) = none := by
  induction x with
  | nil => simp [language?]
  | cons c x ih =>
    rw [List.cons_append, language?, ih ((List.suffix_cons c x).trans hx), attributesEnd?_eq_none hname hx]
    simp

theorem language?_letters {lang t body : Text} {d : Char} (hne : lang ≠ [])
    (hlow : ∀ c ∈ lang, 'a' ≤ c ∧ c ≤ 'z') (hd : ¬ ('a' ≤ d ∧ d ≤ 'z'))
    (hend : attributesEnd? (d :: t) = some body) : language? (lang ++ d :: t) = some (lang, body) := by
  induction lang with
  | nil => exact absurd rfl hne
  | cons c lang ih =>
    rw [List.cons_append, language?, if_pos (hlow c List.mem_cons_self)]
    by_cases h : lang = []
    · subst h
      rw [List.nil_append, language?, if_neg hd, hend]
      rfl
    · rw [ih h fun d hd => hlow d (List.mem_cons_of_mem _ hd)]

namespace CodeTag

variable (tag : CodeTag) {body : Text}

theorem no_language (attrs : List CodeAttribute) (body : Text) :
    (after? ":" (attrs.flatMap CodeAttribute.text ++ '}' :: body)).bind language? = none := by
  rw [Option.bind_eq_none_iff]
  intro t ht
  rw [after?_eq_some_iff] at ht
  cases attrs with
  | nil => simp at ht
  | cons a attrs =>
    rw [List.flatMap_cons, CodeAttribute.text, List.cons_append, List.cons_append] at ht
    obtain rfl : a.name.toList ++ '=' :: a.value ++ attrs.flatMap CodeAttribute.text ++ '}' :: body = t :=
      (List.cons.inj ht).2
    simp only [List.append_assoc, List.cons_append]
    exact language?_name a.name_mem List.suffix_rfl _

theorem openingTag?_text (hbody : occurs codeClosing body = true) :
    openingTag? (tag.languageText ++ tag.attributesText ++ '}' :: body) = some (tag.language, body) := by
  have hend := attributesEnd?_attributes hbody tag.attributes
  rw [languageText, attributesText]
  by_cases hlang : tag.language = []
  · rw [if_pos hlang, List.nil_append, openingTag?, no_language, hend, hlang]
    rfl
  · obtain ⟨d, t, hd, ht⟩ := attributes_append_close tag.attributes body
    have hstop : ∀ d ∈ "|:\x7d".toList, ¬ ('a' ≤ d ∧ d ≤ 'z') := by decide
    have hcolon : ∀ t, after? ":" (':' :: t) = some t := after?_append ":"
    rw [if_neg hlang, List.append_assoc, ht, List.cons_append, openingTag?, hcolon, Option.bind_some,
      language?_letters hlang tag.language_lower (hstop d hd) (ht ▸ hend)]
    rfl

theorem codeSpan_text (habsent : ¬ codeClosing.toList <:+: body) (rest : Text) :
    codeSpan (tag.text ++ (body ++ codeClosing.toList ++ rest)) = some ⟨fence tag.language body, rest⟩ := by
  have hoccurs : occurs codeClosing (body ++ codeClosing.toList ++ rest) = true :=
    (occurs_iff (by decide)).mpr (List.infix_append _ _ _)
  have hspan := codeSpan_of_openingTag? habsent (tag.openingTag?_text hoccurs)
  simpa [text] using hspan

end CodeTag

end JiraMarkup
