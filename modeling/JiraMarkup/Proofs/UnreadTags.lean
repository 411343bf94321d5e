import JiraMarkup.Proofs.CodeBlocks

/-!
# Blocks with tags that are not read

A block whose tag is not read stays as it is only if it is the last one. The
`{code}` behind its body is a tag itself, and it opens a block that reaches to the
next `{code}`: what stands between two blocks is fenced. So a document changes
block by block exactly if all tags but the last are read.
-/

namespace JiraMarkup

/-! ## Blocks -/

structure NamedBlock where
  before : Text
  name : Text
  body : Text
  name_ne_nil : name ≠ []
  name_clean : '}' ∉ name ∧ '\n' ∉ name
  before_absent : ¬ codeOpening.toList <:+: before
  body_absent : ¬ codeOpening.toList <:+: body

namespace NamedBlock

def tag (block : NamedBlock) : Text := ':' :: block.name

def text (block : NamedBlock) : Text :=
  codeOpening.toList ++ (block.tag ++ '}' :: (block.body ++ codeClosing.toList))

def markup (block : NamedBlock) : Text := block.before ++ block.text

def fenced (block : NamedBlock) (lang : Text) : Text :=
  "```".toList ++ lang ++ '\n' :: withoutNewlines block.body ++ "\n```".toList

inductive Becomes (block : NamedBlock) : Text → Prop
  | kept : Becomes block block.text
  | fenced {lang : Text} : '\n' ∉ lang → Becomes block (block.fenced lang)

end NamedBlock

/-- Every block of a document has become something on its own, and the text around the blocks is
what it was. -/
inductive BlockByBlock (last : Text) : List NamedBlock → Text → Prop
  | nil : BlockByBlock last [] last
  | cons {block : NamedBlock} {blocks : List NamedBlock} {x u : Text} : block.Becomes x →
      BlockByBlock last blocks u → BlockByBlock last (block :: blocks) (block.before ++ (x ++ u))

/-! ## Copied text -/

theorem codeOpening_infix_closing : codeOpening.toList <:+: codeClosing.toList := ⟨[], ['}'], rfl⟩

theorem prefix_apply_iff {s t : Text} :
    s <+: codeBlock.apply (s ++ t) ↔ ∀ u, u ≠ [] → u <:+ s → codeSpan (u ++ t) = none := by
  induction s with
  | nil => exact iff_of_true List.nil_prefix fun u hu hs => absurd (List.suffix_nil.mp hs) hu
  | cons c s ih =>
    have hstep : (∀ u, u ≠ [] → u <:+ c :: s → codeSpan (u ++ t) = none) ↔
        codeSpan (c :: s ++ t) = none ∧ ∀ u, u ≠ [] → u <:+ s → codeSpan (u ++ t) = none := by
      simp only [List.suffix_cons_iff]
      constructor
      · intro h
        exact ⟨h _ (by simp) (Or.inl rfl), fun u hu hs => h u hu (Or.inr hs)⟩
      · rintro ⟨hc, hs⟩ u hu (rfl | hus)
        · exact hc
        · exact hs u hu hus
    rw [hstep, ← ih]
    cases h : codeSpan (c :: s ++ t) with
    | none =>
      have hmiss : codeBlock.apply (c :: s ++ t) = c :: codeBlock.apply (s ++ t) :=
        Rewrite.apply_miss rfl h
      rw [hmiss, List.cons_prefix_cons]
      simp
    | some m =>
      obtain ⟨sep, lang, attrs, body, -, -, -, -, ho⟩ := codeSpan_eq_some h
      rw [Rewrite.apply_of_some rfl codeSpan_respells.consumes h, ho, codeSpan_beginsWith c _ m h]
      simp [fence]

/-! ## One block -/

namespace NamedBlock

variable (block : NamedBlock)

theorem text_append (t : Text) : block.text ++ t =
    codeOpening.toList ++ (block.tag ++ '}' :: (block.body ++ codeClosing.toList ++ t)) := by
  simp [text]

/-- If the last attribute of the tag lacks its value, then no brace comes before the end of the first
line of the body. -/
def TagEnds : Prop := ∀ name ∈ codeAttributes, (name ++ "=").toList <:+ block.name →
  ∃ line rest, '}' ∉ line ∧ block.body = line ++ '\n' :: rest

/-- No tag can be read that begins within the name. -/
def NoTagInside : Prop := ∀ r, codeOpening.toList ++ r <:+ block.name → ¬ IsTag r

theorem occurs_behind_tag (t : Text) : occurs codeClosing (block.body ++ codeClosing.toList ++ t) = true :=
  (occurs_iff (by decide)).mpr (List.infix_append _ _ _)

theorem closing_absent : ¬ codeClosing.toList <:+: block.body :=
  fun h => block.body_absent (codeOpening_infix_closing.trans h)

theorem apply_markup (t : Text) :
    codeBlock.apply (block.markup ++ t) = block.before ++ codeBlock.apply (block.text ++ t) := by
  rw [markup, List.append_assoc, text_append]
  exact codeBlock_apply_before block.before_absent _

variable {block} (hends : block.TagEnds)
include hends

theorem tagText (t : Text) : TagText (block.body ++ codeClosing.toList ++ t) block.tag := by
  have hmarks : '}' ∉ block.tag ∧ '\n' ∉ block.tag := by
    simp [tag, block.name_clean]
  refine ⟨hmarks.1, hmarks.2, fun name hname hs => ?_⟩
  rcases List.suffix_cons_iff.mp hs with h | h
  · have hcolon : ':' ∈ (name ++ "=").toList := h ▸ List.mem_cons_self
    have habsent := not_mem_attributeName hname ':' (by decide)
    simp [habsent] at hcolon
  · obtain ⟨line, rest, hline, hbody⟩ := hends name hname h
    have hcan := tagCanEnd_line hline (rest ++ codeClosing.toList ++ t)
    rw [hbody]
    simpa using hcan

theorem codeSpan_text_eq_none_iff (t : Text) : codeSpan (block.text ++ t) = none ↔ ¬ IsTag block.tag := by
  rw [text_append]
  exact codeSpan_tag_eq_none_iff (tagText hends t) (block.occurs_behind_tag t)

theorem apply_text_of_isTag (htag : IsTag block.tag) (t : Text) : ∃ lang, '\n' ∉ lang ∧
    codeBlock.apply (block.text ++ t) = block.fenced lang ++ codeBlock.apply t := by
  obtain ⟨lang, hlang, hopen⟩ := openingTag?_complete (tagText hends t) (block.occurs_behind_tag t) htag
  have hspan := codeSpan_of_openingTag? block.closing_absent hopen
  refine ⟨lang, hlang, ?_⟩
  rw [text_append, Rewrite.apply_of_some rfl codeSpan_respells.consumes hspan]
  simp [fence, fenced, trimNewlines_eq_withoutNewlines]

omit hends in
theorem fenced_append_inj {lang lang' u u' : Text} (h : '\n' ∉ lang) (h' : '\n' ∉ lang')
    (he : block.fenced lang ++ u = block.fenced lang' ++ u') : u = u' := by
  have hsplit (lang u : Text) : block.fenced lang ++ u =
      "```".toList ++ (lang ++ '\n' :: (withoutNewlines block.body ++ "\n```".toList ++ u)) := by
    simp [fenced]
  rw [hsplit, hsplit] at he
  obtain ⟨-, hrest⟩ := append_cons_inj h h' (List.append_cancel_left he)
  exact List.append_cancel_left hrest

theorem isTag_of_fenced {lang t u : Text} (h : codeBlock.apply (block.text ++ t) = block.fenced lang ++ u) :
    IsTag block.tag := by
  by_contra htag
  have hnone := (codeSpan_text_eq_none_iff hends t).mpr htag
  have hsplit : block.text ++ t =
      '{' :: ("code".toList ++ (block.tag ++ '}' :: (block.body ++ codeClosing.toList ++ t))) := by
    simp [text, codeOpening]
  rw [hsplit] at h hnone
  rw [Rewrite.apply_miss rfl hnone] at h
  exact absurd (List.cons.inj h).1 (by decide)

theorem of_copied {t : Text} (h : block.text <+: codeBlock.apply (block.text ++ t)) :
    ¬ IsTag block.tag ∧ block.NoTagInside ∧ ¬ codeClosing.toList <:+: t := by
  have htext := tagText hends t
  rw [prefix_apply_iff] at h
  refine ⟨?_, ?_, ?_⟩
  · exact (codeSpan_text_eq_none_iff hends t).mp (h block.text (by simp [text, codeOpening]) List.suffix_rfl)
  · rintro r ⟨front, hname⟩
    have hr : r <:+ block.tag := ⟨':' :: front ++ codeOpening.toList, by simp [tag, ← hname]⟩
    have hsuffix : codeOpening.toList ++ (r ++ '}' :: (block.body ++ codeClosing.toList)) <:+ block.text :=
      ⟨codeOpening.toList ++ ':' :: front, by simp [text, tag, ← hname]⟩
    have hnone := h _ (by simp [codeOpening]) hsuffix
    rw [← codeSpan_tag_eq_none_iff (htext.of_suffix hr) (block.occurs_behind_tag t)]
    simpa using hnone
  · intro hclosing
    have hsuffix : codeClosing.toList <:+ block.text :=
      ⟨codeOpening.toList ++ (block.tag ++ '}' :: block.body), by simp [text]⟩
    have hnone := h _ (by decide) hsuffix
    have hempty : IsTag [] := ⟨[], [], by simp, .none, rfl⟩
    have hnil := (codeSpan_tag_eq_none_iff .nil
      ((occurs_iff (by decide)).mpr hclosing)).mp hnone
    exact hnil hempty

/-! ## Tags that are not read -/

theorem apply_name (hinside : block.NoTagInside) (t : Text) :
    codeBlock.apply (block.name ++ '}' :: (block.body ++ codeClosing.toList ++ t)) =
      block.name ++ codeBlock.apply ('}' :: (block.body ++ codeClosing.toList ++ t)) := by
  refine Rewrite.apply_append rfl fun u _ hu => ?_
  by_cases hopening : codeOpening.toList <+: u
  · obtain ⟨r, rfl⟩ := hopening
    have hr : r <:+ block.tag := (List.suffix_append _ r).trans (hu.trans (List.suffix_cons _ _))
    have hnone := codeSpan_tag_eq_none_iff ((tagText hends t).of_suffix hr) (block.occurs_behind_tag t)
    rw [List.append_assoc]
    exact hnone.mpr (hinside r hu)
  · refine codeSpan_eq_none fun hp => hopening ?_
    exact (prefix_append_stop_iff (c := '}') (by decide)).mp hp

omit hends in
theorem apply_body (t : Text) : codeBlock.apply ('}' :: (block.body ++ codeClosing.toList ++ t)) =
    '}' :: block.body ++ codeBlock.apply (codeClosing.toList ++ t) := by
  have habsent : ¬ codeOpening.toList <:+: '}' :: block.body := by
    rw [List.infix_cons_iff, not_or]
    exact ⟨fun hp => absurd (List.cons_prefix_cons.mp hp).1 (by decide), block.body_absent⟩
  have hbefore := codeBlock_apply_before habsent ('}' :: t)
  have hclosing : codeOpening.toList ++ '}' :: t = codeClosing.toList ++ t := rfl
  rw [hclosing] at hbefore
  simpa using hbefore

section
variable (htag : ¬ IsTag block.tag) (hinside : block.NoTagInside)
include htag hinside

theorem apply_text_of_not_isTag (t : Text) : codeBlock.apply (block.text ++ t) =
    codeOpening.toList ++ (block.tag ++ '}' :: block.body) ++ codeBlock.apply (codeClosing.toList ++ t) := by
  have hhead := (codeSpan_text_eq_none_iff hends t).mpr htag
  have hcolon : codeBlock.pattern.Passes "code:".toList := codeSpan_beginsWith.passes (by decide)
  have hsplit : block.text ++ t = '{' :: ("code:".toList ++
      (block.name ++ '}' :: (block.body ++ codeClosing.toList ++ t))) := by
    simp [text, tag, codeOpening]
  rw [hsplit] at hhead ⊢
  rw [Rewrite.apply_miss rfl hhead, Rewrite.apply_of_passes rfl hcolon, apply_name hends hinside, apply_body]
  simp [tag, codeOpening]

theorem apply_text_of_last {last : Text} (hlast : ¬ codeClosing.toList <:+: last) :
    codeBlock.apply (block.text ++ last) = block.text ++ last := by
  rw [apply_text_of_not_isTag hends htag hinside, codeBlock_apply_close hlast]
  simp [text]

end

end NamedBlock

/-! ## Documents -/

theorem codeClosing_infix_markup (blocks : List NamedBlock) (hne : blocks ≠ []) (last : Text) :
    codeClosing.toList <:+: blocks.flatMap NamedBlock.markup ++ last := by
  obtain ⟨block, blocks, rfl⟩ := List.exists_cons_of_ne_nil hne
  refine ⟨block.before ++ codeOpening.toList ++ block.tag ++ '}' :: block.body,
    blocks.flatMap NamedBlock.markup ++ last, ?_⟩
  simp [NamedBlock.markup, NamedBlock.text]

section
variable {last : Text} (hlast : ¬ codeOpening.toList <:+: last)
include hlast

theorem blockByBlock_cons_iff {block : NamedBlock} (hends : block.TagEnds) (blocks : List NamedBlock) :
    BlockByBlock last (block :: blocks)
        (codeBlock.apply ((block :: blocks).flatMap NamedBlock.markup ++ last)) ↔
      IsTag block.tag ∧
          BlockByBlock last blocks (codeBlock.apply (blocks.flatMap NamedBlock.markup ++ last)) ∨
        blocks = [] ∧ block.NoTagInside := by
  rw [List.flatMap_cons, List.append_assoc, block.apply_markup]
  constructor
  · intro h
    generalize hout : block.before ++ codeBlock.apply
      (block.text ++ (blocks.flatMap NamedBlock.markup ++ last)) = out at h
    cases h with
    | cons hx hu =>
      have hsplit := List.append_cancel_left hout
      cases hx with
      | kept =>
        obtain ⟨-, hinside, hclosing⟩ := NamedBlock.of_copied hends ⟨_, hsplit.symm⟩
        refine Or.inr ⟨?_, hinside⟩
        by_contra hne
        exact hclosing (codeClosing_infix_markup blocks hne last)
      | fenced hlang =>
        have htag := NamedBlock.isTag_of_fenced hends hsplit
        obtain ⟨lang, hlang', happly⟩ := NamedBlock.apply_text_of_isTag hends htag
          (blocks.flatMap NamedBlock.markup ++ last)
        rw [happly] at hsplit
        rw [NamedBlock.fenced_append_inj hlang' hlang hsplit]
        exact Or.inl ⟨htag, hu⟩
  · rintro (⟨htag, hrest⟩ | ⟨rfl, hinside⟩)
    · obtain ⟨lang, hlang, happly⟩ := NamedBlock.apply_text_of_isTag hends htag
        (blocks.flatMap NamedBlock.markup ++ last)
      rw [happly]
      exact .cons (.fenced hlang) hrest
    · have hcopy : codeBlock.apply last = last := codeBlock_eq_self hlast
      rw [List.flatMap_nil, List.nil_append]
      by_cases htag : IsTag block.tag
      · obtain ⟨lang, hlang, happly⟩ := NamedBlock.apply_text_of_isTag hends htag last
        rw [happly, hcopy]
        exact .cons (.fenced hlang) .nil
      · have hclosing : ¬ codeClosing.toList <:+: last := fun h => hlast (codeOpening_infix_closing.trans h)
        rw [NamedBlock.apply_text_of_last hends htag hinside hclosing]
        exact .cons .kept .nil

/-- A document changes block by block exactly if every tag but that of the last block is read, and if
that one is not, then no tag within it is. -/
theorem blockByBlock_apply_iff {blocks : List NamedBlock} (hends : ∀ block ∈ blocks, block.TagEnds) :
    BlockByBlock last blocks (codeBlock.apply (blocks.flatMap NamedBlock.markup ++ last)) ↔
      (∀ block ∈ blocks.dropLast, IsTag block.tag) ∧
        ∀ block ∈ blocks.getLast?, IsTag block.tag ∨ block.NoTagInside := by
  induction blocks with
  | nil =>
    rw [List.flatMap_nil, List.nil_append, codeBlock_eq_self hlast]
    simp [BlockByBlock.nil]
  | cons block blocks ih =>
    rw [List.forall_mem_cons] at hends
    rw [blockByBlock_cons_iff hlast hends.1, ih hends.2]
    cases blocks with
    | nil => simp
    | cons next blocks => simp [and_assoc]

end

theorem blockByBlock_apply_iff_last : ∃ blocks : List NamedBlock,
    blocks.flatMap NamedBlock.markup =
        "\x7bcode:go|title=a\x7d\nb\n\x7bcode\x7d \x7bcode:C#\x7dc\x7bcode\x7d".toList ∧
      ¬ codeOpening.toList <:+: " d".toList ∧ (∀ block ∈ blocks, block.TagEnds) ∧
      BlockByBlock " d".toList blocks (codeBlock.apply (blocks.flatMap NamedBlock.markup ++ " d".toList)) := by
  have hlast : ¬ codeOpening.toList <:+: " d".toList := by decide
  let go : NamedBlock := ⟨[], "go|title=a".toList, "\nb\n".toList, by decide, by decide, by decide,
    by decide⟩
  let cSharp : NamedBlock := ⟨[' '], "C#".toList, ['c'], by decide, by decide, by decide,
    by decide⟩
  have hends : ∀ block ∈ [go, cSharp], block.TagEnds := by
    have hgo : ∀ name ∈ codeAttributes, ¬ (name ++ "=").toList <:+ "go|title=a".toList := by decide
    have hcSharp : ∀ name ∈ codeAttributes, ¬ (name ++ "=").toList <:+ "C#".toList := by decide
    simp only [List.forall_mem_cons, List.not_mem_nil, false_implies, implies_true, and_true]
    exact ⟨fun name hname hs => absurd hs (hgo name hname),
      fun name hname hs => absurd hs (hcSharp name hname)⟩
  have htag : IsTag go.tag := by
    have hsep : ['|'] ∈ attributeSeparators := by decide
    have hname : "title" ∈ codeAttributes := by decide
    have hvalue : ['a'] ≠ [] := by decide
    exact ⟨"go".toList, _, by decide, .some hsep hname hvalue, rfl⟩
  have hinside : cSharp.NoTagInside := by
    intro r hr
    have hlen := hr.length_le
    simp [cSharp, codeOpening] at hlen
  refine ⟨[go, cSharp], by decide, hlast, hends, ?_⟩
  exact (blockByBlock_apply_iff hlast hends).mpr ⟨by simpa using htag, by simp [hinside]⟩

/-- The `{code}` behind a block in another language opens a block, and the prose behind it is fenced. -/
theorem not_blockByBlock_apply : ¬ ∀ (blocks : List NamedBlock) (last : Text),
    ¬ codeOpening.toList <:+: last →
      BlockByBlock last blocks (codeBlock.apply (blocks.flatMap NamedBlock.markup ++ last)) := by
  intro h
  let cSharp : NamedBlock := ⟨[], "C#".toList, "\na\n".toList, by decide, by decide, by decide,
    by decide⟩
  let go : NamedBlock := ⟨"\nb\n".toList, "go".toList, "\nc\n".toList, by decide, by decide,
    by decide, by decide⟩
  have hlast : ¬ codeOpening.toList <:+: [] := by decide
  have hvalue : ∀ name ∈ codeAttributes, ¬ (name ++ "=").toList <:+ "C#".toList := by decide
  have hends : cSharp.TagEnds := fun name hname hs => absurd hs (hvalue name hname)
  rcases (blockByBlock_cons_iff hlast hends [go]).mp (h [cSharp, go] [] hlast) with ⟨htag, -⟩ | ⟨hnil, -⟩
  · have htext := NamedBlock.tagText hends []
    obtain ⟨lang, -, hopen⟩ := openingTag?_complete htext (cSharp.occurs_behind_tag []) htag
    have hnone : openingTag? (cSharp.tag ++ '}' :: (cSharp.body ++ codeClosing.toList ++ [])) = none := by
      decide
    rw [hnone] at hopen
    cases hopen
  · cases hnil

end JiraMarkup
