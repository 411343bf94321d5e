import JiraMarkup.Proofs.CodeTag

/-!
# Documents of code blocks

Every block of a document is fenced with its language, and the text around the
blocks is copied. A block ends at the first `{code}`, and what is left of a
document behind its last `{code}` opens no block.
-/

namespace JiraMarkup

/-! ## One newline at either end -/

def withoutNewlines (body : Text) : Text :=
  let opened := if body.head? = some '\n' then body.tail else body
  if opened.getLast? = some '\n' then opened.dropLast else opened

theorem dropNewline_eq_tail (t : Text) : dropNewline t = if t.head? = some '\n' then t.tail else t := by
  unfold dropNewline
  split
  · simp
  · rename_i hne
    rw [if_neg]
    intro h
    obtain ⟨t', rfl⟩ := List.head?_eq_some_iff.mp h
    exact hne t' rfl

theorem trimNewlines_eq_withoutNewlines (body : Text) : trimNewlines body = withoutNewlines body := by
  simp only [trimNewlines, withoutNewlines, dropNewline_eq_tail, List.head?_reverse]
  generalize (if body.head? = some '\n' then body.tail else body) = t
  split
  · rw [List.tail_reverse, List.reverse_reverse]
  · rw [List.reverse_reverse]

/-! ## Text around blocks -/

/-- Text without any `{code` is copied, and the `{code` of a tag cannot begin in it. -/
theorem codeBlock_apply_before {before : Text} (h : ¬ codeOpening.toList <:+: before) (t : Text) :
    codeBlock.apply (before ++ (codeOpening.toList ++ t)) =
      before ++ codeBlock.apply (codeOpening.toList ++ t) := by
  have hopening : codeOpening.toList = '{' :: "code".toList := rfl
  refine Rewrite.apply_append rfl fun u hu hsuf => codeSpan_eq_none ?_
  exact not_prefix_append_of_absent hopening (by decide) h hu hsuf

theorem codeBlock_apply_last {last : Text} (h : ¬ codeClosing.toList <:+: last) :
    codeBlock.apply last = last := by
  refine Rewrite.apply_eq_self fun s hs => Option.eq_none_iff_forall_ne_some.mpr fun m hm => h ?_
  obtain ⟨sep, lang, attrs, body, -, -, -, rfl, -⟩ := codeSpan_eq_some hm
  refine List.IsInfix.trans ?_ hs.isInfix
  exact ⟨codeOpening.toList ++ (sep ++ lang ++ attrs ++ '}' :: body), m.rest, by simp⟩

theorem codeBlock_apply_close {last : Text} (h : ¬ codeClosing.toList <:+: last) :
    codeBlock.apply (codeClosing.toList ++ last) = codeClosing.toList ++ last := by
  have htail : ¬ codeClosing.toList <:+: "code\x7d".toList ++ last := by
    rwa [codeClosing_infix_append (by decide)]
  have hnone : codeSpan ('{' :: ("code\x7d".toList ++ last)) = none := by
    rw [Option.eq_none_iff_forall_ne_some]
    intro m hm
    obtain ⟨sep, lang, attrs, body, -, -, -, ht, -⟩ := codeSpan_eq_some hm
    have hrest : "code\x7d".toList ++ last = "code".toList ++
        (sep ++ lang ++ attrs ++ '}' :: (body ++ codeClosing.toList ++ m.rest)) := (List.cons.inj ht).2
    refine htail ⟨"code".toList ++ (sep ++ lang ++ attrs ++ '}' :: body), m.rest, ?_⟩
    rw [hrest]
    simp
  have hmiss := Rewrite.apply_miss (r := codeBlock) rfl hnone
  rw [codeBlock_apply_last htail] at hmiss
  exact hmiss

/-! ## Blocks -/

structure CodeBlock where
  before : Text
  tag : CodeTag
  body : Text
  before_absent : ¬ codeOpening.toList <:+: before
  body_absent : ¬ codeClosing.toList <:+: body

namespace CodeBlock

def markup (block : CodeBlock) : Text :=
  block.before ++ block.tag.text ++ block.body ++ codeClosing.toList

def markdown (block : CodeBlock) : Text :=
  block.before ++ "```".toList ++ block.tag.language ++ '\n' :: withoutNewlines block.body ++ "\n```".toList

theorem apply_markup (block : CodeBlock) (t : Text) :
    codeBlock.apply (block.markup ++ t) = block.markdown ++ codeBlock.apply t := by
  have hspan := block.tag.codeSpan_text block.body_absent t
  have hbefore := codeBlock_apply_before block.before_absent (block.tag.languageText ++
    block.tag.attributesText ++ '}' :: (block.body ++ codeClosing.toList ++ t))
  have htag : codeOpening.toList ++ (block.tag.languageText ++ block.tag.attributesText ++
      '}' :: (block.body ++ codeClosing.toList ++ t)) =
        block.tag.text ++ (block.body ++ codeClosing.toList ++ t) := by simp [CodeTag.text]
  have hsplit : block.markup ++ t =
      block.before ++ (block.tag.text ++ (block.body ++ codeClosing.toList ++ t)) := by
    simp only [markup, List.append_assoc]
  rw [htag] at hbefore
  rw [hsplit, hbefore, Rewrite.apply_of_some rfl codeSpan_respells.consumes hspan]
  simp [markdown, fence, trimNewlines_eq_withoutNewlines]

/-- Every block is fenced, and nothing else is changed. -/
theorem apply_flatMap_markup (blocks : List CodeBlock) {last : Text} (hlast : ¬ codeClosing.toList <:+: last) :
    codeBlock.apply (blocks.flatMap markup ++ last) = blocks.flatMap markdown ++ last := by
  induction blocks with
  | nil => exact codeBlock_apply_last hlast
  | cons block blocks ih =>
    rw [List.flatMap_cons, List.flatMap_cons, List.append_assoc, apply_markup, ih, List.append_assoc]

theorem apply_flatMap_markup_title :
    ¬ codeClosing.toList <:+: "\x7bcode:go\x7d".toList ∧
      codeBlock.apply ("\x7b\x7bcode:go|title=a|b:bgColor=#f0\x7d\nx\n\x7bcode\x7d " ++
          "\x7bcode:title=c\x7d\n\x7bcode\x7d\x7bcode:go\x7d").toList =
        "\x7b```go\nx\n``` ```\n\n```\x7bcode:go\x7d".toList := by
  have hlast : ¬ codeClosing.toList <:+: "\x7bcode:go\x7d".toList := by decide
  obtain ⟨blocks, hmarkup, hmarkdown⟩ : ∃ blocks : List CodeBlock,
      blocks.flatMap markup = ("\x7b\x7bcode:go|title=a|b:bgColor=#f0\x7d\nx\n\x7bcode\x7d " ++
        "\x7bcode:title=c\x7d\n\x7bcode\x7d").toList ∧
      blocks.flatMap markdown = "\x7b```go\nx\n``` ```\n\n```".toList :=
    ⟨[⟨['{'], ⟨"go".toList, [⟨'|', "title", "a|b".toList, by decide, by decide, by decide, by decide⟩,
          ⟨':', "bgColor", "#f0".toList, by decide, by decide, by decide, by decide⟩], by decide⟩,
        "\nx\n".toList, by decide, by decide⟩,
      ⟨[' '], ⟨[], [⟨':', "title", ['c'], by decide, by decide, by decide, by decide⟩], by decide⟩,
        ['\n'], by decide, by decide⟩], by decide, by decide⟩
  have happly := apply_flatMap_markup blocks hlast
  rw [hmarkup, hmarkdown] at happly
  refine ⟨hlast, ?_⟩
  simpa using happly

end CodeBlock

end JiraMarkup
