import JiraMarkup.Proofs.MixedStyles

/-!
# A link and an image on a line

An image is given brackets before links with a name are looked for. A link that
stands behind the image is rewritten all the same, as its name is written back as
it was read, with whatever stands in front of it. A link in front of the image
takes the closing bracket of the image for its own.
-/

namespace JiraMarkup

/-! ## Lines with a link and an image -/

structure LinkImageLine where
  first : Text
  gap : Text
  last : Text
  name : Text
  target : Text
  source : Text
  unmarked : ∀ t ∈ [first, gap, last, name, target, source], Unmarked t
  name_ne_nil : name ≠ []
  target_ne_nil : target ≠ []
  source_ne_nil : source ≠ []
  no_quote : ¬ "bq.".toList <+: first

namespace LinkImageLine

variable (line : LinkImageLine)

def link : Text := between "[" "|" line.name ++ between "" "]" line.target

def linkMarkdown : Text := between "[" "]" line.name ++ between "(" ")" line.target

def imageFirst : Text :=
  line.first ++ (between "!" "!" line.source ++ (line.gap ++ (line.link ++ line.last)))

def linkFirst : Text :=
  line.first ++ (line.link ++ (line.gap ++ (between "!" "!" line.source ++ line.last)))

def imageFirstMarkdown : Text :=
  line.first ++ (between "![](" ")" line.source ++ (line.gap ++ (line.linkMarkdown ++ line.last)))

def linkFirstMarkdown : Text :=
  line.first ++ (line.linkMarkdown ++ (line.gap ++ (between "![](" ")" line.source ++ line.last)))

/-- What comes out if the link stands first: its target reaches to the brackets of the image. -/
def linkFirstWritten : Text :=
  line.first ++ (between "[" "]" line.name ++
    between "(" ")" (line.target ++ between "]" "![" line.gap) ++ (between "(" ")" line.source ++ line.last))

end LinkImageLine

/-! ## Links and images only -/

theorem inlineStyles_of_linked {l l' l'' : Text} (hl : Marked "![|]" l)
    (hunnamed : Rewrite.apply ⟨.anywhere, unnamedLink⟩ l = l)
    (himage : Rewrite.apply ⟨.anywhere, image⟩ l = l')
    (hnamed : Rewrite.apply ⟨.anywhere, namedLink⟩ l' = l'')
    (hl'' : Marked "![|]" l'') (hquote : ¬ "bq.".toList <+: l'') : inlineStyles l = l'' := by
  have hbefore : restyle (inlineChain.take 8) l = l := by
    have hmarks : ∀ mark ∈ styleMarks.take 8, Lacks "![|]" mark := by decide
    exact restyle_eq_self (List.forall₂_take 8 inlineChain_opens) fun mark hm => hl.not_hasMarks (hmarks mark hm)
  have hlinks : restyle (inlineChain.take 11) l = l'' := by
    have hchain : inlineChain.take 11 = inlineChain.take 8 ++ [⟨"unnamed_link", .anywhere, unnamedLink⟩,
        ⟨"image", .anywhere, image⟩, ⟨"named_link", .anywhere, namedLink⟩] := rfl
    rw [restyle] at hbefore
    rw [restyle, hchain, List.foldl_append, hbefore]
    simp only [List.foldl_cons, List.foldl_nil, hunnamed, himage, hnamed]
  have hmarks : ∀ mark ∈ styleMarks.drop 12, Lacks "![|]" mark := by decide
  have hquoted := blockquote_apply_eq_self hquote
  have hstyles := inlineStyles_of_restyle hlinks fun mark hm => hquoted.symm ▸ hl''.not_hasMarks (hmarks mark hm)
  exact hstyles.trans hquoted

theorem unnamedLink_apply_eq_self {a b w u : Text} (ha : '[' ∉ a) (hb : '[' ∉ b) (hw : Unmarked w)
    (hu : Unmarked u) : Rewrite.apply ⟨.anywhere, unnamedLink⟩
      (a ++ (between "[" "|" w ++ between "" "]" u ++ b)) = a ++ (between "[" "|" w ++ between "" "]" u ++ b) := by
  have hbegins : Pattern.BeginsWith unnamedLink '[' := unnamedLink_opens.beginsWith rfl
  have hlink : Pattern.Passes unnamedLink (between "[" "|" w ++ between "" "]" u) :=
    unnamedLink_passes_namedLink hw hu
  exact Rewrite.apply_eq_self_of_passes rfl ((hbegins.passes ha).append (hlink.append (hbegins.passes hb)))

theorem image_apply {a b s : Text} (ha : '!' ∉ a) (hb : '!' ∉ b) (hne : s ≠ []) (hs : Unmarked s) :
    Rewrite.apply ⟨.anywhere, image⟩ (a ++ (between "!" "!" s ++ b)) = a ++ (between "![](" ")" s ++ b) := by
  obtain ⟨c, s, rfl⟩ := List.exists_cons_of_ne_nil hne
  have hline : '\n' ∉ c :: s := hs.not_mem
  rw [List.mem_cons, not_or] at hline
  have hpass {t : Text} (ht : '!' ∉ t) : Pattern.Passes image t := longSpan_passes ht _ _
  have hstarts : (!isLineEnd c) = true := by simp [isLineEnd, Ne.symm hline.1]
  have hspan : image ('!' :: c :: (s ++ '!' :: b)) = some ⟨between "![](" ")" (c :: s), b⟩ :=
    longSpan_span hstarts (by decide) hline.2 hb
  have hmatch : image (between "!" "!" (c :: s) ++ b) = some ⟨between "![](" ")" (c :: s), b⟩ := by
    simpa [between] using hspan
  have hne : between "!" "!" (c :: s) ≠ [] := by simp [between]
  exact Rewrite.apply_once rfl (fun u hu hs => hpass ha u hu hs _) hne hmatch
    (Rewrite.apply_eq_self_of_passes rfl (hpass hb))

theorem namedLink_apply {a b w u : Text} (ha : '[' ∉ a) (hb : '[' ∉ b) (hclosing : ']' ∉ b) (hw : w ≠ [])
    (hu : u ≠ []) (hbar : '|' ∉ w) (hname : '\n' ∉ w) (htarget : '\n' ∉ u) :
    Rewrite.apply ⟨.anywhere, namedLink⟩ (a ++ (between "[" "|" w ++ between "" "]" u ++ b)) =
      a ++ (between "[" "]" w ++ between "(" ")" u ++ b) := by
  obtain ⟨c, w, rfl⟩ := List.exists_cons_of_ne_nil hw
  obtain ⟨d, u, rfl⟩ := List.exists_cons_of_ne_nil hu
  rw [List.mem_cons, not_or] at hbar hname htarget
  have hspan := namedLink_span (Ne.symm hname.1) (Ne.symm htarget.1) hbar.2 hname.2 htarget.2 hclosing
  have hmatch : namedLink (between "[" "|" (c :: w) ++ between "" "]" (d :: u) ++ b) =
      some ⟨between "[" "]" (c :: w) ++ between "(" ")" (d :: u), b⟩ := by
    simpa [between] using hspan
  have hne : between "[" "|" (c :: w) ++ between "" "]" (d :: u) ≠ [] := by simp [between]
  have hpass {t : Text} (ht : '[' ∉ t) : Pattern.Passes namedLink t := (namedLink_opens.beginsWith rfl).passes ht
  exact Rewrite.apply_once rfl (fun u hu hs => hpass ha u hu hs _) hne hmatch
    (Rewrite.apply_eq_self_of_passes rfl (hpass hb))

/-! ## The two orders -/

namespace LinkImageLine

variable (line : LinkImageLine)

theorem parts_unmarked : Unmarked line.first ∧ Unmarked line.gap ∧ Unmarked line.last ∧
    Unmarked line.name ∧ Unmarked line.target ∧ Unmarked line.source := by
  simpa using line.unmarked

theorem marked_link (marks : String) (hmarks : "[|]".toList ⊆ marks.toList := by decide) :
    Marked marks line.link := by
  obtain ⟨-, -, -, hname, htarget, -⟩ := line.parts_unmarked
  have hlink : Marked "[|]" line.link :=
    (Marked.between (by decide) (by decide) hname).append (.between (by decide) (by decide) htarget)
  exact fun c hc hspan => hmarks (hlink c hc hspan)

theorem marked_imageFirst : Marked "![|]" line.imageFirst := by
  obtain ⟨hfirst, hgap, hlast, -, -, hsource⟩ := line.parts_unmarked
  exact (Marked.of_unmarked hfirst).append <| (Marked.between (by decide) (by decide) hsource).append <|
    (Marked.of_unmarked hgap).append <| (line.marked_link _).append (.of_unmarked hlast)

theorem marked_imageFirstMarkdown : Marked "![|]" line.imageFirstMarkdown := by
  obtain ⟨hfirst, hgap, hlast, hname, htarget, hsource⟩ := line.parts_unmarked
  have hlink : Marked "![|]" line.linkMarkdown :=
    (Marked.between (by decide) (by decide) hname).append (.between (by decide) (by decide) htarget)
  exact (Marked.of_unmarked hfirst).append <| (Marked.between (by decide) (by decide) hsource).append <|
    (Marked.of_unmarked hgap).append <| hlink.append (.of_unmarked hlast)

theorem marked_linkFirst : Marked "![|]" line.linkFirst := by
  obtain ⟨hfirst, hgap, hlast, -, -, hsource⟩ := line.parts_unmarked
  exact (Marked.of_unmarked hfirst).append <| (line.marked_link _).append <| (Marked.of_unmarked hgap).append <|
    (Marked.between (by decide) (by decide) hsource).append (.of_unmarked hlast)

theorem marked_linkFirstWritten : Marked "![|]" line.linkFirstWritten := by
  obtain ⟨hfirst, hgap, hlast, hname, htarget, hsource⟩ := line.parts_unmarked
  have hreached : Marked "![|]" (between "(" ")" (line.target ++ between "]" "![" line.gap)) := by
    have hsplit : between "(" ")" (line.target ++ between "]" "![" line.gap) =
        between "(" "]" line.target ++ between "" "![)" line.gap := by simp [between]
    rw [hsplit]
    exact (Marked.between (by decide) (by decide) htarget).append (.between (by decide) (by decide) hgap)
  exact (Marked.of_unmarked hfirst).append <|
    ((Marked.between (by decide) (by decide) hname).append hreached).append <|
      (Marked.between (by decide) (by decide) hsource).append (.of_unmarked hlast)

theorem not_quote {c : Char} (hc : c ∉ "bq.".toList) (t : Text) : ¬ "bq.".toList <+: line.first ++ c :: t := by
  rw [prefix_append_stop_iff hc]
  exact line.no_quote

theorem unnamedLink_imageFirst : Rewrite.apply ⟨.anywhere, unnamedLink⟩ line.imageFirst = line.imageFirst := by
  obtain ⟨hfirst, hgap, hlast, hname, htarget, hsource⟩ := line.parts_unmarked
  have hfront : Marked "!" (line.first ++ between "!" "!" line.source ++ line.gap) :=
    ((Marked.of_unmarked hfirst).append (.between (by decide) (by decide) hsource)).append (.of_unmarked hgap)
  have h := unnamedLink_apply_eq_self hfront.not_mem hlast.not_mem hname htarget
  simpa [imageFirst, link] using h

theorem image_imageFirst : Rewrite.apply ⟨.anywhere, image⟩ line.imageFirst =
    line.first ++ (between "![](" ")" line.source ++ (line.gap ++ (line.link ++ line.last))) := by
  obtain ⟨hfirst, hgap, hlast, -, -, hsource⟩ := line.parts_unmarked
  have hback : Marked "[|]" (line.gap ++ (line.link ++ line.last)) :=
    (Marked.of_unmarked hgap).append ((line.marked_link _).append (.of_unmarked hlast))
  exact image_apply hfirst.not_mem hback.not_mem line.source_ne_nil hsource

theorem namedLink_imageFirst : Rewrite.apply ⟨.anywhere, namedLink⟩
    (line.first ++ (between "![](" ")" line.source ++ (line.gap ++ (line.link ++ line.last)))) =
      line.imageFirstMarkdown := by
  obtain ⟨hfirst, hgap, hlast, hname, htarget, hsource⟩ := line.parts_unmarked
  have hfront : Marked "!" (line.first ++ ['!']) := (Marked.of_unmarked hfirst).append (by decide)
  have hgained : Marked "[]" (between "](" ")" line.source ++ between "" "[" line.gap ++ line.name) :=
    ((Marked.between (by decide) (by decide) hsource).append (.between (by decide) (by decide) hgap)).append
      (.of_unmarked hname)
  have hne : between "](" ")" line.source ++ between "" "[" line.gap ++ line.name ≠ [] := by simp [between]
  have h := namedLink_apply hfront.not_mem hlast.not_mem hlast.not_mem hne line.target_ne_nil hgained.not_mem
    hgained.not_mem htarget.not_mem
  simpa [imageFirstMarkdown, link, linkMarkdown, between] using h

theorem inlineStyles_imageFirst : inlineStyles line.imageFirst = line.imageFirstMarkdown :=
  inlineStyles_of_linked line.marked_imageFirst line.unnamedLink_imageFirst line.image_imageFirst
    line.namedLink_imageFirst line.marked_imageFirstMarkdown (line.not_quote (c := '!') (by decide) _)

theorem unnamedLink_linkFirst : Rewrite.apply ⟨.anywhere, unnamedLink⟩ line.linkFirst = line.linkFirst := by
  obtain ⟨hfirst, hgap, hlast, hname, htarget, hsource⟩ := line.parts_unmarked
  have hback : Marked "!" (line.gap ++ (between "!" "!" line.source ++ line.last)) :=
    (Marked.of_unmarked hgap).append ((Marked.between (by decide) (by decide) hsource).append (.of_unmarked hlast))
  exact unnamedLink_apply_eq_self hfirst.not_mem hback.not_mem hname htarget

theorem image_linkFirst : Rewrite.apply ⟨.anywhere, image⟩ line.linkFirst =
    line.first ++ (line.link ++ (line.gap ++ (between "![](" ")" line.source ++ line.last))) := by
  obtain ⟨hfirst, hgap, hlast, -, -, hsource⟩ := line.parts_unmarked
  have hfront : Marked "[|]" (line.first ++ line.link ++ line.gap) :=
    ((Marked.of_unmarked hfirst).append (line.marked_link _)).append (.of_unmarked hgap)
  have h := image_apply hfront.not_mem hlast.not_mem line.source_ne_nil hsource
  simpa [linkFirst] using h

theorem namedLink_linkFirst : Rewrite.apply ⟨.anywhere, namedLink⟩
    (line.first ++ (line.link ++ (line.gap ++ (between "![](" ")" line.source ++ line.last)))) =
      line.linkFirstWritten := by
  obtain ⟨hfirst, hgap, hlast, hname, htarget, hsource⟩ := line.parts_unmarked
  have hreached : Marked "![]" (line.target ++ between "]" "![" line.gap) :=
    (Marked.of_unmarked htarget).append (.between (by decide) (by decide) hgap)
  have hback : Marked "" (between "(" ")" line.source ++ line.last) :=
    (Marked.between (by decide) (by decide) hsource).append (.of_unmarked hlast)
  have hne : line.target ++ between "]" "![" line.gap ≠ [] := by simp [between]
  have h := namedLink_apply hfirst.not_mem hback.not_mem hback.not_mem line.name_ne_nil hne hname.not_mem
    hname.not_mem hreached.not_mem
  simpa [linkFirstWritten, link, between] using h

theorem inlineStyles_linkFirst : inlineStyles line.linkFirst = line.linkFirstWritten :=
  inlineStyles_of_linked line.marked_linkFirst line.unnamedLink_linkFirst line.image_linkFirst
    line.namedLink_linkFirst line.marked_linkFirstWritten (line.not_quote (c := '[') (by decide) _)

end LinkImageLine

/-- A link with a name and an image are rewritten if the image stands first. Otherwise the link ends at the
closing bracket that the image is given, so that neither comes out as it should. -/
theorem inlineStyles_link_image (line : LinkImageLine) :
    inlineStyles line.imageFirst = line.imageFirstMarkdown ∧
      inlineStyles line.linkFirst = line.linkFirstWritten ∧
      inlineStyles line.linkFirst ≠ line.linkFirstMarkdown := by
  refine ⟨line.inlineStyles_imageFirst, line.inlineStyles_linkFirst, fun h => ?_⟩
  rw [line.inlineStyles_linkFirst] at h
  simp [LinkImageLine.linkFirstWritten, LinkImageLine.linkFirstMarkdown, LinkImageLine.linkMarkdown,
    between] at h

theorem not_inlineStyles_link_image : ¬ ∀ line : LinkImageLine,
    inlineStyles line.imageFirst = line.imageFirstMarkdown ∧
      inlineStyles line.linkFirst = line.linkFirstMarkdown := by
  intro h
  let line : LinkImageLine := ⟨[], [' '], [], ['a'], ['b'], ['c'], by simp [Unmarked, spanMarks], by simp,
    by simp, by simp, by simp⟩
  have hwritten : inlineStyles line.linkFirst = "[a](b] ![)(c)".toList := line.inlineStyles_linkFirst
  have hstyled : line.linkFirstMarkdown = "[a](b) ![](c)".toList := rfl
  exact absurd (h line).2 (by rw [hwritten, hstyled]; decide)

end JiraMarkup
