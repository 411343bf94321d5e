import JiraMarkup.Proofs.RenamedBlocks

/-!
# Conversions of renamed texts

The inline styles, too, find in a renamed text what they find in the text,
renamed. Converting a text hence commutes with renaming its characters outside
ASCII.
-/

namespace JiraMarkup

namespace Renaming

variable (f : Renaming)

/-! ## Spans -/

theorem between_map {opening closing : String} (hopening : Inside opening.toList)
    (hclosing : Inside closing.toList) (t : Text) :
    between opening closing (t.map f.char) = (between opening closing t).map f.char := by
  simp only [between, List.map_append, f.map_eq_self hopening, f.map_eq_self hclosing]

section
variable {mark : Char} (hm : ¬ Outside mark) {wrap : Text → Text}
  (hw : ∀ t, wrap (t.map f.char) = (wrap t).map f.char)
include hm hw

theorem longSpan_commutes {starts : Char → Bool} (hs : f.Respects starts) :
    (longSpan mark starts wrap).Commutes f := by
  intro t
  have hmark : Inside (String.singleton mark).toList := by simpa [Inside] using hm
  match t with
  | [] => rfl
  | [c] => rfl
  | c :: d :: t =>
    simp only [List.map_cons, longSpan, f.char_eq_iff hm, hs d, f.breakLast?_map hmark f.respects_isLineEnd,
      Option.map_map]
    split
    · rw [Option.map_map]
      simp only [Function.comp_def, Match.rename, ← hw, List.map_cons]
    · rfl

theorem shortSpan_commutes : (shortSpan mark wrap).Commutes f := by
  intro t
  have hmark : Inside (String.singleton mark).toList := by simpa [Inside] using hm
  cases t with
  | nil => rfl
  | cons c t =>
    simp only [List.map_cons, shortSpan, f.char_eq_iff hm, f.takeWhile_map (f.respects_bne hm),
      f.dropWhile_map (f.respects_bne hm), f.after?_map hmark, Option.map_map]
    split
    · rw [Option.map_map]
      simp only [Function.comp_def, Match.rename, ← hw]
    · rfl

end

theorem monospace_commutes : Pattern.Commutes monospace f := by
  intro t
  have hbrace := f.respects_bne (show ¬ Outside '}' by decide)
  rw [monospace, monospace, f.after?_map (by decide)]
  cases after? "\x7b\x7b" t with
  | none => rfl
  | some inner =>
    simp only [Option.map_some, Option.bind_eq_bind, Option.bind_some, f.takeWhile_map hbrace,
      f.dropWhile_map hbrace, List.isEmpty_map, f.after?_map (show Inside "\x7d\x7d".toList by decide)]
    cases after? "\x7d\x7d" (inner.dropWhile (· != '}')) with
    | none => cases (inner.takeWhile (· != '}')).isEmpty <;> rfl
    | some rest =>
      cases (inner.takeWhile (· != '}')).isEmpty with
      | true => rfl
      | false => exact congrArg (fun u => some (Match.mk u _)) (f.between_map (by decide) (by decide) _)

theorem struckEnd?_map (t : Text) :
    struckEnd? (t.map f.char) = (struckEnd? t).map fun p => (p.1.map f.char, p.2.map f.char) := by
  have hdash : ∀ {c}, f.char c = '-' ↔ c = '-' := f.char_eq_iff (by decide)
  have hn : ∀ {c}, f.char c = '\n' ↔ c = '\n' := f.char_eq_iff (by decide)
  induction t with
  | nil => rfl
  | cons c t ih =>
    by_cases ht : ∃ b u, t = '-' :: b :: u
    · obtain ⟨b, u, rfl⟩ := ht
      rw [List.map_cons, List.map_cons, hdash.mpr rfl] at ih ⊢
      simp only [List.map_cons, struckEnd?, f.respects_isBlank c, f.respects_isBlank b, hn] at ih ⊢
      rw [ih]
      split
      · rfl
      · split
        · rfl
        · rw [Option.map_map, Option.map_map]
          rfl
    · have hstep : struckEnd? (c :: t) =
          if c = '\n' then none else (struckEnd? t).map fun p => (c :: p.1, p.2) := by
        rw [struckEnd?]
        exact fun b u h => ht ⟨b, u, h⟩
      have hstep' : struckEnd? (f.char c :: t.map f.char) =
          if c = '\n' then none
          else (struckEnd? (t.map f.char)).map fun p => (f.char c :: p.1, p.2) := by
        rw [struckEnd?, if_congr hn rfl rfl]
        intro b u h
        obtain ⟨d, v, rfl, hd, hv⟩ := List.map_eq_cons_iff.mp h
        obtain ⟨e, w, rfl, -, -⟩ := List.map_eq_cons_iff.mp hv
        exact ht ⟨e, w, congrArg (· :: e :: w) (hdash.mp hd)⟩
      rw [List.map_cons, hstep', hstep, ih]
      split
      · rfl
      · rw [Option.map_map, Option.map_map]
        rfl

theorem struck?_map (t : Text) :
    struck? (t.map f.char) = (struck? t).map fun p => (p.1.map f.char, p.2.map f.char) := by
  have hblank := f.respects_isBlank.negated
  simp only [struck?, f.takeWhile_map hblank, f.dropWhile_map hblank, List.isEmpty_map, f.struckEnd?_map,
    f.length_map, List.getLast?_map]
  split
  · rfl
  · cases struckEnd? (t.dropWhile (!isBlank ·)) with
    | some p => simp
    | none =>
      have hlast : ∀ o : Option Char, (o.map f.char == some '-') = (o == some '-') := fun o => by
        cases o with
        | none => rfl
        | some c => exact f.respects_beq (show ¬ Outside '-' by decide) c
      simp only [Option.map_none, hlast, ← List.map_dropLast]
      split <;> rfl

theorem strikethrough_commutes : Pattern.Commutes strikethrough f := by
  intro t
  have hblank := f.respects_isBlank
  simp only [strikethrough, f.takeWhile_map hblank, f.dropWhile_map hblank, List.isEmpty_map,
    f.after?_map (show Inside "-".toList by decide), Option.bind_eq_bind]
  cases (t.takeWhile isBlank).isEmpty with
  | true => rfl
  | false =>
    cases after? "-" (t.dropWhile isBlank) with
    | none => rfl
    | some inner =>
      simp only [Option.map_some, Option.bind_some, f.struck?_map]
      cases struck? inner with
      | none => rfl
      | some p =>
        have htildes : Inside "~~".toList := by decide
        have hspan := f.between_map htildes htildes p.1
        simp only [Option.map_some, Option.bind_some, f.takeWhile_map hblank, f.dropWhile_map hblank, hspan,
          ← List.map_append]
        rfl

theorem preformatted_commutes : Pattern.Commutes preformatted f :=
  f.mark_commutes (by decide) (by decide)

theorem unnamedLink_commutes : Pattern.Commutes unnamedLink f := by
  intro t
  have hopening : ∀ {c}, f.char c = '[' ↔ c = '[' := f.char_eq_iff (by decide)
  have hbar : ∀ {c}, f.char c = '|' ↔ c = '|' := f.char_eq_iff (by decide)
  have hspan := f.between_map (show Inside "<".toList by decide) (show Inside ">".toList by decide)
  match t with
  | [] => rfl
  | [c] => simp [unnamedLink]
  | c :: d :: t =>
    by_cases hc : c = '['
    · subst hc
      rw [List.map_cons, List.map_cons, hopening.mpr rfl]
      simp only [unnamedLink, hbar, f.breakLast?_map (show Inside "]".toList by decide)
        (f.respects_beq (show ¬ Outside '|' by decide)), Option.map_map]
      split
      · rfl
      · rw [Option.map_map]
        simp only [Function.comp_def, Match.rename, ← hspan, List.map_cons]
    · simp [unnamedLink, hc, hopening]

theorem namedLink_commutes : Pattern.Commutes namedLink f := by
  intro t
  have hopening : ∀ {c}, f.char c = '[' ↔ c = '[' := f.char_eq_iff (by decide)
  have hn : ∀ {c}, f.char c = '\n' ↔ c = '\n' := f.char_eq_iff (by decide)
  have hname := f.between_map (show Inside "[".toList by decide) (show Inside "]".toList by decide)
  have htarget := f.between_map (show Inside "(".toList by decide) (show Inside ")".toList by decide)
  match t with
  | [] => rfl
  | [c] => simp [namedLink]
  | c :: d :: t =>
    by_cases hc : c = '['
    · subst hc
      rw [List.map_cons, List.map_cons, hopening.mpr rfl]
      simp only [namedLink, hn, f.breakFirst?_map (show Inside "|".toList by decide) f.respects_isLineEnd]
      split
      · rfl
      · rcases breakFirst? isLineEnd "|" t with _ | ⟨name, _ | ⟨e, target⟩⟩
        · rfl
        · rfl
        · simp only [Option.map_some, List.map_cons, hn,
            f.breakLast?_map (show Inside "]".toList by decide) f.respects_isLineEnd]
          split
          · rfl
          · rw [Option.map_map, Option.map_map]
            simp only [Function.comp_def, Match.rename, List.map_append, ← hname, ← htarget,
              List.map_cons]
    · simp [namedLink, hc, hopening]

theorem blockquote_commutes : Pattern.Commutes blockquote f := by
  intro t
  have hquote : "> ".toList.map f.char = "> ".toList := f.map_eq_self
  rw [blockquote, blockquote, f.after?_map (by decide)]
  cases after? "bq." t with
  | none => rfl
  | some behind =>
    simp only [Option.map_some, Option.bind_eq_bind, Option.bind_some, f.head?_any_map f.respects_isBlank,
      f.dropWhile_map f.respects_isBlank]
    cases behind.head?.any isBlank with
    | false => rfl
    | true => exact congrArg (fun u => some (Match.mk u _)) hquote.symm

theorem color_commutes : Pattern.Commutes color f := by
  intro t
  have hbrace := f.respects_bne (show ¬ Outside '}' by decide)
  rw [color, color, f.after?_map (by decide)]
  cases after? "\x7bcolor:" t with
  | none => rfl
  | some name =>
    simp only [Option.map_some, Option.bind_eq_bind, Option.bind_some, f.takeWhile_map hbrace,
      f.dropWhile_map hbrace, List.isEmpty_map, f.after?_map (show Inside "\x7d".toList by decide)]
    cases (name.takeWhile (· != '}')).isEmpty with
    | true => rfl
    | false =>
      cases after? "\x7d" (name.dropWhile (· != '}')) with
      | none => rfl
      | some inner =>
        have hlast := f.breakLast?_map (show Inside "\x7bcolor\x7d".toList by decide) f.respects_isLineEnd inner
        have hguard : (guard ((!false) = true) : Option Unit) = some () := rfl
        simp only [Option.map_some, hguard, Option.bind_some, hlast]
        cases breakLast? isLineEnd "\x7bcolor\x7d" inner <;> rfl

theorem panelTitle_commutes : Pattern.Commutes panelTitle f := by
  intro t
  rw [panelTitle, panelTitle, f.panel?_map, Option.map_map, Option.map_map]
  rfl

/-! ## The chain of styles -/

theorem inlineChain_commutes : ∀ style ∈ inlineChain, style.rewrite.pattern.Commutes f := by
  have hwrap : ∀ {opening closing : String}, Inside opening.toList → Inside closing.toList →
      ∀ t, between opening closing (t.map f.char) = (between opening closing t).map f.char := f.between_map
  have hstarts := f.respects_isBlank.negated
  simp only [inlineChain, List.forall_mem_cons]
  refine ⟨?bold, ?italic, f.monospace_commutes, ?insert, ?superscript, ?subscript, f.strikethrough_commutes,
    f.preformatted_commutes, f.unnamedLink_commutes, ?image, f.namedLink_commutes, f.blockquote_commutes,
    f.color_commutes, f.panelTitle_commutes, by simp⟩
  case bold => exact f.longSpan_commutes (by decide) (hwrap (by decide) (by decide)) hstarts
  case italic => exact f.longSpan_commutes (by decide) (hwrap (by decide) (by decide)) hstarts
  case insert => exact f.shortSpan_commutes (by decide) (hwrap (by decide) (by decide))
  case superscript => exact f.shortSpan_commutes (by decide) (hwrap (by decide) (by decide))
  case subscript => exact f.shortSpan_commutes (by decide) (hwrap (by decide) (by decide))
  case image =>
    exact f.longSpan_commutes (by decide) (hwrap (by decide) (by decide)) f.respects_isLineEnd.negated

theorem restyle_map {chain : List InlineStyle} (h : ∀ style ∈ chain, style.rewrite.pattern.Commutes f)
    (line : Text) : restyle chain (line.map f.char) = (restyle chain line).map f.char := by
  induction chain generalizing line with
  | nil => rfl
  | cons style chain ih =>
    rw [List.forall_mem_cons] at h
    rw [restyle, List.foldl_cons, Rewrite.apply_map h.1]
    exact ih h.2 _

theorem inlineStyles_map (line : Text) : inlineStyles (line.map f.char) = (inlineStyles line).map f.char :=
  f.restyle_map f.inlineChain_commutes line

/-! ## All rules -/

/-- Every rule finds in a renamed text what it finds in the text, and so a conversion commutes with
renaming. -/
theorem convert_map :
    (∀ r ∈ blockRewrites ++ inlineChain.map (·.rewrite), ∀ t,
      r.apply (t.map f.char) = (r.apply t).map f.char) ∧
    ∀ (dialect : Dialect) (t : Text), dialect.convert (t.map f.char) = (dialect.convert t).map f.char := by
  have hblock := f.blockRewrites_commute
  have hrules : ∀ r ∈ blockRewrites, ∀ t, r.apply (t.map f.char) = (r.apply t).map f.char :=
    fun r hr => Rewrite.apply_map (hblock r hr)
  refine ⟨fun r hr t => ?_, fun dialect t => ?_⟩
  · rcases List.mem_append.mp hr with hr | hr
    · exact hrules r hr t
    · obtain ⟨style, hs, rfl⟩ := List.mem_map.mp hr
      exact Rewrite.apply_map (f.inlineChain_commutes style hs) t
  · simp only [blockRewrites, List.forall_mem_cons] at hrules
    obtain ⟨hbullet, hnumbered, hheading, hsole, hcode, hpanel, hheads, hindent, -⟩ := hrules
    have hmark : ∀ l, markLine (l.map f.char) = (markLine l).map f.char := fun l => by
      rw [markLine, hbullet, hnumbered, hheading, markLine]
    cases dialect with
    | legacy =>
      rw [Dialect.legacy_convert, f.onLines_map hmark, hsole, hcode, f.onLines_map f.inlineStyles_map,
        Dialect.legacy_convert]
    | corrected =>
      rw [Dialect.corrected_convert, f.onLines_map hmark, hcode, hpanel, f.onLines_map f.inlineStyles_map,
        hheads, f.onLines_map hindent, Dialect.corrected_convert]

/-- A star in front of a no-break space marks no item, as little as one in front of a letter. -/
example : Dialect.legacy.convert "*\u00a0item".toList = "*\u00a0item".toList ∧
    Dialect.legacy.convert ("*\u00a0item".toList.map toLetter.char) = "*Xitem".toList := by decide

end Renaming

end JiraMarkup
