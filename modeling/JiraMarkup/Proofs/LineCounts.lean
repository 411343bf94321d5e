import JiraMarkup.Proofs.Conversion
import Mathlib.Data.List.Forall2

/-!
# Line counts

No stage lowers the number of lines: a line rule keeps it, and a document rule
writes at least as many line feeds as it drops. Fencing a block writes two line
feeds for those that it strips from the body, so that a block with its tags on
lines of their own stays as long as it was.
-/

namespace JiraMarkup

/-! ## Matches of a scan -/

namespace Rewrite

/-- The places where a scan replaces a match, as the texts that begin there. -/
def hits (r : Rewrite) : (opened : Bool) → (skip : Nat) → Text → List Text
  | _, _, [] => []
  | _, n + 1, c :: t => hits r (r.anchor.opensAfter c) n t
  | opened, 0, c :: t =>
    match r.tryAt opened (c :: t) with
    | some m => (c :: t) :: hits r (r.anchor.opensAfter c) (t.length - m.rest.length) t
    | none => hits r (r.anchor.opensAfter c) 0 t

variable {r : Rewrite}

theorem hits_skip (r : Rewrite) (rest : Text) : ∀ (used : Text) (opened : Bool),
    r.hits opened used.length (used ++ rest) = r.hits (r.anchor.opensBehind opened used) 0 rest
  | [], _ => rfl
  | c :: used, _ => by
    rw [List.cons_append, List.length_cons, hits, hits_skip r rest used]; rfl

theorem hits_hit {opened : Bool} {used rest output : Text} (hne : used ≠ [])
    (h : r.tryAt opened (used ++ rest) = some ⟨output, rest⟩) : r.hits opened 0 (used ++ rest) =
      (used ++ rest) :: r.hits (r.anchor.opensBehind opened used) 0 rest := by
  obtain ⟨c, used, rfl⟩ := List.exists_cons_of_ne_nil hne
  rw [List.cons_append] at h ⊢
  rw [hits, h]
  simp only [List.length_append, Nat.add_sub_cancel]
  rw [hits_skip]; rfl

theorem hits_miss {opened : Bool} {c : Char} {t : Text} (h : r.tryAt opened (c :: t) = none) :
    r.hits opened 0 (c :: t) = r.hits (r.anchor.opensAfter c) 0 t := by
  rw [hits, h]

theorem Scanned.count_eq {c : Char} {gain : Text → Nat} (h : ∀ t m, r.pattern t = some m →
      m.output.count c + m.rest.count c = t.count c + gain t) {opened : Bool} {t u : Text}
    (hs : Scanned r opened t u) : u.count c = t.count c + ((r.hits opened 0 t).map gain).sum := by
  induction hs with
  | nil => rfl
  | hit hne ht _ ih =>
    have hgain := h _ _ (tryAt_eq_some ht).2
    simp only [List.count_append] at hgain ⊢
    rw [hits_hit hne ht, List.map_cons, List.sum_cons, ih]
    omega
  | miss ht _ ih =>
    rw [hits_miss ht, List.count_cons, List.count_cons, ih]
    omega

theorem count_apply (hc : r.pattern.Consumes) {c : Char} {gain : Text → Nat}
    (h : ∀ t m, r.pattern t = some m → m.output.count c + m.rest.count c = t.count c + gain t) (t : Text) :
    (r.apply t).count c = t.count c + ((r.hits true 0 t).map gain).sum :=
  (scanned_scan hc true t).count_eq h

theorem count_le_apply (hc : r.pattern.Consumes) {c : Char}
    (h : ∀ t m, r.pattern t = some m → t.count c ≤ m.output.count c + m.rest.count c) (t : Text) :
    t.count c ≤ (r.apply t).count c := by
  have hgain : ∀ t m, r.pattern t = some m → m.output.count c + m.rest.count c =
      t.count c + (r.pattern t).elim 0 fun m => m.output.count c + m.rest.count c - t.count c := by
    intro t m hm
    have hle := h t m hm
    simp only [hm, Option.elim_some]
    omega
  rw [count_apply hc hgain]
  exact Nat.le_add_right _ _

end Rewrite

/-! ## Table heads and panels -/

theorem count_newline_eq_zero {l : Text} (h : '\n' ∉ l) : l.count '\n' = 0 := List.count_eq_zero.mpr h

theorem headerLine_count_newlines {t : Text} {m : Match} (h : headerLine t = some m) :
    t.count '\n' ≤ m.output.count '\n' + m.rest.count '\n' := by
  obtain ⟨line, row, -, ht, hn, -⟩ := headerLine_eq_some h
  rw [ht, List.count_append, count_newline_eq_zero hn]
  omega

theorem tableHeaders_count_newlines (t : Text) : t.count '\n' ≤ (tableHeaders.apply t).count '\n' :=
  Rewrite.count_le_apply tableHeaders_respells.consumes (fun _ _ h => headerLine_count_newlines h) t

theorem soleTableHeader_count_newlines (t : Text) :
    t.count '\n' ≤ (soleTableHeader.apply t).count '\n' :=
  Rewrite.count_le_apply soleTableHeader_respells.consumes
    (fun _ _ h => headerLine_count_newlines (soleTableHeader_eq_some h).1) t

theorem panelTable_count_newlines (t : Text) : t.count '\n' ≤ (panelTable.apply t).count '\n' := by
  refine Rewrite.count_le_apply panelTable_respells.consumes (fun t m h => ?_) t
  obtain ⟨p, hp, rfl⟩ := Option.map_eq_some_iff.mp h
  obtain ⟨nl, nl', hnl, hnl', ht⟩ := panel?_eq_some hp
  have hfront := hnl.count_le '\n'
  have hback := hnl'.count_le '\n'
  have hopening : panelOpening.toList.count '\n' = 0 := by decide
  have hclosing : panelClosing.toList.count '\n' = 0 := by decide
  -- The title keeps its line feeds; the tags have two at most, and the rows of the table three.
  rw [ht]
  simp [List.count_append, hopening, hclosing] at hfront hback ⊢
  omega

/-! ## Code blocks -/

def codeBody? (t : Text) : Option Text := do
  let tag ← after? codeOpening t
  let (_, opened) ← openingTag? tag
  let (body, _) ← breakFirst? (fun _ => false) codeClosing opened
  return body

def codeBodies (t : Text) : List Text := (codeBlock.hits true 0 t).filterMap codeBody?

example : codeBodies "\x7bcode\x7da\x7bcode\x7d \x7bcode:go\x7d\nb\n\x7bcode\x7d".toList =
    ["a".toList, "\nb\n".toList] := by decide

def strippedNewlines (body : Text) : Nat := body.length - (trimNewlines body).length

theorem exists_strippedNewlines (body : Text) : ∃ nl nl', nl.Sublist ['\n'] ∧ nl'.Sublist ['\n'] ∧
    body = nl ++ trimNewlines body ++ nl' ∧ strippedNewlines body = nl.length + nl'.length := by
  obtain ⟨nl, nl', hnl, hnl', hbody⟩ := trimNewlines_eq body
  have hlen := congrArg List.length hbody
  simp only [List.length_append] at hlen
  exact ⟨nl, nl', hnl, hnl', hbody, by rw [strippedNewlines]; omega⟩

theorem count_trimNewlines (body : Text) :
    (trimNewlines body).count '\n' + strippedNewlines body = body.count '\n' := by
  obtain ⟨nl, nl', hnl, hnl', hbody, hstripped⟩ := exists_strippedNewlines body
  have hfront : nl.count '\n' = nl.length :=
    List.count_eq_length.mpr fun c hc => (eq_newline_of_mem hnl c hc).symm
  have hback : nl'.count '\n' = nl'.length :=
    List.count_eq_length.mpr fun c hc => (eq_newline_of_mem hnl' c hc).symm
  have hcount := congrArg (List.count '\n') hbody
  simp only [List.count_append] at hcount
  omega

theorem strippedNewlines_le (body : Text) : strippedNewlines body ≤ 2 := by
  obtain ⟨nl, nl', hnl, hnl', -, hstripped⟩ := exists_strippedNewlines body
  rw [hstripped]
  exact Nat.add_le_add hnl.length_le hnl'.length_le

theorem strippedNewlines_eq_two_iff {body : Text} :
    strippedNewlines body = 2 ↔ ∃ inner, body = '\n' :: (inner ++ ['\n']) := by
  constructor
  · intro h
    obtain ⟨nl, nl', hnl, hnl', hbody, hstripped⟩ := exists_strippedNewlines body
    have hfront : nl.length ≤ 1 := hnl.length_le
    have hback : nl'.length ≤ 1 := hnl'.length_le
    obtain rfl := hnl.eq_of_length (show nl.length = 1 by omega)
    obtain rfl := hnl'.eq_of_length (show nl'.length = 1 by omega)
    exact ⟨trimNewlines body, by simpa using hbody⟩
  · rintro ⟨inner, rfl⟩
    have htrim : trimNewlines ('\n' :: (inner ++ ['\n'])) = inner := by simp [trimNewlines, dropNewline]
    rw [strippedNewlines, htrim]
    simp only [List.length_cons, List.length_append, List.length_nil]
    omega

theorem codeSpan_count_newlines {t : Text} {m : Match} (h : codeSpan t = some m) :
    ∃ body, codeBody? t = some body ∧
      m.output.count '\n' + m.rest.count '\n' = t.count '\n' + (2 - strippedNewlines body) := by
  simp only [codeSpan, Option.bind_eq_bind, Option.bind_eq_some_iff, Option.pure_def, Option.some.injEq] at h
  obtain ⟨tag, htag, ⟨lang, opened⟩, hopen, ⟨body, rest⟩, hbody, rfl⟩ := h
  refine ⟨body, by simp [codeBody?, htag, hopen, hbody], ?_⟩
  obtain ⟨hlow, sep, attrs, hsep, hattrs, rfl⟩ := openingTag?_eq_some hopen
  obtain ⟨rfl, -⟩ := breakFirst?_eq_some hbody
  have hsep : sep.count '\n' = 0 := by rcases hsep with rfl | ⟨rfl, -⟩ <;> decide
  have hlang : lang.count '\n' = 0 := count_newline_eq_zero fun h => absurd (hlow _ h) (by decide)
  have hattrs : attrs.count '\n' = 0 := count_newline_eq_zero hattrs.newline_not_mem
  have hopening : codeOpening.toList.count '\n' = 0 := by decide
  have hclosing : codeClosing.toList.count '\n' = 0 := by decide
  have htrim := count_trimNewlines body
  have hle := strippedNewlines_le body
  rw [after?_eq_some_iff.mp htag, fence]
  simp [List.count_append, hsep, hlang, hattrs, hopening, hclosing]
  omega

theorem sum_map_filterMap (f : Text → Nat) (ts : List Text) :
    ((ts.filterMap codeBody?).map f).sum = (ts.map fun t => (codeBody? t).elim 0 f).sum := by
  induction ts with
  | nil => rfl
  | cons t ts ih =>
    rw [List.filterMap_cons, List.map_cons, List.sum_cons, ← ih]
    cases codeBody? t <;> simp

theorem codeBlock_count_newlines (t : Text) : (codeBlock.apply t).count '\n' =
    t.count '\n' + ((codeBodies t).map fun body => 2 - strippedNewlines body).sum := by
  rw [codeBodies, sum_map_filterMap]
  refine Rewrite.count_apply codeSpan_respells.consumes (fun t m h => ?_) t
  obtain ⟨body, hbody, hcount⟩ := codeSpan_count_newlines h
  rw [hbody]
  exact hcount

/-! ## Counts along a chain -/

structure StageCount where
  stage : String
  linesIn : Nat
  linesOut : Nat

def Record.stageCount? : Record → Option StageCount
  | styleApplied _ => none
  | stageApplied stage linesIn linesOut => some ⟨stage, linesIn, linesOut⟩

def Dialect.stageCounts (dialect : Dialect) (d : Document) : List StageCount :=
  (dialect.records d).filterMap Record.stageCount?

/-- The counts that can stand before and behind a rule: a line rule keeps the number of lines, and a
document rule does not lower it. -/
def Rule.Admits : Rule → (linesIn linesOut : Nat) → Prop
  | line _, m, n => n = m
  | document _, m, n => m ≤ n

def Rule.Grows : Rule → Prop
  | line _ => True
  | document f => ∀ t, t.count '\n' ≤ (f t).count '\n'

theorem Rule.Grows.admits {rule : Rule} (h : rule.Grows) (d : Document) :
    rule.Admits d.size (rule.apply d).size := by
  cases rule with
  | line f => exact List.length_map f
  | document f => exact d.size_le_size_mapText h

theorem Rule.Admits.le {rule : Rule} {m n : Nat} (h : rule.Admits m n) : m ≤ n := by
  cases rule with
  | line f => exact Nat.le_of_eq (Eq.symm h)
  | document f => exact h

namespace Dialect

theorem stageCounts_recordsOf_cons (s : Stage) (stages : List Stage) (d : Document) :
    (recordsOf (s :: stages) d).filterMap Record.stageCount? =
      ⟨s.name, d.size, (s.apply d).size⟩ :: (recordsOf stages (s.apply d)).filterMap Record.stageCount? := by
  have hstyles (styles : List String) :
      (styles.map Record.styleApplied).filterMap Record.stageCount? = [] := by
    simp [List.filterMap_eq_nil_iff, Record.stageCount?]
  rw [recordsOf, Stage.records, List.filterMap_append, List.filterMap_append, hstyles]
  rfl

theorem stageCounts_recordsOf {stages : List Stage} (h : ∀ s ∈ stages, s.rule.Grows)
    (d : Document) {counts : List StageCount}
    (hcounts : (recordsOf stages d).filterMap Record.stageCount? = counts) :
    List.Forall₂ (fun s count => count.stage = s.name ∧ s.rule.Admits count.linesIn count.linesOut)
        stages counts ∧
      d.size :: counts.map (·.linesOut) =
        counts.map (·.linesIn) ++ [(stages.foldl (fun d s => s.apply d) d).size] ∧
      d.size ≤ (stages.foldl (fun d s => s.apply d) d).size := by
  subst hcounts
  induction stages generalizing d with
  | nil => exact ⟨.nil, rfl, Nat.le_refl _⟩
  | cons s stages ih =>
    rw [List.forall_mem_cons] at h
    have hs := h.1.admits d
    obtain ⟨hstages, hlink, hle⟩ := ih h.2 (s.apply d)
    rw [stageCounts_recordsOf_cons, List.map_cons, List.map_cons, List.foldl_cons, hlink]
    exact ⟨.cons ⟨rfl, hs⟩ hstages, rfl, hs.le.trans hle⟩

theorem stages_grow (dialect : Dialect) : ∀ s ∈ dialect.stages, s.rule.Grows := by
  have hcode : ∀ t, t.count '\n' ≤ (codeBlock.apply t).count '\n' := fun t => by
    rw [codeBlock_count_newlines]
    exact Nat.le_add_right _ _
  cases dialect with
  | legacy =>
    simp only [stages, List.forall_mem_cons]
    exact ⟨trivial, trivial, trivial, soleTableHeader_count_newlines, hcode, trivial, by simp⟩
  | corrected =>
    simp only [stages, List.forall_mem_cons]
    exact ⟨trivial, trivial, trivial, hcode, panelTable_count_newlines, trivial,
      tableHeaders_count_newlines, trivial, by simp⟩

end Dialect

/-- The counts are recorded stage by stage and link up, no stage lowers them, and fencing raises them
by the line feeds of a block's tags that were not there before. -/
theorem stageCounts_link_up :
    (∀ (dialect : Dialect) (d : Document),
      List.Forall₂ (fun s count => count.stage = s.name ∧ s.rule.Admits count.linesIn count.linesOut)
          dialect.stages (dialect.stageCounts d) ∧
        d.size :: (dialect.stageCounts d).map (·.linesOut) =
          (dialect.stageCounts d).map (·.linesIn) ++ [(dialect.convertDocument d).size] ∧
        d.size ≤ (dialect.convertDocument d).size) ∧
      (∀ body, strippedNewlines body ≤ 2 ∧
        (strippedNewlines body = 2 ↔ ∃ inner, body = '\n' :: (inner ++ ['\n']))) ∧
      ∀ t : Text, (codeBlock.apply t).count '\n' =
          t.count '\n' + ((codeBodies t).map fun body => 2 - strippedNewlines body).sum ∧
        ((codeBlock.apply t).count '\n' = t.count '\n' ↔
          ∀ body ∈ codeBodies t, ∃ inner, body = '\n' :: (inner ++ ['\n'])) := by
  refine ⟨fun dialect d => Dialect.stageCounts_recordsOf dialect.stages_grow d rfl,
    fun body => ⟨strippedNewlines_le body, strippedNewlines_eq_two_iff⟩,
    fun t => ⟨codeBlock_count_newlines t, ?_⟩⟩
  rw [codeBlock_count_newlines, Nat.add_eq_left, List.sum_eq_zero_iff_forall_eq_nat]
  constructor
  · intro h body hbody
    have hzero := h _ (List.mem_map_of_mem hbody)
    have hle := strippedNewlines_le body
    exact strippedNewlines_eq_two_iff.mp (by omega)
  · intro h n hn
    obtain ⟨body, hbody, rfl⟩ := List.mem_map.mp hn
    rw [strippedNewlines_eq_two_iff.mpr (h body hbody)]

end JiraMarkup
