import JiraMarkup.Issue
import JiraMarkup.Proofs.Search

/-!
# Footers

The body of an issue is the converted description over a footer, and the key of
the ticket stands in the footer's first mark. The two parts do not see each
other: marks in the description and in the key are copied, and no rule reads the
footer.
-/

namespace JiraMarkup

/-! ## The first mark -/

structure SplitsAtMark (footer before behind : Text) : Prop where
  eq : footer = before ++ ticketMark.toList ++ behind
  shortest : ∀ a b, footer = a ++ ticketMark.toList ++ b → before.length ≤ a.length

theorem SplitsAtMark.unique {footer a b a' b' : Text} (h : SplitsAtMark footer a b)
    (h' : SplitsAtMark footer a' b') : a = a' ∧ b = b' := by
  have hlen : a.length = a'.length := Nat.le_antisymm (h.shortest a' b' h'.eq) (h'.shortest a b h.eq)
  have heq : a ++ (ticketMark.toList ++ b) = a' ++ (ticketMark.toList ++ b') := by
    rw [← List.append_assoc, ← h.eq, h'.eq, List.append_assoc]
  obtain ⟨ha, hb⟩ := List.append_inj heq hlen
  exact ⟨ha, List.append_cancel_left hb⟩

theorem ticketMark_ne_nil : ticketMark.toList ≠ [] := by decide

theorem splitsAtMark_of_breakFirst? {footer a b : Text}
    (h : breakFirst? (fun _ => false) ticketMark footer = some (a, b)) : SplitsAtMark footer a b where
  eq := (breakFirst?_eq_some h).1
  shortest _ _ := breakFirst?_length_le h

theorem footerFor_of_absent {footer : Text} (h : ¬ ticketMark.toList <:+: footer) (key : Text) :
    footerFor key footer = footer := by
  rw [footerFor, (breakFirst?_eq_none_iff ticketMark_ne_nil).mpr h]

theorem exists_splitsAtMark {footer : Text} (h : ticketMark.toList <:+: footer) :
    ∃ a b, SplitsAtMark footer a b ∧ ∀ key, footerFor key footer = a ++ key ++ b := by
  cases hbreak : breakFirst? (fun _ => false) ticketMark footer with
  | none => exact absurd h ((breakFirst?_eq_none_iff ticketMark_ne_nil).mp hbreak)
  | some p =>
    obtain ⟨a, b⟩ := p
    exact ⟨a, b, splitsAtMark_of_breakFirst? hbreak, fun key => by rw [footerFor, hbreak]⟩

/-- A brace in front of the mark stays, and the second mark is text. -/
example : footerFor "K".toList "\x7b\x7b\x7bTICKET\x7d\x7d\x7b\x7bTICKET\x7d\x7d".toList =
    "\x7bK\x7b\x7bTICKET\x7d\x7d".toList := by decide

/-! ## Bodies -/

namespace Issue

variable (dialect : Dialect) (title description footer : Text)

theorem body_ofTicket (key : Text) : (ofTicket dialect key title description footer).body =
    dialect.convert description ++ "\n\n".toList ++ footerFor key footer := rfl

/-- The key stands in the first mark of the footer and nowhere else, so that the body tells the key. -/
theorem ofTicket_substitutes_once :
    (¬ ticketMark.toList <:+: footer → ∀ key, (ofTicket dialect key title description footer).body =
        dialect.convert description ++ "\n\n".toList ++ footer) ∧
      (ticketMark.toList <:+: footer →
        (∃ a b, (SplitsAtMark footer a b ∧ ∀ a' b', SplitsAtMark footer a' b' → a' = a ∧ b' = b) ∧
          ∀ key, (ofTicket dialect key title description footer).body =
            dialect.convert description ++ "\n\n".toList ++ (a ++ key ++ b)) ∧
        ∀ key key' title', (ofTicket dialect key title description footer).body =
          (ofTicket dialect key' title' description footer).body → key = key') := by
  constructor
  · intro h key
    rw [body_ofTicket, footerFor_of_absent h]
  · intro h
    obtain ⟨a, b, hsplit, hfooter⟩ := exists_splitsAtMark h
    have hbody (key title : Text) : (ofTicket dialect key title description footer).body =
        dialect.convert description ++ "\n\n".toList ++ (a ++ key ++ b) := by
      rw [body_ofTicket, hfooter]
    refine ⟨⟨a, b, ⟨hsplit, fun a' b' h' => h'.unique hsplit⟩, fun key => hbody key title⟩, ?_⟩
    intro key key' title' he
    rw [hbody, hbody] at he
    exact List.append_cancel_left (List.append_cancel_right (List.append_cancel_left he))

end Issue

end JiraMarkup
