import JiraMarkup.Proofs.KeyOrder
import JiraMarkup.Settings

/-!
# Entries of settings

Entries are read one after the other. With the keys in order, the fields that
they name do not interfere: the reading succeeds if each entry can be read by
itself, and what is seen of one setting comes from the entry of its name alone.
-/

namespace JiraMarkup.Settings

open Toml (Within Ascending bind_eq_ok map_eq_ok get?_cons_of_eq get?_cons_of_ne get?_of_mem)

/-! ## Ignored values -/

/-- Every number in a value has a size that a number can have. -/
def InRange (v : Toml.Value) : Prop := ∀ w, Within w v → isTooLarge w = false

theorem inRange_iff_of_isScalar {v : Toml.Value} (hv : v.isScalar) : InRange v ↔ isTooLarge v = false := by
  refine ⟨fun h => h v .refl, fun h w hw => ?_⟩
  cases hw with
  | refl => exact h
  | item | entry => cases hv

theorem inRange_array_iff {items : List (Toml.Position × Toml.Value)} :
    InRange (.array items) ↔ ∀ item ∈ items, InRange item.2 := by
  constructor
  · exact fun h item hmem w hw => h w (.item hmem hw)
  · intro h w hw
    cases hw with
    | refl => rfl
    | item hmem hw => exact h _ hmem w hw

theorem inRange_table_iff {entries : List Toml.Entry} :
    InRange (.table entries) ↔ ∀ e ∈ entries, InRange e.2.2 := by
  constructor
  · exact fun h e hmem w hw => h w (.entry hmem hw)
  · intro h w hw
    cases hw with
    | refl => rfl
    | entry hmem hw => exact h _ hmem w hw

theorem ignoreNumber_eq_ok_iff {v : Toml.Value} (hv : v.isScalar) (p : Toml.Position) :
    (if isTooLarge v then .error ⟨.numberTooLarge, p⟩ else .ok () : Except Fault Unit) = .ok () ↔ InRange v := by
  rw [inRange_iff_of_isScalar hv]
  cases isTooLarge v with
  | true => exact ⟨nofun, nofun⟩
  | false => exact ⟨fun _ => rfl, fun _ => rfl⟩

mutual

theorem ignore_eq_ok_iff : ∀ (v : Toml.Value) (p : Toml.Position), ignore p v = .ok () ↔ InRange v
  | .array items, _ => by rw [ignore, inRange_array_iff, ignoreItems_eq_ok_iff]
  | .table entries, _ => by rw [ignore, inRange_table_iff, ignoreEntries_eq_ok_iff]
  | .integer n, p => by rw [ignore, ignoreNumber_eq_ok_iff rfl]
  | .float negative m, p => by rw [ignore, ignoreNumber_eq_ok_iff rfl]
  | .string _, _ => by rw [ignore, inRange_iff_of_isScalar rfl]; exact ⟨fun _ => rfl, fun _ => rfl⟩
  | .boolean _, _ => by rw [ignore, inRange_iff_of_isScalar rfl]; exact ⟨fun _ => rfl, fun _ => rfl⟩
  | .dateTime, _ => by rw [ignore, inRange_iff_of_isScalar rfl]; exact ⟨fun _ => rfl, fun _ => rfl⟩

theorem ignoreItems_eq_ok_iff : ∀ items : List (Toml.Position × Toml.Value),
    ignoreItems items = .ok () ↔ ∀ item ∈ items, InRange item.2
  | [] => by simp [ignoreItems]
  | (p, v) :: items => by
    rw [ignoreItems, bind_eq_ok, List.forall_mem_cons, ← ignore_eq_ok_iff v p, ← ignoreItems_eq_ok_iff items]
    exact ⟨fun ⟨_, h⟩ => h, fun h => ⟨(), h⟩⟩

theorem ignoreEntries_eq_ok_iff : ∀ entries : List (Toml.Key × Toml.Position × Toml.Value),
    ignoreEntries entries = .ok () ↔ ∀ e ∈ entries, InRange e.2.2
  | [] => by simp [ignoreEntries]
  | (key, p, v) :: entries => by
    rw [ignoreEntries, bind_eq_ok, List.forall_mem_cons, ← ignore_eq_ok_iff v p, ← ignoreEntries_eq_ok_iff entries]
    exact ⟨fun ⟨_, h⟩ => h, fun h => ⟨(), h⟩⟩

end

theorem isOk_ignore_iff (v : Toml.Value) : (ignore 0 v).isOk ↔ InRange v := by
  rw [← ignore_eq_ok_iff v 0]
  cases ignore 0 v with
  | ok _ => exact ⟨fun _ => rfl, fun _ => rfl⟩
  | error fault => exact ⟨nofun, nofun⟩

instance (v : Toml.Value) : Decidable (InRange v) := decidable_of_iff _ (isOk_ignore_iff v)

/-! ## Entries -/

namespace Field

/-- The field can be set to the value if that is in range. -/
def Checks (field : Field) (v : Toml.Value) : Prop := ∀ s p, (∃ s', field.set s p v = .ok s') ↔ InRange v

def Refuses (field : Field) (v : Toml.Value) : Prop := ∀ s p s', field.set s p v ≠ .ok s'

/-- What is seen of the settings is not for the field to change. -/
def Keeps {α : Type} (get : Settings → α) (field : Field) : Prop :=
  ∀ s p v s', field.set s p v = .ok s' → get s' = get s

end Field

def setEntry (fields : List Field) (s : Settings) : Toml.Entry → Except Fault Settings
  | (key, p, v) =>
    match fields.find? (·.name.toList == key.name) with
    | some field => field.set s p v
    | none => (fun _ => s) <$> ignore p v

section
variable {fields : List Field} {entries : List Toml.Entry} {s s' : Settings} {e : Toml.Entry}
  {key : Toml.Key} {p : Toml.Position} {v : Toml.Value}

theorem setEntries_cons :
    setEntries fields s (e :: entries) = setEntry fields s e >>= (setEntries fields · entries) := by
  obtain ⟨key, p, v⟩ := e
  rw [setEntries, setEntry]
  cases fields.find? (·.name.toList == key.name) with
  | some field => rfl
  | none =>
    cases ignore p v with
    | ok _ => rfl
    | error fault => rfl

theorem setEntries_eq_ok (h : ∀ e ∈ entries, ∀ s, ∃ s', setEntry fields s e = .ok s') (s : Settings) :
    ∃ s', setEntries fields s entries = .ok s' := by
  induction entries generalizing s with
  | nil => exact ⟨s, rfl⟩
  | cons e entries ih =>
    obtain ⟨s₁, h₁⟩ := h e List.mem_cons_self s
    rw [setEntries_cons, h₁]
    exact ih (fun e he => h e (List.mem_cons_of_mem _ he)) s₁

theorem setEntries_ne_ok (he : e ∈ entries) (h : ∀ s s', setEntry fields s e ≠ .ok s') (s s' : Settings) :
    setEntries fields s entries ≠ .ok s' := by
  induction entries generalizing s with
  | nil => cases he
  | cons e' entries ih =>
    rw [setEntries_cons]
    intro hok
    obtain ⟨s₁, hfirst, hrest⟩ := bind_eq_ok.mp hok
    cases he with
    | head => exact h s s₁ hfirst
    | tail _ he => exact ih he s₁ hrest

theorem setEntry_cases (fields : List Field) (key : Toml.Key) :
    (∃ field ∈ fields, field.name.toList = key.name ∧ ∀ s p v, setEntry fields s (key, p, v) = field.set s p v) ∨
      (∀ field ∈ fields, field.name.toList ≠ key.name) ∧
        ∀ s p v, setEntry fields s (key, p, v) = (fun _ => s) <$> ignore p v := by
  cases hfind : fields.find? (·.name.toList == key.name) with
  | some field =>
    refine .inl ⟨field, List.mem_of_find?_eq_some hfind, by simpa using List.find?_some hfind, fun s p v => ?_⟩
    rw [setEntry, hfind]
  | none =>
    refine .inr ⟨by simpa using hfind, fun s p v => ?_⟩
    rw [setEntry, hfind]

/-- Entries can be read if all values are in range, given that this is all that the fields ask. -/
theorem setEntries_ok_iff (hasc : Ascending entries)
    (hfields : ∀ field ∈ fields, ∀ v, Toml.Table.get? entries field.name = some v → field.Checks v)
    (s : Settings) : (∃ s', setEntries fields s entries = .ok s') ↔ InRange (.table entries) := by
  have hentry : ∀ e ∈ entries, ∀ s, (∃ s', setEntry fields s e = .ok s') ↔ InRange e.2.2 := by
    rintro ⟨key, p, v⟩ he s
    obtain ⟨field, hmem, hname, hset⟩ | ⟨-, hignore⟩ := setEntry_cases fields key
    · simp only [hset]
      exact hfields field hmem v (get?_of_mem hasc he hname.symm) s p
    · simp only [hignore, map_eq_ok, ← ignore_eq_ok_iff v p]
      exact ⟨fun ⟨_, _, h, _⟩ => h, fun h => ⟨s, (), h, rfl⟩⟩
  rw [inRange_table_iff]
  constructor
  · intro ⟨s', h⟩ e he
    by_contra hrange
    refine setEntries_ne_ok he (fun s₁ s₂ hok => ?_) s s' h
    exact hrange ((hentry e he s₁).mp ⟨s₂, hok⟩)
  · exact fun h => setEntries_eq_ok (fun e he s => (hentry e he s).mpr (h e he)) s

variable {α : Type} {get : Settings → α} {name : String} {g : Toml.Value → α → α}

theorem get_setEntry (hfields : ∀ field ∈ fields, field.name.toList = key.name → field.Keeps get)
    (h : setEntry fields s (key, p, v) = .ok s') : get s' = get s := by
  obtain ⟨field, hmem, hname, hset⟩ | ⟨-, hignore⟩ := setEntry_cases fields key
  · rw [hset] at h
    exact hfields field hmem hname s p v s' h
  · rw [hignore] at h
    obtain ⟨_, -, rfl⟩ := map_eq_ok.mp h
    rfl

/-- What is seen of one setting comes from the entry of its name, and from no other. -/
theorem get_setEntries (hasc : Ascending entries) (hname : ∃ field ∈ fields, field.name = name)
    (hkeep : ∀ field ∈ fields, field.name ≠ name → field.Keeps get)
    (hset : ∀ v, Toml.Table.get? entries name = some v → ∀ field ∈ fields, field.name = name →
      ∀ s p s', field.set s p v = .ok s' → get s' = g v (get s))
    (h : setEntries fields s entries = .ok s') :
    get s' = (Toml.Table.get? entries name).elim (get s) (g · (get s)) := by
  induction entries generalizing s with
  | nil =>
    cases h
    rfl
  | cons e entries ih =>
    obtain ⟨key, p, v⟩ := e
    obtain ⟨hlt, hasc⟩ := List.pairwise_cons.mp hasc
    rw [setEntries_cons] at h
    obtain ⟨s₁, hfirst, hrest⟩ := bind_eq_ok.mp h
    by_cases hkey : key.name = name.toList
    · -- The names behind this one come after it, so that none of them is the same.
      have hnone : Toml.Table.get? entries name = none :=
        Toml.get?_eq_none fun e he => hkey ▸ (hlt e he).ne'
      have hkept := ih hasc (fun v hv => by rw [hnone] at hv; cases hv) hrest
      have hsome : Toml.Table.get? ((key, p, v) :: entries) name = some v := get?_cons_of_eq hkey
      rw [hnone, Option.elim_none] at hkept
      rw [hkept, hsome, Option.elim_some]
      obtain ⟨field, hmem, hfield, hset'⟩ | ⟨hunknown, -⟩ := setEntry_cases fields key
      · rw [hset'] at hfirst
        exact hset v hsome field hmem (String.toList_inj.mp (hfield.trans hkey)) s p s₁ hfirst
      · obtain ⟨field, hmem, hfield⟩ := hname
        exact absurd (hfield ▸ hkey.symm) (hunknown field hmem)
    · rw [get?_cons_of_ne hkey] at hset ⊢
      rw [ih hasc hset hrest, get_setEntry (fun field hmem hfield => hkeep field hmem ?_) hfirst]
      rintro rfl
      exact hkey hfield.symm

end

/-! ## Sections -/

section
variable {α : Type} {get : Settings → α} {fields : List Field} {s s' : Settings}

theorem get_setEntries_of_keeps {entries : List Toml.Entry} (hkeep : ∀ field ∈ fields, field.Keeps get)
    (h : setEntries fields s entries = .ok s') : get s' = get s := by
  induction entries generalizing s with
  | nil =>
    cases h
    rfl
  | cons e entries ih =>
    rw [setEntries_cons] at h
    obtain ⟨s₁, hfirst, hrest⟩ := bind_eq_ok.mp h
    rw [ih hrest, get_setEntry (fun field hmem _ => hkeep field hmem) hfirst]

theorem get_setItems_of_keeps {items : List (Toml.Position × Toml.Value)}
    (hkeep : ∀ field ∈ fields, field.Keeps get) (h : setItems s fields items = .ok s') : get s' = get s := by
  induction fields generalizing s items with
  | nil =>
    cases h
    rfl
  | cons field fields ih =>
    cases items with
    | nil =>
      cases h
      rfl
    | cons item items =>
      obtain ⟨p, v⟩ := item
      rw [setItems] at h
      obtain ⟨s₁, hfirst, hrest⟩ := bind_eq_ok.mp h
      rw [ih (fun field hmem => hkeep field (List.mem_cons_of_mem _ hmem)) hrest,
        hkeep field List.mem_cons_self s p v s₁ hfirst]

theorem mismatch_ne_ok (expected : Expectation) (p : Toml.Position) (v : Toml.Value) (a : α) :
    mismatch expected p v ≠ .ok a := by
  rw [mismatch]
  split
  · exact nofun
  · exact nofun

theorem keeps_readSection {name : String} {expected : Expectation} (hkeep : ∀ field ∈ fields, field.Keeps get) :
    Field.Keeps get ⟨name, readSection fields expected⟩ := by
  intro s p v s' h
  cases v with
  | table entries => exact get_setEntries_of_keeps hkeep h
  | array items => exact get_setItems_of_keeps hkeep h
  | dateTime =>
    cases h
    rfl
  | string | integer | float | boolean =>
    simp only [readSection] at h
    exact absurd h (mismatch_ne_ok expected p _ s')

end

end JiraMarkup.Settings
