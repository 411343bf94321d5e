import JiraMarkup.Proofs.Outcomes
import JiraMarkup.Proofs.SettingEntries

/-!
# Merged settings

Each of the four settings is what the file says of it, or else its default,
whatever the file says of the other three and besides. The defaults have three
sources, which agree.
-/

namespace JiraMarkup.Settings

open Program
open Toml (Ascending map_eq_ok)

/-! ## Defaults -/

theorem ofDocument_bundledDocument : (ofDocument bundledDocument).toOption = some default := by
  -- Without the literals spelled out, the kernel decodes them again at every step.
  unfold bundledDocument default defaultFooter ticketMark
  simp only [String.toList_append]
  repeat rw [String.toList_ofList]
  decide +kernel

theorem bundledFooter?_eq : bundledFooter? = some defaultFooter := by
  unfold bundledFooter? bundledDocument defaultFooter ticketMark
  simp only [String.toList_append]
  repeat rw [String.toList_ofList]
  decide +kernel

/-- Where a section is missing, where the file is missing, and in the bundled file, the defaults agree. -/
theorem compiledDefault_eq :
    compiledDefault = default ∧ default = ⟨.legacy, bundledFooter, ⟨true, true⟩⟩ := by
  constructor
  · rw [compiledDefault, ofDocument_bundledDocument, Option.getD_some]
  · rw [bundledFooter, bundledFooter?_eq, Option.getD_some, default]

theorem load_missing : load (.error .notFound) = .ok compiledDefault := by
  rw [compiledDefault_eq.1]
  rfl

/-! ## Settings -/

/-- A setting: where a file has it, how a value says what it should be, and how it is seen afterwards. -/
structure Setting (α : Type) where
  sectionName : String
  name : String
  read? : Toml.Value → Option α
  get : Settings → α

def dialect? : Toml.Value → Option Dialect
  | .string s =>
    if s = "legacy".toList then some .legacy else if s = "corrected".toList then some .corrected else none
  | _ => none

def boolean? : Toml.Value → Option Bool
  | .boolean b => some b
  | _ => none

def dialectSetting : Setting Dialect := ⟨"converter", "dialect", dialect?, (·.dialect)⟩

def footerSetting : Setting Text := ⟨"issue", "footer", Toml.Value.string?, (·.footer)⟩

def tablesSetting : Setting Bool := ⟨"preview", "tables", boolean?, (·.extensions.tables)⟩

def strikethroughSetting : Setting Bool := ⟨"preview", "strikethrough", boolean?, (·.extensions.strikethrough)⟩

namespace Setting

variable {α : Type}

def said? (x : Setting α) (t : Toml.Table) : Option Toml.Value := setting? t x.sectionName x.name

def value (x : Setting α) (t : Toml.Table) : α := ((x.said? t).bind x.read?).getD (x.get compiledDefault)

def after (x : Setting α) : Toml.Value → α → α
  | .table entries, a => ((Toml.Table.get? entries x.name).bind x.read?).getD a
  | _, a => a

def WellFormed (x : Setting α) (t : Toml.Table) : Prop := ∀ v ∈ x.said? t, (x.read? v).isSome

instance (x : Setting α) (t : Toml.Table) : Decidable (x.WellFormed t) :=
  inferInstanceAs (Decidable (∀ v ∈ x.said? t, (x.read? v).isSome))

/-- Only one field of one section sets the setting, and to what the value says. -/
structure SetBy (x : Setting α) (fields : List Field) (expected : Expectation) : Prop where
  mem_sections : ⟨x.sectionName, readSection fields expected⟩ ∈ sections
  of_name_eq : ∀ field ∈ sections, field.name = x.sectionName → field = ⟨x.sectionName, readSection fields expected⟩
  sections_keep : ∀ field ∈ sections, field.name ≠ x.sectionName → field.Keeps x.get
  mem_fields : ∃ field ∈ fields, field.name = x.name
  fields_keep : ∀ field ∈ fields, field.name ≠ x.name → field.Keeps x.get
  sets : ∀ field ∈ fields, field.name = x.name → ∀ v a, x.read? v = some a →
    ∀ s p, ∃ s', field.set s p v = .ok s' ∧ x.get s' = a
  refuses : ∀ field ∈ fields, field.name = x.name → ∀ n, field.Refuses (.integer n)
  inRange : ∀ v a, x.read? v = some a → InRange v

end Setting

/-! ## Fields -/

section
variable {α β : Type} {get : Settings → α} {name : String} {f : Settings → β → Settings}
  {read : Toml.Position → Toml.Value → Except Fault β}

theorem keeps_of_map (h : ∀ s b, get (f s b) = get s) : Field.Keeps get ⟨name, fun s p v => f s <$> read p v⟩ := by
  intro s p v s' hset
  obtain ⟨b, -, rfl⟩ := map_eq_ok.mp hset
  exact h s b

theorem refuses_of_map {v : Toml.Value} (h : ∀ p b, read p v ≠ .ok b) :
    Field.Refuses ⟨name, fun s p v => f s <$> read p v⟩ v := by
  intro s p s' hset
  obtain ⟨b, hread, -⟩ := map_eq_ok.mp hset
  exact h p b hread

theorem sets_of_map {get : Settings → β} {read? : Toml.Value → Option β}
    (hread : ∀ {v b}, read? v = some b → ∀ p, read p v = .ok b) (hget : ∀ s b, get (f s b) = b) (v : Toml.Value)
    (b : β) (h : read? v = some b) (s : Settings) (p : Toml.Position) :
    ∃ s', (⟨name, fun s p v => f s <$> read p v⟩ : Field).set s p v = .ok s' ∧ get s' = b :=
  ⟨f s b, by simp only [hread h p]; rfl, hget s b⟩

end

section
variable {v : Toml.Value}

theorem eq_string_of_dialect? {d : Dialect} (h : dialect? v = some d) :
    ∃ s, v = .string s ∧ ∀ p, dialectNamed s p = .ok d := by
  cases v with
  | string s =>
    refine ⟨s, rfl, fun p => ?_⟩
    rw [dialect?] at h
    rw [dialectNamed]
    split at h
    · next hlegacy => rw [if_pos hlegacy, Option.some.inj h]
    · next hlegacy =>
      split at h
      · next hcorrected => rw [if_neg hlegacy, if_pos hcorrected, Option.some.inj h]
      · cases h
  | integer | float | boolean | dateTime | array | table => cases h

theorem eq_string_of_string? {t : Text} (h : v.string? = some t) : v = .string t := by
  cases v with
  | string => rw [Option.some.inj h]
  | integer | float | boolean | dateTime | array | table => cases h

theorem eq_boolean_of_boolean? {b : Bool} (h : boolean? v = some b) : v = .boolean b := by
  cases v with
  | boolean => rw [Option.some.inj h]
  | string | integer | float | dateTime | array | table => cases h

theorem inRange_string (s : Text) : InRange (.string s) := (inRange_iff_of_isScalar rfl).mpr rfl

theorem inRange_boolean (b : Bool) : InRange (.boolean b) := (inRange_iff_of_isScalar rfl).mpr rfl

theorem readDialect_of_dialect? {d : Dialect} (h : dialect? v = some d) (p : Toml.Position) :
    readDialect p v = .ok d := by
  obtain ⟨s, rfl, hs⟩ := eq_string_of_dialect? h
  exact hs p

theorem readString_of_string? {t : Text} (h : v.string? = some t) (p : Toml.Position) : readString p v = .ok t := by
  rw [eq_string_of_string? h]
  rfl

theorem readBoolean_of_boolean? {b : Bool} (h : boolean? v = some b) (p : Toml.Position) :
    readBoolean p v = .ok b := by
  rw [eq_boolean_of_boolean? h]
  rfl

end

theorem dialectSetting_setBy : dialectSetting.SetBy [dialectField] .converterSection where
  mem_sections := by simp [sections, dialectSetting]
  of_name_eq := by simp [sections, dialectSetting]
  sections_keep := by
    simp [sections, dialectSetting, keeps_readSection, footerField, tablesField, strikethroughField, keeps_of_map]
  mem_fields := by simp [dialectSetting, dialectField]
  fields_keep := by simp [dialectSetting, dialectField]
  sets := List.forall_mem_singleton.mpr fun _ => sets_of_map readDialect_of_dialect? fun _ _ => rfl
  refuses := List.forall_mem_singleton.mpr fun _ n => refuses_of_map fun _ _ => nofun
  inRange v d h := by
    obtain ⟨s, rfl, -⟩ := eq_string_of_dialect? h
    exact inRange_string s

theorem footerSetting_setBy : footerSetting.SetBy [footerField] .issueSection where
  mem_sections := by simp [sections, footerSetting]
  of_name_eq := by simp [sections, footerSetting]
  sections_keep := by
    simp [sections, footerSetting, keeps_readSection, dialectField, tablesField, strikethroughField, keeps_of_map]
  mem_fields := by simp [footerSetting, footerField]
  fields_keep := by simp [footerSetting, footerField]
  sets := List.forall_mem_singleton.mpr fun _ => sets_of_map readString_of_string? fun _ _ => rfl
  refuses := List.forall_mem_singleton.mpr fun _ n => refuses_of_map fun p => mismatch_ne_ok _ p _
  inRange v t h := eq_string_of_string? h ▸ inRange_string t

theorem tablesSetting_setBy : tablesSetting.SetBy [tablesField, strikethroughField] .previewSection where
  mem_sections := by simp [sections, tablesSetting]
  of_name_eq := by simp [sections, tablesSetting]
  sections_keep := by simp [sections, tablesSetting, keeps_readSection, dialectField, footerField, keeps_of_map]
  mem_fields := by simp [tablesSetting, tablesField]
  fields_keep := by simp [tablesSetting, tablesField, strikethroughField, keeps_of_map]
  sets := List.forall_mem_cons.mpr ⟨fun _ => sets_of_map readBoolean_of_boolean? fun _ _ => rfl,
    List.forall_mem_singleton.mpr fun h => absurd h (by decide)⟩
  refuses := List.forall_mem_cons.mpr ⟨fun _ n => refuses_of_map fun p => mismatch_ne_ok _ p _,
    List.forall_mem_singleton.mpr fun h => absurd h (by decide)⟩
  inRange v b h := eq_boolean_of_boolean? h ▸ inRange_boolean b

theorem strikethroughSetting_setBy :
    strikethroughSetting.SetBy [tablesField, strikethroughField] .previewSection where
  mem_sections := by simp [sections, strikethroughSetting]
  of_name_eq := by simp [sections, strikethroughSetting]
  sections_keep := by
    simp [sections, strikethroughSetting, keeps_readSection, dialectField, footerField, keeps_of_map]
  mem_fields := by simp [strikethroughSetting, strikethroughField]
  fields_keep := by simp [strikethroughSetting, tablesField, strikethroughField, keeps_of_map]
  sets := List.forall_mem_cons.mpr ⟨fun h => absurd h (by decide),
    List.forall_mem_singleton.mpr fun _ => sets_of_map readBoolean_of_boolean? fun _ _ => rfl⟩
  refuses := List.forall_mem_cons.mpr ⟨fun h => absurd h (by decide),
    List.forall_mem_singleton.mpr fun _ n => refuses_of_map fun p => mismatch_ne_ok _ p _⟩
  inRange v b h := eq_boolean_of_boolean? h ▸ inRange_boolean b

/-! ## Merging -/

section
variable {α : Type} {x : Setting α} {fields : List Field} {expected : Expectation} {t : Toml.Table}
  {entries : List Toml.Entry} {v : Toml.Value} {s s' : Settings}

theorem ascending_section {name : String} (ht : (Toml.Value.table t).Ordered)
    (h : t.get? name = some (.table entries)) : Ascending entries := by
  obtain ⟨key, p, hmem, -⟩ := Toml.exists_mem_of_get? h
  exact ht entries (.entry hmem .refl)

theorem said?_of_section (h : t.get? x.sectionName = some (.table entries)) :
    x.said? t = Toml.Table.get? entries x.name := by
  rw [Setting.said?, setting?, h]

theorem exists_section_of_said? (h : x.said? t = some v) :
    ∃ entries, t.get? x.sectionName = some (.table entries) ∧ Toml.Table.get? entries x.name = some v := by
  rw [Setting.said?, setting?] at h
  split at h
  · next entries hentries => exact ⟨entries, hentries, h⟩
  · cases h

namespace Setting.SetBy

variable (hx : x.SetBy fields expected)

include hx

theorem checks (hwell : x.WellFormed t) (hsection : t.get? x.sectionName = some (.table entries)) {field : Field}
    (hmem : field ∈ fields) (hname : field.name = x.name) (v : Toml.Value)
    (hv : Toml.Table.get? entries field.name = some v) : field.Checks v := by
  rw [hname, ← said?_of_section hsection] at hv
  obtain ⟨a, ha⟩ := Option.isSome_iff_exists.mp (hwell v hv)
  intro s p
  obtain ⟨s', hset, -⟩ := hx.sets field hmem hname v a ha s p
  exact ⟨fun _ => hx.inRange v a ha, fun _ => ⟨s', hset⟩⟩

theorem get_section (hasc : Ascending entries)
    (hread : ∀ v, Toml.Table.get? entries x.name = some v → (x.read? v).isSome)
    (h : setEntries fields s entries = .ok s') :
    x.get s' = ((Toml.Table.get? entries x.name).bind x.read?).getD (x.get s) := by
  have hget := get_setEntries (g := fun v a => (x.read? v).getD a) hasc hx.mem_fields hx.fields_keep
    (fun v hv field hmem hname s p s' hset => ?_) h
  · rw [hget]
    cases Toml.Table.get? entries x.name with
    | none => rfl
    | some v => rfl
  · obtain ⟨a, ha⟩ := Option.isSome_iff_exists.mp (hread v hv)
    obtain ⟨s₁, hset₁, hs₁⟩ := hx.sets field hmem hname v a ha s p
    rw [hset] at hset₁
    cases hset₁
    rw [hs₁, ha, Option.getD_some]

theorem get_ofTable (ht : (Toml.Value.table t).Ordered)
    (hsection : ∀ v, t.get? x.sectionName = some v → ∃ entries, v = .table entries) (hwell : x.WellFormed t)
    (h : ofTable t = .ok s) : x.get s = x.value t := by
  -- A section is a field as well, which sets what the entries in it say.
  have hget := get_setEntries (g := x.after) (ht t .refl) ⟨_, hx.mem_sections, rfl⟩ hx.sections_keep
    (fun v hv field hmem hname s p s' hset => ?_) h
  · rw [hget, Setting.value, compiledDefault_eq.1, Setting.said?, setting?]
    cases hv : t.get? x.sectionName with
    | none => rfl
    | some v =>
      obtain ⟨entries, rfl⟩ := hsection v hv
      rfl
  · obtain ⟨entries, rfl⟩ := hsection v hv
    rw [hx.of_name_eq field hmem hname] at hset
    refine hx.get_section (ascending_section ht hv) (fun w hw => ?_) hset
    have hsaid : x.said? t = some w := by rw [said?_of_section hv, hw]
    exact hwell w hsaid

theorem ofTable_ne_ok {n : Int} (h : x.said? t = some (.integer n)) (s : Settings) : ofTable t ≠ .ok s := by
  obtain ⟨entries, hsection, hentry⟩ := exists_section_of_said? h
  obtain ⟨key, p, hmem, hkey⟩ := Toml.exists_mem_of_get? hsection
  obtain ⟨key', p', hmem', hkey'⟩ := Toml.exists_mem_of_get? hentry
  refine setEntries_ne_ok hmem (fun s s' => ?_) _ s
  obtain ⟨field, hfield, hname, hset⟩ | ⟨hunknown, -⟩ := setEntry_cases sections key
  · rw [hset, hx.of_name_eq field hfield (String.toList_inj.mp (hname.trans hkey))]
    refine setEntries_ne_ok hmem' (fun s s' => ?_) s s'
    obtain ⟨field', hfield', hname', hset'⟩ | ⟨hunknown', -⟩ := setEntry_cases fields key'
    · rw [hset']
      exact hx.refuses field' hfield' (String.toList_inj.mp (hname'.trans hkey')) n s p' s'
    · obtain ⟨field', hfield', hname'⟩ := hx.mem_fields
      exact absurd (hname' ▸ hkey'.symm) (hunknown' field' hfield')
  · exact absurd hkey.symm (hunknown _ hx.mem_sections)

end Setting.SetBy

/-- Sections are tables, and what they say of settings can be read. -/
structure WellFormed (t : Toml.Table) : Prop where
  sections : ∀ name ∈ ["converter", "issue", "preview"], ∀ v ∈ t.get? name, ∃ entries, v = .table entries
  dialect : dialectSetting.WellFormed t
  footer : footerSetting.WellFormed t
  tables : tablesSetting.WellFormed t
  strikethrough : strikethroughSetting.WellFormed t

instance (v : Toml.Value) : Decidable (∃ entries, v = .table entries) :=
  match v with
  | .table entries => isTrue ⟨entries, rfl⟩
  | .string _ => isFalse nofun
  | .integer _ => isFalse nofun
  | .float _ _ => isFalse nofun
  | .boolean _ => isFalse nofun
  | .dateTime => isFalse nofun
  | .array _ => isFalse nofun

theorem wellFormed_iff (t : Toml.Table) : WellFormed t ↔
    (∀ name ∈ ["converter", "issue", "preview"], ∀ v ∈ t.get? name, ∃ entries, v = .table entries) ∧
      dialectSetting.WellFormed t ∧ footerSetting.WellFormed t ∧ tablesSetting.WellFormed t ∧
      strikethroughSetting.WellFormed t :=
  ⟨fun ⟨h, hd, hf, ht, hs⟩ => ⟨h, hd, hf, ht, hs⟩, fun ⟨h, hd, hf, ht, hs⟩ => ⟨h, hd, hf, ht, hs⟩⟩

instance (t : Toml.Table) : Decidable (WellFormed t) := decidable_of_iff _ (wellFormed_iff t).symm

/-- What a table says of each setting, and the default where it says nothing. -/
def merged (t : Toml.Table) : Settings :=
  ⟨dialectSetting.value t, footerSetting.value t, ⟨tablesSetting.value t, strikethroughSetting.value t⟩⟩

theorem Setting.value_of_unsaid {α : Type} {x : Setting α} {t : Toml.Table} (h : x.said? t = none) :
    x.value t = x.get compiledDefault := by
  rw [value, h, Option.bind_none, Option.getD_none]

theorem checks_section {name : String} (hasc : Ascending entries)
    (hfields : ∀ field ∈ fields, ∀ v, Toml.Table.get? entries field.name = some v → field.Checks v) :
    Field.Checks ⟨name, readSection fields expected⟩ (.table entries) :=
  fun s _ => setEntries_ok_iff hasc hfields s

theorem WellFormed.checks (ht : (Toml.Value.table t).Ordered) (hwell : WellFormed t) :
    ∀ field ∈ Settings.sections, ∀ v, t.get? field.name = some v → field.Checks v := by
  -- One case for each section, and in it one for each of its fields.
  simp only [Settings.sections, List.forall_mem_cons]
  refine ⟨fun v hv => ?_, fun v hv => ?_, fun v hv => ?_, nofun⟩
  · obtain ⟨entries, rfl⟩ := hwell.sections _ (by simp) v hv
    refine checks_section (ascending_section ht hv) (List.forall_mem_singleton.mpr ?_)
    exact dialectSetting_setBy.checks hwell.dialect hv List.mem_cons_self rfl
  · obtain ⟨entries, rfl⟩ := hwell.sections _ (by simp) v hv
    refine checks_section (ascending_section ht hv) (List.forall_mem_singleton.mpr ?_)
    exact footerSetting_setBy.checks hwell.footer hv List.mem_cons_self rfl
  · obtain ⟨entries, rfl⟩ := hwell.sections _ (by simp) v hv
    refine checks_section (ascending_section ht hv) (List.forall_mem_cons.mpr ⟨?_, List.forall_mem_singleton.mpr ?_⟩)
    · exact tablesSetting_setBy.checks hwell.tables hv List.mem_cons_self rfl
    · exact strikethroughSetting_setBy.checks hwell.strikethrough hv (List.mem_cons_of_mem _ List.mem_cons_self) rfl

theorem ofTable_ok_iff (ht : (Toml.Value.table t).Ordered) (hwell : WellFormed t) :
    (∃ s, ofTable t = .ok s) ↔ InRange (.table t) :=
  setEntries_ok_iff (ht t .refl) (hwell.checks ht) default

theorem eq_merged_of_ofTable (ht : (Toml.Value.table t).Ordered) (hwell : WellFormed t) (h : ofTable t = .ok s) :
    s = merged t := by
  have hdialect := dialectSetting_setBy.get_ofTable ht (hwell.sections _ (by simp [dialectSetting])) hwell.dialect h
  have hfooter := footerSetting_setBy.get_ofTable ht (hwell.sections _ (by simp [footerSetting])) hwell.footer h
  have htables := tablesSetting_setBy.get_ofTable ht (hwell.sections _ (by simp [tablesSetting])) hwell.tables h
  have hstrikethrough := strikethroughSetting_setBy.get_ofTable ht
    (hwell.sections _ (by simp [strikethroughSetting])) hwell.strikethrough h
  rw [merged, ← hdialect, ← hfooter, ← htables, ← hstrikethrough]
  rfl

end

/-! ## Files -/

section
variable {bytes : ByteArray} {document : Text} {t : Toml.Table}

theorem load_of_parse (hbytes : decodeUtf8 bytes = .ok document) (hparse : Toml.parse document = .ok t) :
    load (.ok bytes) = (ofTable t).mapError fun fault => .malformed document (.setting fault) := by
  rw [load_bytes, hbytes]
  show ofDocument document = _
  rw [ofDocument, hparse]
  rfl

theorem load_eq_error_of_ofTable (hbytes : decodeUtf8 bytes = .ok document) (hparse : Toml.parse document = .ok t)
    (h : ∀ s, ofTable t ≠ .ok s) : ∃ fault, load (.ok bytes) = .error (.malformed document (.setting fault)) := by
  rw [load_of_parse hbytes hparse]
  cases hs : ofTable t with
  | error fault => exact ⟨fault, rfl⟩
  | ok s => exact absurd hs (h s)

theorem load_eq_error_of_not_inRange (hbytes : decodeUtf8 bytes = .ok document)
    (hparse : Toml.parse document = .ok t) (hwell : WellFormed t) (hrange : ¬ InRange (.table t)) :
    ∃ fault, load (.ok bytes) = .error (.malformed document (.setting fault)) :=
  load_eq_error_of_ofTable hbytes hparse fun s hs =>
    hrange ((ofTable_ok_iff (Toml.ordered_of_parse hparse) hwell).mp ⟨s, hs⟩)

/-- Settings are merged one by one, and the command line has the last word on the dialect. A number
that is out of range is no value, and the file is refused for it. -/
theorem load_merges (hbytes : decodeUtf8 bytes = .ok document) (hparse : Toml.parse document = .ok t) :
    (WellFormed t → InRange (.table t) → load (.ok bytes) = .ok (merged t) ∧
      ∀ (F : Type) [FileSystem F] (machine : Machine F) (wording : Wording) (spec : Option Text)
        (args : List Text) (o : Options) (markup : Text), Options.parse args = .ok o →
        machine.readFile o.settings = .ok bytes → readText (machine.markup o.input) = .ok markup →
        ∃ lines, machine.run wording spec args = Machine.conclude wording ((machine.deliver
          (render o { merged t with dialect := o.dialect.getD (merged t).dialect } markup)
          o.output).map id (·.withLog lines))) ∧
      (WellFormed t → ¬ InRange (.table t) →
        ∃ fault, load (.ok bytes) = .error (.malformed document (.setting fault))) ∧
      ∀ n, some (.integer n) ∈ [dialectSetting.said? t, footerSetting.said? t, tablesSetting.said? t,
        strikethroughSetting.said? t] →
        ∃ fault, load (.ok bytes) = .error (.malformed document (.setting fault)) := by
  have hord := Toml.ordered_of_parse hparse
  refine ⟨fun hwell hrange => ?_, load_eq_error_of_not_inRange hbytes hparse, fun n hn => ?_⟩
  · obtain ⟨s, hs⟩ := (ofTable_ok_iff hord hwell).mpr hrange
    have hload : load (.ok bytes) = .ok (merged t) := by
      rw [load_of_parse hbytes hparse, hs, eq_merged_of_ofTable hord hwell hs]
      rfl
    refine ⟨hload, fun F _ machine wording spec args o markup hargs hfile hmarkup => ?_⟩
    obtain ⟨lines, hrun⟩ := run_eq machine hargs wording spec
    rw [Machine.outcome_of_read (settingsRead_iff.mpr (hfile ▸ hload)) hmarkup] at hrun
    exact ⟨lines, hrun⟩
  · refine load_eq_error_of_ofTable hbytes hparse ?_
    simp only [List.mem_cons, List.not_mem_nil, or_false] at hn
    obtain hn | hn | hn | hn := hn
    · exact dialectSetting_setBy.ofTable_ne_ok hn.symm
    · exact footerSetting_setBy.ofTable_ne_ok hn.symm
    · exact tablesSetting_setBy.ofTable_ne_ok hn.symm
    · exact strikethroughSetting_setBy.ofTable_ne_ok hn.symm

end

theorem parse_eq_of_isOk {document : Text} (h : (Toml.parse document).isOk) :
    Toml.parse document = .ok ((Toml.parse document).toOption.getD []) := by
  cases hparse : Toml.parse document with
  | ok t => rfl
  | error fault =>
    rw [hparse] at h
    cases h

def sparseDocument : Text := "preview.tables = false\nx = [1]\n[converter]\ndialect = \"corrected\"\n".toList

def sparseTable : Toml.Table := (Toml.parse sparseDocument).toOption.getD []

theorem merged_sparseTable : merged sparseTable = ⟨.corrected, compiledDefault.footer, ⟨false, true⟩⟩ := by
  have hdialect : dialectSetting.value sparseTable = .corrected := by decide +kernel
  have hfooter : footerSetting.value sparseTable = compiledDefault.footer := by
    have hget (s : Settings) : footerSetting.get s = s.footer := rfl
    rw [Setting.value_of_unsaid (Option.isNone_iff_eq_none.mp (by decide +kernel)), hget]
  have htables : tablesSetting.value sparseTable = false := by decide +kernel
  have hstrikethrough : strikethroughSetting.value sparseTable = true := by
    rw [Setting.value_of_unsaid (Option.isNone_iff_eq_none.mp (by decide +kernel)), compiledDefault_eq.1]
    rfl
  rw [merged, hdialect, hfooter, htables, hstrikethrough]

theorem load_merges_sparse :
    let machine : Machine Directory := ⟨.ofEntries [("jira2md.toml".toList, .file (encodeUtf8 sparseDocument))],
      .ok (encodeUtf8 "h1.T".toList), .empty, [], ""⟩
    load (.ok (encodeUtf8 sparseDocument)) = .ok ⟨.corrected, compiledDefault.footer, ⟨false, true⟩⟩ ∧
      ∃ lines, machine.run .plain none ["--dialect".toList, "legacy".toList] =
        (.success, { machine with
          output := ⟨machine.output.taken ++ encodeUtf8 (shown (Dialect.legacy.convert "h1.T".toList)), none⟩ }.withLog lines) := by
  intro machine
  have hargs : Options.parse ["--dialect".toList, "legacy".toList] =
      .ok ⟨none, none, "jira2md.toml".toList, some .legacy, none, false, false⟩ := rfl
  have hfile : machine.readFile "jira2md.toml".toList = .ok (encodeUtf8 sparseDocument) := by decide +kernel
  have hmarkup : readText (machine.markup none) = .ok "h1.T".toList := by
    show decodeUtf8 (encodeUtf8 "h1.T".toList) = _
    exact decodeUtf8_encodeUtf8 _
  have hparse : Toml.parse sparseDocument = .ok sparseTable := parse_eq_of_isOk (by decide +kernel)
  obtain ⟨hmerges, -⟩ := load_merges (decodeUtf8_encodeUtf8 sparseDocument) hparse
  obtain ⟨hload, hruns⟩ := hmerges (by decide +kernel) (by decide +kernel)
  rw [merged_sparseTable] at hload hruns
  obtain ⟨lines, hrun⟩ := hruns Directory machine .plain none _ _ _ hargs hfile hmarkup
  exact ⟨hload, lines, hrun⟩

def overflowDocument : Text := "x = 1e400\n".toList

theorem load_refuses_overflow : ∃ t fault, Toml.parse overflowDocument = .ok t ∧ WellFormed t ∧
    load (.ok (encodeUtf8 overflowDocument)) = .error (.malformed overflowDocument (.setting fault)) := by
  have hparse : Toml.parse overflowDocument = .ok ((Toml.parse overflowDocument).toOption.getD []) :=
    parse_eq_of_isOk (by decide +kernel)
  have hwell : WellFormed ((Toml.parse overflowDocument).toOption.getD []) := by decide +kernel
  have hrange : ¬ InRange (.table ((Toml.parse overflowDocument).toOption.getD [])) := by decide +kernel
  obtain ⟨fault, hload⟩ :=
    load_eq_error_of_not_inRange (decodeUtf8_encodeUtf8 overflowDocument) hparse hwell hrange
  exact ⟨_, fault, hparse, hwell, hload⟩

end JiraMarkup.Settings
