import JiraMarkup.Proofs.Runs

/-!
# Outcomes of runs

A run fails exactly if something is at fault: the settings, the markup, or the
file or the stream to be written. It names the first of them and leaves the
files as they were; only a stream that fails may have shown the front of what
was to come. Otherwise one text is written to one place, which may be where it
was read from.
-/

namespace JiraMarkup

open Program

/-! ## What is read -/

inductive SettingsFault : Except FileError ByteArray → Settings.LoadError → Prop
  | unread {e : FileError} : e ≠ .notFound → SettingsFault (.error e) (.unreadable (.file e))
  | notText {bytes : ByteArray} {e : ReadError} :
      decodeUtf8 bytes = .error e → SettingsFault (.ok bytes) (.unreadable e)
  | notSettings {bytes : ByteArray} {t : Text} {e : Settings.LoadError} :
      decodeUtf8 bytes = .ok t → Settings.ofDocument t = .error e → SettingsFault (.ok bytes) e

inductive SettingsRead : Except FileError ByteArray → Settings → Prop
  | missing : SettingsRead (.error .notFound) Settings.default
  | document {bytes : ByteArray} {t : Text} {s : Settings} :
      decodeUtf8 bytes = .ok t → Settings.ofDocument t = .ok s → SettingsRead (.ok bytes) s

theorem load_error_of_ne {e : FileError} (h : e ≠ .notFound) :
    Settings.load (.error e) = .error (.unreadable (.file e)) := by
  cases e with
  | notFound => exact absurd rfl h
  | denied | notDirectory | isDirectory | nameTooLong | other => rfl

theorem load_bytes (bytes : ByteArray) : Settings.load (.ok bytes) =
    (match decodeUtf8 bytes with
    | .ok t => Settings.ofDocument t
    | .error e => .error (.unreadable e)) := by
  have hload : Settings.load (.ok bytes) =
      ((decodeUtf8 bytes).mapError .unreadable >>= Settings.ofDocument) := rfl
  rw [hload]
  cases decodeUtf8 bytes with
  | ok t => rfl
  | error e => rfl

theorem load_cases (contents : Except FileError ByteArray) :
    (∃ e, SettingsFault contents e ∧ Settings.load contents = .error e) ∨
      ∃ s, SettingsRead contents s ∧ Settings.load contents = .ok s := by
  cases contents with
  | error cause =>
    by_cases hcause : cause = .notFound
    · subst hcause
      exact .inr ⟨_, .missing, rfl⟩
    · exact .inl ⟨_, .unread hcause, load_error_of_ne hcause⟩
  | ok bytes =>
    rw [load_bytes]
    cases ht : decodeUtf8 bytes with
    | error cause => exact .inl ⟨_, .notText ht, rfl⟩
    | ok t =>
      cases hs : Settings.ofDocument t with
      | error e => exact .inl ⟨e, .notSettings ht hs, hs⟩
      | ok s => exact .inr ⟨s, .document ht hs, hs⟩

theorem settingsFault_iff {contents : Except FileError ByteArray} {e : Settings.LoadError} :
    SettingsFault contents e ↔ Settings.load contents = .error e := by
  constructor
  · intro h
    cases h with
    | unread h => exact load_error_of_ne h
    | notText h => rw [load_bytes, h]
    | notSettings ht hs => rw [load_bytes, ht]; exact hs
  · intro h
    obtain ⟨e', hfault, hload⟩ | ⟨s, -, hload⟩ := load_cases contents
    · rw [hload] at h
      cases h
      exact hfault
    · rw [hload] at h
      cases h

theorem settingsRead_iff {contents : Except FileError ByteArray} {s : Settings} :
    SettingsRead contents s ↔ Settings.load contents = .ok s := by
  constructor
  · intro h
    cases h with
    | missing => rfl
    | document ht hs => rw [load_bytes, ht]; exact hs
  · intro h
    obtain ⟨e, -, hload⟩ | ⟨s', hread, hload⟩ := load_cases contents
    · rw [hload] at h
      cases h
    · rw [hload] at h
      cases h
      exact hread

/-! ## Faults -/

section
variable {F : Type} [FileSystem F]

/-- The first fault on the way of a run, with all in front of it in order, and what has been shown by then. -/
inductive FirstFault (machine : Machine F) (o : Options) : Failure → ByteArray → Prop
  | settings {e : Settings.LoadError} : SettingsFault (machine.readFile o.settings) e →
      FirstFault machine o (.settings o.settings e) .empty
  | input {s : Settings} {e : ReadError} : SettingsRead (machine.readFile o.settings) s →
      readText (machine.markup o.input) = .error e → FirstFault machine o (.input o.input e) .empty
  | file {s : Settings} {t : Text} {path : Path} {e : FileError} :
      SettingsRead (machine.readFile o.settings) s → readText (machine.markup o.input) = .ok t →
      o.output = some path →
      FileSystem.write machine.files path (encodeUtf8 (render o (settingsFor o s) t)) = .error e →
      FirstFault machine o (.output (some path) e) .empty
  | stream {s : Settings} {t : Text} {room : Nat} {e : FileError} :
      SettingsRead (machine.readFile o.settings) s → readText (machine.markup o.input) = .ok t →
      o.output = none → machine.output.limit = some (room, e) →
      room < (encodeUtf8 (shown (render o (settingsFor o s) t))).size →
      FirstFault machine o (.output none e) ((encodeUtf8 (shown (render o (settingsFor o s) t))).extract 0 room)

variable {machine machine' : Machine F} {o : Options}

/-- A run has read all that it reads when it comes to deliver anything. -/
theorem Machine.outcome_of_read {s : Settings} {t : Text} (hs : SettingsRead (machine.readFile o.settings) s)
    (ht : readText (machine.markup o.input) = .ok t) :
    machine.outcome o = machine.deliver (render o (settingsFor o s) t) o.output := by
  rw [outcome, source, settingsRead_iff.mp hs, ht]
  rfl

theorem FirstFault.outcome_eq {e : Failure} {front : ByteArray} (h : FirstFault machine o e front) :
    ∃ output, machine.outcome o = (.error e, { machine with output }) ∧
      output.taken = machine.output.taken ++ front := by
  cases h with
  | settings h =>
    refine ⟨machine.output, ?_, ByteArray.append_empty.symm⟩
    rw [Machine.outcome, Machine.source, settingsFault_iff.mp h]
    rfl
  | input hs ht =>
    refine ⟨machine.output, ?_, ByteArray.append_empty.symm⟩
    rw [Machine.outcome, Machine.source, settingsRead_iff.mp hs, ht]
    rfl
  | file hs ht hpath hwrite =>
    refine ⟨machine.output, ?_, ByteArray.append_empty.symm⟩
    rw [Machine.outcome_of_read hs ht, hpath, Machine.deliver, Machine.writeFile, hwrite]
    rfl
  | stream hs ht hnone hlimit hroom =>
    obtain ⟨output, hwrite, htaken⟩ := Sink.write_of_limit hlimit hroom
    refine ⟨output, ?_, htaken⟩
    rw [Machine.outcome_of_read hs ht, hnone, Machine.deliver, Machine.writeOutput, hwrite]
    rfl

end

/-! ## What is written -/

section
variable {F : Type} [FileSystem F] [LawfulFileSystem F]

open LawfulFileSystem

def Holds (files : F) (path : Path) (bytes : ByteArray) : Prop :=
  ∃ place, place? files path = some place ∧ contents? files place = some bytes

/-- A text is shown with its last line ended, or is all that a file holds afterwards. -/
inductive Delivered (before after : Machine F) (t : Text) : Option Path → Prop
  | shown : after.files = before.files → after.output.taken = before.output.taken ++ encodeUtf8 (shown t) →
      Delivered before after t none
  | written {path : Path} {place : Place F} : place? before.files path = some place →
      Replaced before.files after.files place (encodeUtf8 t) → after.output = before.output →
      Delivered before after t (some path)

variable {machine machine' : Machine F} {o : Options}

theorem Delivered.withLog {t : Text} {output : Option Path} (h : Delivered machine machine' t output)
    (lines : List String) : Delivered machine (machine'.withLog lines) t output := by
  cases h with
  | shown hfiles houtput => exact .shown hfiles houtput
  | written hplace hreplaced houtput => exact .written hplace hreplaced houtput

theorem Machine.outcome_cases (machine : Machine F) (o : Options) :
    (∃ e front, FirstFault machine o e front) ∨ ∃ s t machine', SettingsRead (machine.readFile o.settings) s ∧
      readText (machine.markup o.input) = .ok t ∧ machine.outcome o = (.ok (), machine') ∧
      Delivered machine machine' (render o (settingsFor o s) t) o.output := by
  obtain ⟨e, hs, -⟩ | ⟨s, hs, -⟩ := load_cases (machine.readFile o.settings)
  · exact .inl ⟨_, _, .settings hs⟩
  · cases ht : readText (machine.markup o.input) with
    | error e => exact .inl ⟨_, _, .input hs ht⟩
    | ok t =>
      rw [outcome_of_read hs ht]
      cases houtput : o.output with
      | none =>
        obtain ⟨room, e, hlimit, hroom⟩ | ⟨output, hwrite, htaken⟩ :=
          Sink.write_cases machine.output (encodeUtf8 (shown (render o (settingsFor o s) t)))
        · exact .inl ⟨_, _, .stream hs ht houtput hlimit hroom⟩
        · refine .inr ⟨s, t, { machine with output }, hs, rfl, ?_, .shown rfl htaken⟩
          rw [deliver, writeOutput, hwrite]
          rfl
      | some path =>
        cases hwrite : FileSystem.write machine.files path (encodeUtf8 (render o (settingsFor o s) t)) with
        | error e => exact .inl ⟨_, _, .file hs ht houtput hwrite⟩
        | ok files =>
          obtain ⟨place, hplace, hreplaced⟩ := replaced_of_write hwrite
          refine .inr ⟨s, t, { machine with files }, hs, rfl, ?_, .written hplace hreplaced rfl⟩
          rw [deliver, writeFile, hwrite]
          rfl

theorem holds_of_readText {path : Path} {t : Text} (h : readText (machine.readFile path) = .ok t) :
    ∃ bytes, Holds machine.files path bytes ∧ decodeUtf8 bytes = .ok t := by
  cases hread : machine.readFile path with
  | error e =>
    rw [hread] at h
    cases h
  | ok bytes =>
    rw [hread] at h
    obtain ⟨place, hplace, hcontents, -⟩ := read_eq_ok_iff.mp hread
    exact ⟨bytes, ⟨place, hplace, hcontents⟩, h⟩

/-- A run fails exactly if something is at fault, with the first such thing and with all files as they were;
otherwise it delivers what it makes of the files as they were. -/
theorem run_all_or_nothing {args : List Text} {o : Options} (hargs : Options.parse args = .ok o)
    (machine : Machine F) (wording : Settings.Wording) (spec : Option Text) :
    ((machine.run wording spec args).1 = .failure ↔ ∃ e front, FirstFault machine o e front) ∧
      (∀ e front, FirstFault machine o e front → (machine.run wording spec args).2.files = machine.files ∧
        (machine.run wording spec args).2.output.taken = machine.output.taken ++ front ∧
        (machine.run wording spec args).2.complaints =
          machine.complaints ++ ("Error: " ++ e.message wording ++ "\n")) ∧
      ((¬ ∃ e front, FirstFault machine o e front) → (machine.run wording spec args).1 = .success ∧
        ∃ s t, SettingsRead (machine.readFile o.settings) s ∧ readText (machine.markup o.input) = .ok t ∧
          (∀ path, o.input = some path → ∃ bytes, Holds machine.files path bytes ∧ decodeUtf8 bytes = .ok t) ∧
          Delivered machine (machine.run wording spec args).2 (render o (settingsFor o s) t) o.output) := by
  obtain ⟨lines, hrun⟩ := run_eq machine hargs wording spec
  rw [hrun]
  refine ⟨⟨fun hfails => ?_, ?_⟩, fun e front hfault => ?_, fun hfaultless => ?_⟩
  · obtain hfault | ⟨s, t, machine', -, -, houtcome, -⟩ := Machine.outcome_cases machine o
    · exact hfault
    · rw [houtcome] at hfails
      cases hfails
  · rintro ⟨e, front, hfault⟩
    obtain ⟨output, houtcome, -⟩ := hfault.outcome_eq
    rw [houtcome]
    rfl
  · obtain ⟨output, houtcome, htaken⟩ := hfault.outcome_eq
    rw [houtcome]
    exact ⟨rfl, htaken, rfl⟩
  · obtain hfault | ⟨s, t, machine', hs, ht, houtcome, hdelivered⟩ := Machine.outcome_cases machine o
    · exact absurd hfault hfaultless
    · rw [houtcome]
      refine ⟨rfl, s, t, hs, ht, fun path hpath => ?_, hdelivered.withLog lines⟩
      rw [hpath] at ht
      exact holds_of_readText ht

end

/-- A file under one name is rewritten under another, and is read anew under the first. -/
theorem run_all_or_nothing_in_place :
    let machine : Machine Directory := ⟨.ofEntries [("a".toList, .file "h1.T".toUTF8)], .ok .empty, .empty, [], ""⟩
    let args := ["a".toList, "-o".toList, "./a".toList]
    ∃ o, Options.parse args = .ok o ∧ (machine.run .plain none args).1 = .success ∧
      ∃ s t, SettingsRead (machine.readFile o.settings) s ∧ readText (machine.markup o.input) = .ok t ∧
        Delivered machine (machine.run .plain none args).2 (render o (settingsFor o s) t) o.output ∧
        (machine.run .plain none args).2.readFile "a".toList = .ok (encodeUtf8 (render o (settingsFor o s) t)) := by
  intro machine args
  have hargs : Options.parse args = .ok ⟨some "a".toList, some "./a".toList, "jira2md.toml".toList, none, none,
      false, false⟩ := rfl
  have hstatus : (machine.run .plain none args).1 = .success := by decide +kernel
  obtain ⟨hfails, -, hsucceeds⟩ := run_all_or_nothing hargs machine .plain none
  have hfaultless : ¬ ∃ e front, FirstFault machine _ e front := fun h => by
    rw [← hfails, hstatus] at h
    cases h
  obtain ⟨-, s, t, hs, ht, -, hdelivered⟩ := hsucceeds hfaultless
  refine ⟨_, hargs, hstatus, s, t, hs, ht, hdelivered, ?_⟩
  have hplaces : machine.files.fileLocation? "a".toList = machine.files.fileLocation? "./a".toList := by
    decide +kernel
  cases hdelivered with
  | written hplace hreplaced _ => exact hreplaced.reread _ _ (hplaces.trans hplace) rfl

/-- A run fails also where no settings file can be, as nothing can stand under a file, but this is another
error than that it was not found; and where what it shows finds no room. -/
theorem run_fails_without_file_or_room :
    (let machine : Machine Directory := ⟨.ofEntries [("a".toList, .file .empty)], .ok .empty, .empty, [], ""⟩
      let args := ["-c".toList, "a/b".toList]
      ∃ o, Options.parse args = .ok o ∧ machine.files.isPresent o.settings = false ∧
        readText (machine.markup o.input) = .ok [] ∧ o.output = none ∧
        (machine.run .plain none args).1 = .failure) ∧
      (let machine : Machine Directory :=
          ⟨.ofEntries [], .ok .empty, ⟨.empty, some (0, .other 28 "No space left on device")⟩, [], ""⟩
        ∃ o, Options.parse [] = .ok o ∧ machine.files.isPresent o.settings = false ∧
          readText (machine.markup o.input) = .ok [] ∧ o.output = none ∧
          (machine.run .plain none []).1 = .failure) := by
  refine ⟨⟨⟨none, none, "a/b".toList, none, none, false, false⟩, rfl, ?_, rfl, rfl, ?_⟩,
    ⟨⟨none, none, "jira2md.toml".toList, none, none, false, false⟩, rfl, ?_, rfl, rfl, ?_⟩⟩
  · decide +kernel
  · decide +kernel
  · decide +kernel
  · decide +kernel

end JiraMarkup
