import JiraMarkup.Machine
import JiraMarkup.Proofs.FileSystems

/-!
# Runs

A run reads the settings and the markup before it writes anything. What it comes
to is hence known from the machine that it starts on, apart from the lines of its
log: a failure, or one text that is written to one place.
-/

namespace JiraMarkup

open Program

/-! ## Streams -/

theorem extract_append_of_le {a b : ByteArray} {n : Nat} (h : n ≤ a.size) :
    (a ++ b).extract 0 n = a.extract 0 n := by
  have hnone : b.extract (0 - a.size) (n - a.size) = .empty := by
    apply ByteArray.ext
    rw [ByteArray.data_extract]
    exact Array.extract_eq_empty_of_le (by omega)
  rw [ByteArray.extract_append, hnone, ByteArray.append_empty]

theorem extract_append_of_ge {a b : ByteArray} {n : Nat} (h : a.size ≤ n) :
    (a ++ b).extract 0 n = a ++ b.extract 0 (n - a.size) := by
  have hall : a.extract 0 n = a := by
    apply ByteArray.ext
    rw [ByteArray.data_extract, Array.extract_eq_self_of_le h]
  rw [ByteArray.extract_append, hall, Nat.zero_sub]

namespace Sink

variable {s : Sink} {bytes : ByteArray}

/-- It makes no difference to a stream whether bytes come at once or in two parts. -/
theorem write_append (s : Sink) (a b : ByteArray) : s.write (a ++ b) =
    match s.write a with
    | (.ok (), s') => s'.write b
    | (.error e, s') => (.error e, s') := by
  unfold write
  cases s.limit with
  | none => simp only [ByteArray.append_assoc]
  | some limit =>
    obtain ⟨room, e⟩ := limit
    simp only [ByteArray.size_append]
    rcases Nat.lt_or_ge room a.size with hroom | hroom
    · have hall : ¬ a.size + b.size ≤ room := by omega
      rw [if_neg hall, if_neg (Nat.not_le.mpr hroom), extract_append_of_le (Nat.le_of_lt hroom)]
    · have hall : b.size ≤ room - a.size ↔ a.size + b.size ≤ room := by omega
      rw [if_pos hroom, extract_append_of_ge hroom]
      simp only [hall, ByteArray.append_assoc, Nat.sub_sub]

theorem write_of_limit {room : Nat} {e : FileError} (h : s.limit = some (room, e)) (hroom : room < bytes.size) :
    ∃ s', s.write bytes = (.error e, s') ∧ s'.taken = s.taken ++ bytes.extract 0 room := by
  refine ⟨⟨s.taken ++ bytes.extract 0 room, some (0, e)⟩, ?_, rfl⟩
  rw [write, h]
  exact if_neg (Nat.not_le.mpr hroom)

/-- A stream fails if it has too little room, or takes everything. -/
theorem write_cases (s : Sink) (bytes : ByteArray) : (∃ room e, s.limit = some (room, e) ∧ room < bytes.size) ∨
    ∃ s', s.write bytes = (.ok (), s') ∧ s'.taken = s.taken ++ bytes := by
  rw [write]
  cases s.limit with
  | none => exact .inr ⟨_, rfl, rfl⟩
  | some limit =>
    obtain ⟨room, e⟩ := limit
    rcases Nat.lt_or_ge room bytes.size with hroom | hroom
    · exact .inl ⟨room, e, rfl, hroom⟩
    · exact .inr ⟨_, if_pos hroom, rfl⟩

end Sink

/-! ## Texts that are shown -/

/-- A line end follows a text exactly if it ends in none. -/
def shown (t : Text) : Text := if ['\n'] <:+ t then t else t ++ ['\n']

theorem getLast?_eq_newline_iff {t : Text} : t.getLast? = some '\n' ↔ ['\n'] <:+ t := by
  rw [List.getLast?_eq_some_iff]
  constructor
  · rintro ⟨u, rfl⟩
    exact List.suffix_append _ _
  · rintro ⟨u, rfl⟩
    exact ⟨u, rfl⟩

theorem encodeUtf8_append (s t : Text) : encodeUtf8 (s ++ t) = encodeUtf8 s ++ encodeUtf8 t := by
  rw [encodeUtf8, String.ofList_append]
  exact String.toByteArray_append

/-! ## Machines -/

namespace Machine

section
variable {F : Type}

def withLog (machine : Machine F) (lines : List String) : Machine F :=
  { machine with log := machine.log ++ lines }

@[simp] theorem withLog_files (machine : Machine F) (lines : List String) :
    (machine.withLog lines).files = machine.files := rfl

theorem withLog_nil (machine : Machine F) : machine.withLog [] = machine := by
  simp [withLog]

theorem withLog_withLog (machine : Machine F) (lines lines' : List String) :
    (machine.withLog lines).withLog lines' = machine.withLog (lines ++ lines') := by
  simp [withLog]

theorem writeOutput_append (machine : Machine F) (a b : ByteArray) : machine.writeOutput (a ++ b) =
    match machine.writeOutput a with
    | (.ok (), machine') => machine'.writeOutput b
    | (.error e, machine') => (.error e, machine') := by
  simp only [writeOutput, Sink.write_append]
  obtain ⟨result, output⟩ := machine.output.write a
  cases result with
  | ok _ => rfl
  | error e => rfl

section
variable {α : Type} (result : α × Machine F)

theorem map_withLog_nil : result.map id (·.withLog []) = result := by
  simp only [withLog_nil, Prod.map, id]

theorem map_withLog (lines lines' : List String) :
    (result.map id (·.withLog lines)).map id (·.withLog lines') = result.map id (·.withLog (lines ++ lines')) := by
  simp only [Prod.map, withLog_withLog, id]

end

end

variable {F : Type} [FileSystem F]

def markup (machine : Machine F) : Option Path → Except FileError ByteArray
  | some path => machine.readFile path
  | none => machine.input

def source (machine : Machine F) (o : Options) : Except Failure (Settings × Text) := do
  let settings ← (Settings.load (machine.readFile o.settings)).mapError (.settings o.settings)
  return (settings, ← (readText (machine.markup o.input)).mapError (.input o.input))

def deliver (machine : Machine F) (t : Text) : Option Path → Except Failure Unit × Machine F
  | none => (machine.writeOutput (encodeUtf8 (shown t))).map (·.mapError (.output none)) id
  | some path => (machine.writeFile path (encodeUtf8 t)).map (·.mapError (.output (some path))) id

/-- What a run comes to, and what it makes of a machine, apart from what it tells the user. -/
def outcome (machine : Machine F) (o : Options) : Except Failure Unit × Machine F :=
  match machine.source o with
  | .ok (settings, t) => machine.deliver (render o (settingsFor o settings) t) o.output
  | .error e => (.error e, machine)

/-- How a run ends: of a failure the user is told. -/
def conclude (wording : Settings.Wording) : Except Failure Unit × Machine F → Status × Machine F
  | (.ok (), machine) => (.success, machine)
  | (.error e, machine) =>
    (.failure, { machine with complaints := machine.complaints ++ ("Error: " ++ e.message wording ++ "\n") })

theorem markup_withLog (machine : Machine F) (lines : List String) (input : Option Path) :
    (machine.withLog lines).markup input = machine.markup input := by
  cases input with
  | none => rfl
  | some path => rfl

theorem writeFile_withLog (machine : Machine F) (lines : List String) (path : Path) (bytes : ByteArray) :
    (machine.withLog lines).writeFile path bytes = (machine.writeFile path bytes).map id (·.withLog lines) := by
  rw [writeFile, writeFile, withLog_files]
  cases FileSystem.write machine.files path bytes with
  | ok files => rfl
  | error e => rfl

theorem deliver_withLog (machine : Machine F) (lines : List String) (t : Text) (output : Option Path) :
    (machine.withLog lines).deliver t output = (machine.deliver t output).map id (·.withLog lines) := by
  cases output with
  | none => rfl
  | some path => rw [deliver, writeFile_withLog]; rfl

end Machine

/-! ## Steps of a run -/

theorem mapError_ok {ε ε' α : Type} (f : ε → ε') (a : α) : (Except.ok a).mapError f = .ok a := rfl

section
variable {F α β : Type} (machine : Machine F)

theorem bind_run (x : StateM (Machine F) α) (f : α → StateM (Machine F) β) :
    (x >>= f) machine = f (x machine).1 (x machine).2 := rfl

theorem exceptBind_run (x : ExceptT Failure (StateM (Machine F)) α)
    (f : α → ExceptT Failure (StateM (Machine F)) β) : (x >>= f).run machine =
      match x.run machine with
      | (.ok a, machine') => (f a).run machine'
      | (.error e, machine') => (.error e, machine') := by
  have hbind : (x >>= f).run machine = ExceptT.bindCont f (x.run machine).1 (x.run machine).2 := rfl
  rw [hbind]
  obtain ⟨result, machine'⟩ := x.run machine
  cases result with
  | ok a => rfl
  | error e => rfl

theorem lift_run (x : StateM (Machine F) α) :
    (ExceptT.lift x : ExceptT Failure (StateM (Machine F)) α).run machine = (.ok (x machine).1, (x machine).2) := rfl

end

section
variable {F : Type} [FileSystem F] (filter : Log.Filter) (machine : Machine F)

theorem log_run (e : Log.Event) :
    ∃ lines, (log filter e : StateM (Machine F) Unit) machine = ((), machine.withLog lines) := by
  unfold log
  split
  · exact ⟨[e.line], rfl⟩
  · exact ⟨[], by rw [Machine.withLog_nil]; rfl⟩

theorem logAll_run (events : List Log.Event) :
    ∃ lines, (logAll filter events : StateM (Machine F) Unit) machine = ((), machine.withLog lines) := by
  induction events generalizing machine with
  | nil => exact ⟨[], by rw [Machine.withLog_nil]; rfl⟩
  | cons e events ih =>
    obtain ⟨lines, hlog⟩ := log_run filter machine e
    obtain ⟨lines', hrest⟩ := ih (machine.withLog lines)
    refine ⟨lines ++ lines', ?_⟩
    rw [logAll, bind_run, hlog, hrest, Machine.withLog_withLog]

theorem readSettings_run (path : Path) :
    ∃ lines, (readSettings filter path : StateM (Machine F) (Except Failure Settings)) machine =
      ((Settings.load (machine.readFile path)).mapError (.settings path), machine.withLog lines) := by
  have hread : (Host.readFile path : StateM (Machine F) _) machine = (machine.readFile path, machine) := rfl
  rw [readSettings, bind_run, hread]
  cases hcontents : machine.readFile path with
  | ok bytes => exact ⟨[], by rw [Machine.withLog_nil]; rfl⟩
  | error e =>
    cases e with
    | notFound =>
      obtain ⟨lines, hlog⟩ := log_run filter machine (.noSettings path)
      refine ⟨lines, ?_⟩
      simp only [bind_run, hlog]
      rfl
    | denied | notDirectory | isDirectory | nameTooLong | other =>
      exact ⟨[], by rw [Machine.withLog_nil]; rfl⟩

theorem readMarkup_run (input : Option Path) :
    (readMarkup input : StateM (Machine F) (Except Failure Text)) machine =
      ((readText (machine.markup input)).mapError (.input input), machine) := by
  cases input with
  | none => rfl
  | some path => rfl

theorem display_run (t : Text) : (display t : StateM (Machine F) (Except FileError Unit)) machine =
    machine.writeOutput (encodeUtf8 (shown t)) := by
  have hwrite (bytes : ByteArray) : (Host.writeOutput bytes : StateM (Machine F) _) machine =
      machine.writeOutput bytes := rfl
  rw [display, bind_run, hwrite]
  by_cases hlast : ['\n'] <:+ t
  · rw [shown, if_pos hlast]
    obtain ⟨result, machine'⟩ := machine.writeOutput (encodeUtf8 t)
    cases result with
    | error e => rfl
    | ok _ =>
      simp only [getLast?_eq_newline_iff, if_pos hlast]
      rfl
  · rw [shown, if_neg hlast, encodeUtf8_append, Machine.writeOutput_append]
    obtain ⟨result, machine'⟩ := machine.writeOutput (encodeUtf8 t)
    cases result with
    | error e => rfl
    | ok _ =>
      simp only [getLast?_eq_newline_iff, if_neg hlast]
      rfl

theorem deliver_run (t : Text) (output : Option Path) :
    ∃ lines, (deliver filter t output : StateM (Machine F) (Except Failure Unit)) machine =
      (machine.deliver t output).map id (·.withLog lines) := by
  cases output with
  | none =>
    refine ⟨[], ?_⟩
    rw [deliver, bind_run, display_run, Machine.map_withLog_nil]
    rfl
  | some path =>
    have hwrite : (Host.writeFile path (encodeUtf8 t) : StateM (Machine F) _) machine =
        machine.writeFile path (encodeUtf8 t) := rfl
    rw [deliver, bind_run, hwrite, Machine.deliver, Machine.writeFile]
    cases FileSystem.write machine.files path (encodeUtf8 t) with
    | error e => exact ⟨[], by rw [Machine.map_withLog_nil]; rfl⟩
    | ok files =>
      obtain ⟨lines, hlog⟩ := log_run filter { machine with files } (.wrote path)
      refine ⟨lines, ?_⟩
      simp only [bind_run, hlog]
      rfl

/-- Nothing but the log sees a run before its outcome is known. -/
theorem convert_run (o : Options) :
    ∃ lines, (convert filter o : ExceptT Failure (StateM (Machine F)) Unit).run machine =
      (machine.outcome o).map id (·.withLog lines) := by
  obtain ⟨read, hread⟩ := readSettings_run filter machine o.settings
  rw [convert, exceptBind_run, ExceptT.run_mk, hread, Machine.outcome, Machine.source]
  cases hsettings : Settings.load (machine.readFile o.settings) with
  | error e => exact ⟨read, rfl⟩
  | ok s =>
    obtain ⟨chosen, hchosen⟩ := log_run filter (machine.withLog read) (.converting (settingsFor o s).dialect)
    rw [Machine.withLog_withLog] at hchosen
    simp only [mapError_ok, exceptBind_run, lift_run, hchosen, ExceptT.run_mk, readMarkup_run,
      Machine.markup_withLog]
    cases hmarkup : readText (machine.markup o.input) with
    | error e => exact ⟨read ++ chosen, rfl⟩
    | ok t =>
      obtain ⟨staged, hstaged⟩ := logAll_run filter (machine.withLog (read ++ chosen))
        (((settingsFor o s).dialect.records (.ofText t)).map .record)
      rw [Machine.withLog_withLog] at hstaged
      obtain ⟨written, hwritten⟩ := deliver_run filter (machine.withLog (read ++ chosen ++ staged))
        (render o (settingsFor o s) t) o.output
      refine ⟨read ++ chosen ++ staged ++ written, ?_⟩
      simp only [mapError_ok, hstaged, hwritten, Machine.deliver_withLog, Machine.map_withLog]
      rfl

theorem run_eq {args : List Text} {o : Options} (h : Options.parse args = .ok o) (wording : Settings.Wording)
    (spec : Option Text) :
    ∃ lines, machine.run wording spec args =
      Machine.conclude wording ((machine.outcome o).map id (·.withLog lines)) := by
  obtain ⟨lines, hconvert⟩ := convert_run (filterFor spec o) machine o
  refine ⟨lines, ?_⟩
  rw [Machine.run, Program.run, h]
  simp only [bind_run, hconvert]
  obtain ⟨result, machine'⟩ := machine.outcome o
  cases result with
  | ok _ => rfl
  | error e => rfl

end

end JiraMarkup
