import JiraMarkup.Directory

/-!
# Laws of file systems

Files stand in places, and several paths may lead to one place. A write that
succeeds replaces the whole contents of one place and touches no other; one that
fails gives no new state. What is written is what is read afterwards, under any
path that leads there. Directories obey these laws.
-/

namespace JiraMarkup

class LawfulFileSystem (F : Type) [FileSystem F] where
  /-- Where a file may stand. -/
  Place : Type
  /-- The place that a path leads to, whether there is a file or not yet. -/
  place? : F → Path → Option Place
  contents? : F → Place → Option ByteArray
  /-- Whether a file that stands there may be read. -/
  Readable : F → Place → Prop
  read_eq_ok_iff {files : F} {path : Path} {bytes : ByteArray} :
    FileSystem.read files path = .ok bytes ↔ ∃ place, place? files path = some place ∧
      contents? files place = some bytes ∧ Readable files place
  contents_of_write {files files' : F} {path : Path} {bytes : ByteArray} :
    FileSystem.write files path bytes = .ok files' → ∃ place, place? files path = some place ∧
      contents? files' place = some bytes ∧
        ∀ place', place' ≠ place → contents? files' place' = contents? files place'
  place_of_write {files files' : F} {path : Path} {bytes : ByteArray} :
    FileSystem.write files path bytes = .ok files' → ∀ path', place? files' path' = place? files path'
  readable_of_write {files files' : F} {path : Path} {bytes : ByteArray} :
    FileSystem.write files path bytes = .ok files' → ∀ place, (contents? files place).isSome →
      (Readable files' place ↔ Readable files place)

section
variable {F : Type} [FileSystem F] [LawfulFileSystem F] {files files' : F} {path : Path}
  {bytes : ByteArray}

open LawfulFileSystem

/-- One file has new contents and is read so under each path to it, while all others are as they were. -/
structure Replaced (files files' : F) (place : Place F) (bytes : ByteArray) : Prop where
  contents : contents? files' place = some bytes
  others : ∀ place', place' ≠ place → contents? files' place' = contents? files place'
  read : ∀ path, place? files path = some place → Readable files' place → FileSystem.read files' path = .ok bytes
  reread : ∀ path before, place? files path = some place → FileSystem.read files path = .ok before →
    FileSystem.read files' path = .ok bytes
  elsewhere : ∀ path, place? files path ≠ some place → ∀ bytes',
    FileSystem.read files' path = .ok bytes' ↔ FileSystem.read files path = .ok bytes'

theorem replaced_of_write (h : FileSystem.write files path bytes = .ok files') :
    ∃ place, place? files path = some place ∧ Replaced files files' place bytes := by
  obtain ⟨place, hpath, hcontents, hothers⟩ := contents_of_write h
  have hread (path' : Path) (hpath' : place? files path' = some place) (hreadable : Readable files' place) :
      FileSystem.read files' path' = .ok bytes :=
    read_eq_ok_iff.mpr ⟨place, by rw [place_of_write h, hpath'], hcontents, hreadable⟩
  refine ⟨place, hpath, hcontents, hothers, hread, fun path' before hpath' hbefore => ?_, fun path' hpath' bytes' => ?_⟩
  · -- What could be read before can be read still.
    obtain ⟨place', hplace', hcontents', hreadable⟩ := read_eq_ok_iff.mp hbefore
    obtain rfl := Option.some.inj (hplace'.symm.trans hpath')
    exact hread path' hpath' ((readable_of_write h place' (by rw [hcontents']; rfl)).mpr hreadable)
  · rw [read_eq_ok_iff, read_eq_ok_iff, place_of_write h]
    refine exists_congr fun place' => and_congr_right fun hplace' => ?_
    rw [hothers place' fun heq => hpath' (by rw [hplace', heq])]
    exact and_congr_right fun hcontents' => readable_of_write h place' (by rw [hcontents']; rfl)

end

theorem decodeUtf8_encodeUtf8 (t : Text) : decodeUtf8 (encodeUtf8 t) = .ok t := by
  have hdecode : String.fromUTF8? (encodeUtf8 t) = some (String.ofList t) :=
    dif_pos (String.ofList t).isValidUTF8
  rw [decodeUtf8, hdecode]
  exact congrArg _ String.toList_ofList

namespace Directory

variable {d : Directory}

/-! ## Entries -/

theorem find?_put (l l' : Location) (e : Entry) (entries : List (Location × Entry)) :
    (put l e entries).find? (·.1 == l') = if l = l' then some (l, e) else entries.find? (·.1 == l') := by
  induction entries with
  | nil =>
    rw [put]
    by_cases h : l = l'
    · simp [h]
    · simp [h]
  | cons entry entries ih =>
    obtain ⟨k, e'⟩ := entry
    rw [put]
    by_cases hk : k = l
    · subst hk
      by_cases h : k = l'
      · simp [h]
      · simp [h]
    · rw [if_neg hk, List.find?_cons, List.find?_cons, ih]
      by_cases h : l = l'
      · subst h
        have hkl : (k == l) = false := beq_eq_false_iff_ne.mpr hk
        simp [hkl]
      · simp [h]

theorem entry?_put (l l' : Location) (e : Entry) :
    entry? ⟨put l e d.entries⟩ l' = if l = l' then some e else d.entry? l' := by
  rw [ entry?, find?_put]
  split
  · rfl
  · rfl

def Target.Stands (d : Directory) : Target → Prop
  | directory => True
  | file l bytes => d.entry? l = some (.file bytes)
  | vacant l => d.entry? l = none

theorem stands_of_follow {names : List Text} {l : Location} {target : Target}
    (h : d.follow l names = .ok target) : target.Stands d := by
  induction names generalizing l with
  | nil =>
    cases h
    trivial
  | cons name names ih =>
    unfold follow at h
    split at h
    · exact ih h
    · split at h
      · split at h
        · cases h
        · exact ih h
      · split at h
        · cases h
        · split at h
          · next hentry => cases h; exact hentry
          · cases h
          · next hentry => cases h; exact hentry
          · cases h
          · exact ih h

theorem stands_of_find {p : Path} {target : Target} (h : d.find p = .ok target) : target.Stands d := by
  unfold find at h
  split at h
  · cases h
  · split at h
    · cases h
    · exact stands_of_follow h

def isPresent (d : Directory) (p : Path) : Bool :=
  match d.find p with
  | .ok .directory => true
  | .ok (.file ..) => true
  | _ => false

/-! ## Files -/

def Target.location? : Target → Option Location
  | directory => none
  | file l _ => some l
  | vacant l => some l

def fileLocation? (d : Directory) (p : Path) : Option Location :=
  if endsInSlash p then none else (d.find p).toOption.bind Target.location?

def file? (d : Directory) (l : Location) : Option ByteArray :=
  match d.entry? l with
  | some (.file bytes) => some bytes
  | _ => none

theorem file?_put (l l' : Location) (bytes : ByteArray) :
    file? ⟨put l (.file bytes) d.entries⟩ l' = if l = l' then some bytes else d.file? l' := by
  rw [file?, entry?_put]
  by_cases h : l = l'
  · simp [h]
  · simp [h, file?]

def hasDirectory (d : Directory) (l : Location) : Bool :=
  match d.entry? l with
  | some .directory => true
  | _ => false

theorem fileLocation?_of_find {p : Path} {target : Target} (hslash : endsInSlash p = false)
    (h : d.find p = .ok target) : d.fileLocation? p = target.location? := by
  rw [fileLocation?, if_neg (Bool.eq_false_iff.mp hslash), h]
  rfl

theorem exists_find_of_fileLocation? {p : Path} {l : Location} (h : d.fileLocation? p = some l) :
    endsInSlash p = false ∧ ∃ target, d.find p = .ok target ∧ target.location? = some l := by
  rw [fileLocation?] at h
  split at h
  · cases h
  · next hslash =>
    obtain ⟨target, htarget, hl⟩ := Option.bind_eq_some_iff.mp h
    refine ⟨Bool.eq_false_iff.mpr hslash, target, ?_, hl⟩
    cases hfind : d.find p with
    | error e => rw [hfind] at htarget; cases htarget
    | ok _ => rw [hfind] at htarget; cases htarget; rfl

theorem read_eq_ok {p : Path} {bytes : ByteArray} :
    d.read p = .ok bytes ↔ endsInSlash p = false ∧ ∃ l, d.find p = .ok (.file l bytes) := by
  unfold read
  cases hfind : d.find p with
  | error e => simp [bind, Except.bind]
  | ok target =>
    cases target with
    | directory => simp [bind, Except.bind]
    | vacant l => simp [bind, Except.bind]
    | file l contents =>
      cases hslash : endsInSlash p with
      | true => simp [bind, Except.bind]
      | false => simp [bind, Except.bind]

theorem read_eq_ok_iff_file? {p : Path} {bytes : ByteArray} :
    d.read p = .ok bytes ↔ ∃ l, d.fileLocation? p = some l ∧ d.file? l = some bytes := by
  rw [read_eq_ok]
  constructor
  · rintro ⟨hslash, l, hfind⟩
    have hentry : d.entry? l = some (.file bytes) := stands_of_find hfind
    exact ⟨l, fileLocation?_of_find hslash hfind, by rw [file?, hentry]⟩
  · rintro ⟨l, hl, hfile⟩
    obtain ⟨hslash, target, hfind, htarget⟩ := exists_find_of_fileLocation? hl
    have hstands := stands_of_find hfind
    cases target with
    | directory => cases htarget
    | vacant l' =>
      obtain rfl := Option.some.inj htarget
      rw [file?, show d.entry? l' = none from hstands] at hfile
      cases hfile
    | file l' contents =>
      obtain rfl := Option.some.inj htarget
      rw [file?, show d.entry? l' = some (.file contents) from hstands] at hfile
      obtain rfl := Option.some.inj hfile
      exact ⟨hslash, l', hfind⟩

theorem writeAt_eq_ok {d' : Directory} {p : Path} {l : Location} {bytes : ByteArray}
    (h : d.writeAt p l bytes = .ok d') : endsInSlash p = false ∧ d' = ⟨put l (.file bytes) d.entries⟩ := by
  unfold writeAt at h
  split at h
  · cases h
  · rename_i hslash
    exact ⟨Bool.eq_false_iff.mpr hslash, (Except.ok.inj h).symm⟩

theorem write_eq_ok {d' : Directory} {p : Path} {bytes : ByteArray} (h : d.write p bytes = .ok d') :
    ∃ l, d.fileLocation? p = some l ∧ d.hasDirectory l = false ∧ d' = ⟨put l (.file bytes) d.entries⟩ := by
  unfold write at h
  cases hfind : d.find p with
  | error e =>
    rw [hfind] at h
    cases h
  | ok target =>
    rw [hfind] at h
    have hstands := stands_of_find hfind
    cases target with
    | directory => cases h
    | file l contents =>
      obtain ⟨hslash, hd⟩ := writeAt_eq_ok h
      exact ⟨l, fileLocation?_of_find hslash hfind, by rw [hasDirectory, show d.entry? l = _ from hstands], hd⟩
    | vacant l =>
      obtain ⟨hslash, hd⟩ := writeAt_eq_ok h
      exact ⟨l, fileLocation?_of_find hslash hfind, by rw [hasDirectory, show d.entry? l = _ from hstands], hd⟩

theorem follow_here (d : Directory) (l : Location) (names : List Text) :
    d.follow l (['.'] :: names) = d.follow l names := by
  conv => lhs; unfold follow
  exact if_pos rfl

theorem follow_up (d : Directory) (name : Text) (l : Location) (names : List Text) :
    d.follow (name :: l) (['.', '.'] :: names) = d.follow l names := by
  conv => lhs; unfold follow
  rw [if_neg (by decide), if_pos rfl]

theorem follow_out (d : Directory) (names : List Text) :
    d.follow [] (['.', '.'] :: names) = .error .notFound := by
  unfold follow
  rw [if_neg (by decide), if_pos rfl]

section
variable {name : Text} (hhere : name ≠ ['.']) (hup : name ≠ ['.', '.'])

include hhere hup

theorem follow_long (hsize : maxNameSize < byteSize name) (d : Directory) (l : Location) (names : List Text) :
    d.follow l (name :: names) = .error .nameTooLong := by
  unfold follow
  rw [if_neg hhere, if_neg hup, if_pos hsize]

theorem location?_follow_cons (hsize : ¬ maxNameSize < byteSize name) (l : Location) (names : List Text) :
    (d.follow l (name :: names)).toOption.bind Target.location? =
      if d.hasDirectory (name :: l) then (d.follow (name :: l) names).toOption.bind Target.location?
      else if names = [] then some (name :: l) else none := by
  conv => lhs; unfold follow
  rw [if_neg hhere, if_neg hup, if_neg hsize, hasDirectory]
  cases d.entry? (name :: l) with
  | none =>
    cases names with
    | nil => rfl
    | cons _ _ => rfl
  | some e =>
    cases e with
    | directory => rfl
    | file _ =>
      cases names with
      | nil => rfl
      | cons _ _ => rfl

end

theorem hasDirectory_put {l : Location} (hl : d.hasDirectory l = false) (bytes : ByteArray) (l' : Location) :
    hasDirectory ⟨put l (.file bytes) d.entries⟩ l' = d.hasDirectory l' := by
  rw [hasDirectory, entry?_put]
  by_cases h : l = l'
  · rw [if_pos h, ← h, hl]
  · rw [if_neg h, hasDirectory]

/-- A path leads to the same place whether a file stands there or not. -/
theorem location?_follow_put {l : Location} (hl : d.hasDirectory l = false) (bytes : ByteArray)
    (l' : Location) (names : List Text) :
    (follow ⟨put l (.file bytes) d.entries⟩ l' names).toOption.bind Target.location? =
      (d.follow l' names).toOption.bind Target.location? := by
  induction names generalizing l' with
  | nil => rfl
  | cons name names ih =>
    by_cases hhere : name = ['.']
    · subst hhere
      rw [follow_here, follow_here, ih]
    · by_cases hup : name = ['.', '.']
      · subst hup
        cases l' with
        | nil => rw [follow_out, follow_out]
        | cons _ l' => rw [follow_up, follow_up, ih]
      · by_cases hsize : maxNameSize < byteSize name
        · rw [follow_long hhere hup hsize, follow_long hhere hup hsize]
        · rw [location?_follow_cons hhere hup hsize, location?_follow_cons hhere hup hsize, ih,
            hasDirectory_put hl]

theorem fileLocation?_put {l : Location} (hl : d.hasDirectory l = false) (bytes : ByteArray) (p : Path) :
    fileLocation? ⟨put l (.file bytes) d.entries⟩ p = d.fileLocation? p := by
  rw [fileLocation?, fileLocation?, find, find]
  split
  · rfl
  · split
    · rfl
    · split
      · rfl
      · exact location?_follow_put hl bytes [] _

instance : LawfulFileSystem Directory where
  Place := Location
  place? := fileLocation?
  contents? := file?
  Readable _ _ := True
  read_eq_ok_iff := by
    simp only [and_true]
    exact read_eq_ok_iff_file?
  contents_of_write := by
    intro d d' p bytes h
    obtain ⟨l, hl, -, rfl⟩ := write_eq_ok h
    refine ⟨l, hl, ?_, fun l' hne => ?_⟩
    · rw [file?_put, if_pos rfl]
    · rw [file?_put, if_neg (Ne.symm hne)]
  place_of_write := by
    intro d d' p bytes h p'
    obtain ⟨l, -, hl, rfl⟩ := write_eq_ok h
    exact fileLocation?_put hl bytes p'
  readable_of_write _ _ _ := Iff.rfl

end Directory

end JiraMarkup
