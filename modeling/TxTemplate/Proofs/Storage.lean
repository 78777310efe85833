import Mathlib.Tactic.SplitIfs
import TxTemplate.Proofs.Outcome
import TxTemplate.Storage.Directory

set_option autoImplicit false

/-! Directories under writing. A place holds what was put there last, and nothing else moves. Where
a path leads depends on the folders alone, so it leads there still after files were written. -/

namespace TxTemplate.Directory

variable {directory after written : Directory} {place other : Place} {entry : Entry} {path : String}

/-! ### Entries -/

theorem lookup_putEntry_self (place : Place) (entry : Entry) (entries : List (Place × Entry)) :
    (putEntry place entry entries).lookup place = some entry := by
  induction entries with
  | nil => simp [putEntry]
  | cons first rest ih =>
      obtain ⟨here, old⟩ := first
      by_cases same : here = place
      · simp [putEntry, same]
      · have different : (place == here) = false := beq_eq_false_iff_ne.mpr (Ne.symm same)
        rw [putEntry, if_neg same, List.lookup_cons, different]
        exact ih

theorem lookup_putEntry_of_ne (different : other ≠ place) (entry : Entry)
    (entries : List (Place × Entry)) :
    (putEntry place entry entries).lookup other = entries.lookup other := by
  have unequal : (other == place) = false := beq_eq_false_iff_ne.mpr different
  induction entries with
  | nil => simp [putEntry, List.lookup_cons, unequal]
  | cons first rest ih =>
      obtain ⟨here, old⟩ := first
      by_cases same : here = place
      · simp [putEntry, same, List.lookup_cons, unequal]
      · rw [putEntry, if_neg same, List.lookup_cons, List.lookup_cons, ih]

theorem putEntry_putEntry (place : Place) (first second : Entry) (entries : List (Place × Entry)) :
    putEntry place second (putEntry place first entries) = putEntry place second entries := by
  induction entries with
  | nil => simp [putEntry]
  | cons head rest ih =>
      obtain ⟨here, old⟩ := head
      by_cases same : here = place
      · simp [putEntry, same]
      · simp [putEntry, same, ih]

theorem ne_top_of_notFolder (notFolder : directory.entry? place ≠ some .folder) : place ≠ [] := by
  rintro rfl
  exact notFolder rfl

theorem entry_put_self (below : place ≠ []) (directory : Directory) (entry : Entry) :
    Directory.entry? (directory.put place entry) place = some entry :=
  (if_neg below).trans (lookup_putEntry_self place entry directory.entries)

theorem entry_put_of_ne (different : other ≠ place) (directory : Directory) (entry : Entry) :
    Directory.entry? (directory.put place entry) other = directory.entry? other := by
  unfold entry?
  split
  · rfl
  · exact lookup_putEntry_of_ne different entry directory.entries

@[simp] theorem put_put (directory : Directory) (place : Place) (first second : Entry) :
    (directory.put place first).put place second = directory.put place second :=
  congrArg Directory.mk (putEntry_putEntry place first second directory.entries)

/-! ### Places that stay as they are -/

/-- Two directories hold the same everywhere but at some places. -/
def AgreeOff (moved : List Place) (before after : Directory) : Prop :=
  ∀ place, place ∉ moved → after.entry? place = before.entry? place

theorem AgreeOff.refl (moved : List Place) (directory : Directory) :
    AgreeOff moved directory directory :=
  fun _ _ => rfl

theorem AgreeOff.trans {moved : List Place} {before middle : Directory}
    (first : AgreeOff moved before middle) (later : AgreeOff moved middle after) :
    AgreeOff moved before after :=
  fun place off => (later place off).trans (first place off)

theorem AgreeOff.mono {few many : List Place} {before : Directory}
    (agree : AgreeOff few before after) (more : few ⊆ many) : AgreeOff many before after :=
  fun place off => agree place fun member => off (more member)

theorem agreeOff_put {moved : List Place} (member : place ∈ moved) (directory : Directory)
    (entry : Entry) :
    AgreeOff moved directory (directory.put place entry) :=
  fun _ off => entry_put_of_ne (ne_of_mem_of_not_mem member off).symm directory entry

/-! ### Paths -/

/-- Every folder is still one. -/
def KeepsFolders (before after : Directory) : Prop :=
  ∀ place, before.entry? place = some .folder → after.entry? place = some .folder

theorem KeepsFolders.trans {before middle : Directory} (first : KeepsFolders before middle)
    (later : KeepsFolders middle after) : KeepsFolders before after :=
  fun place folder => later place (first place folder)

theorem keepsFolders_put (notFolder : directory.entry? place ≠ some .folder) (entry : Entry) :
    KeepsFolders directory (directory.put place entry) := by
  intro other folder
  have different : other ≠ place := fun same => notFolder (same ▸ folder)
  rw [entry_put_of_ne different, folder]

/-- The same places are folders. -/
def SameFolders (before after : Directory) : Prop :=
  ∀ place, after.entry? place = some .folder ↔ before.entry? place = some .folder

theorem SameFolders.refl (directory : Directory) : SameFolders directory directory :=
  fun _ => Iff.rfl

theorem SameFolders.trans {before middle : Directory} (first : SameFolders before middle)
    (later : SameFolders middle after) : SameFolders before after :=
  fun place => (later place).trans (first place)

theorem SameFolders.keeps {before : Directory} (same : SameFolders before after) :
    KeepsFolders before after :=
  fun place => (same place).mpr

theorem SameFolders.symm {before : Directory} (same : SameFolders before after) :
    SameFolders after before :=
  fun place => (same place).symm

theorem sameFolders_put (notFolder : directory.entry? place ≠ some .folder) (content : Content) :
    SameFolders directory (directory.put place (.file content)) := by
  intro other
  by_cases same : other = place
  · subst same
    rw [entry_put_self (ne_top_of_notFolder notFolder)]
    simp [notFolder]
  · rw [entry_put_of_ne same]

/-- Names lead where they led. The path that they are of counts for faults only. -/
theorem walk_of_keepsFolders (keeps : KeepsFolders directory after) {whole : String} {here : Place}
    {names : List (List Char)} (reached : directory.walk path here names = .ok place) :
    after.walk whole here names = .ok place := by
  induction names generalizing here with
  | nil => exact reached
  | cons name rest ih =>
      rw [walk] at reached ⊢
      split at reached
      · cases reached
      · cases reached
      · rename_i folder
        rw [keeps here folder]
        dsimp only
        split_ifs at reached ⊢
        all_goals exact ih reached

/-- A path leads to one place only, whatever directory it is followed in. -/
theorem walk_unique {here : Place} {names : List (List Char)}
    (reached : directory.walk path here names = .ok place)
    (reaches : after.walk path here names = .ok other) :
    place = other := by
  induction names generalizing here with
  | nil => exact Except.ok.inj (reached.symm.trans reaches)
  | cons name rest ih =>
      rw [walk] at reached reaches
      split at reached
      · cases reached
      · cases reached
      · split at reaches
        · cases reaches
        · cases reaches
        · split_ifs at reached reaches
          all_goals exact ih reached reaches

theorem locate_of_keepsFolders (keeps : KeepsFolders directory after)
    (located : directory.locate path = .ok place) : after.locate path = .ok place := by
  unfold locate follow at located ⊢
  split_ifs at located ⊢
  exact walk_of_keepsFolders keeps located

theorem locate_unique (located : directory.locate path = .ok place)
    (locates : after.locate path = .ok other) :
    place = other := by
  unfold locate follow at located locates
  split_ifs at located locates
  exact walk_unique located locates

/-! ### Writing -/

variable {content : Content}

theorem write_eq_ok : directory.write path content = .ok written ↔
    ∃ place, directory.locate path = .ok place ∧ directory.entry? place ≠ some .folder ∧
      written = directory.put place (.file content) := by
  unfold write
  cases located : directory.locate path with
  | error fault => simp
  | ok place =>
      simp only [Except.ok.injEq, exists_eq_left']
      split
      · rename_i folder
        simp [folder]
      · rename_i none
        simp only [Except.ok.injEq, eq_comm (a := written)]
        exact (and_iff_right none).symm

theorem write_of_locate (located : directory.locate path = .ok place)
    (notFolder : directory.entry? place ≠ some .folder) (content : Content) :
    directory.write path content = .ok (directory.put place (.file content)) :=
  write_eq_ok.mpr ⟨place, located, notFolder, rfl⟩

theorem exists_write (directory : Directory) (path : String) :
    ∃ target : Except Fault Place, ∀ content, directory.write path content =
      target.map fun place => directory.put place (.file content) := by
  cases located : directory.locate path with
  | error fault => exact ⟨.error (.storage fault), fun content => by rw [write, located]; rfl⟩
  | ok place =>
      by_cases folder : directory.entry? place = some .folder
      · exact ⟨.error (.storage (.directory path)),
          fun content => by simp only [write, located, folder]; rfl⟩
      · exact ⟨.ok place, fun content => write_of_locate located folder content⟩

/-- What is put where a path leads is there, and the path still leads there. -/
theorem locate_put (located : directory.locate path = .ok place)
    (notFolder : directory.entry? place ≠ some .folder) (entry : Entry) :
    (directory.put place entry).locate path = .ok place ∧
      Directory.entry? (directory.put place entry) place = some entry :=
  ⟨locate_of_keepsFolders (keepsFolders_put notFolder entry) located,
    entry_put_self (ne_top_of_notFolder notFolder) directory entry⟩

theorem write_write {first second : Content} (done : directory.write path first = .ok written) :
    written.write path second = directory.write path second := by
  obtain ⟨place, located, notFolder, rfl⟩ := write_eq_ok.mp done
  obtain ⟨still, held⟩ := locate_put located notFolder (.file first)
  have file : Directory.entry? (directory.put place (.file first)) place ≠ some .folder := by
    rw [held]
    nofun
  rw [write_of_locate still file, write_of_locate located notFolder, put_put]

/-! ### Documents -/

theorem readText_of_text {text : String} (located : directory.locate path = .ok place)
    (held : directory.entry? place = some (.file (.text text)))
    (plain : plainLines text.toList = text.toList) :
    directory.readText path = .ok text := by
  have read : directory.read path = .ok (.text text) := by
    rw [read, located, Outcome.ok_bind, held]
  rw [readText, read]
  simp only [plain, String.ofList_toList]

theorem readDocument_of_text {text : String} {document : Json}
    (located : directory.locate path = .ok place)
    (held : directory.entry? place = some (.file (.text text)))
    (plain : plainLines text.toList = text.toList) (means : Json.read text = .ok document) :
    directory.readDocument path = .ok (.ok document) := by
  rw [readDocument, readText_of_text located held plain]
  simp only [Except.map, means]

end TxTemplate.Directory
