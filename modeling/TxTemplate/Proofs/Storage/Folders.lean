import Mathlib.Data.List.TakeWhile
import TxTemplate.Proofs.Storage
import TxTemplate.Proofs.Text.Blank

set_option autoImplicit false

/-! Making folders by path. A folder that is there is not made again, whatever is made is new, and
files stay as they are. A name below a folder leads to one place, and another name to another. -/

namespace TxTemplate

/-! ### Paths in parts -/

namespace Path

theorem steps_ne_nil (path : List Char) : steps path ≠ [] := by
  cases path with
  | nil => exact List.cons_ne_nil _ _
  | cons c rest =>
      rw [steps]
      split
      · exact List.cons_ne_nil _ _
      · split <;> exact List.cons_ne_nil _ _

theorem steps_append (first second : List Char) :
    steps (first ++ '/' :: second) = steps first ++ steps second := by
  induction first with
  | nil =>
      obtain ⟨step, more, parts⟩ := List.exists_cons_of_ne_nil (steps_ne_nil second)
      simp [steps, parts]
  | cons c rest ih =>
      obtain ⟨step, more, parts⟩ := List.exists_cons_of_ne_nil (steps_ne_nil rest)
      rw [List.cons_append, steps, ih, steps, parts]
      dsimp only [List.cons_append]
      split <;> rfl

theorem steps_of_whole {name : List Char} (whole : '/' ∉ name) : steps name = [name] := by
  induction name with
  | nil => rfl
  | cons c rest ih =>
      have other : ¬ c = '/' := fun same => whole (same ▸ List.mem_cons_self)
      rw [steps, ih fun member => whole (List.mem_cons_of_mem c member)]
      exact if_neg other

/-- What stands before the slashes at the end of a path is the path, or a slash follows it. -/
theorem eq_dropEndSlashes_append (path : List Char) :
    path = dropEndSlashes path ∨ ∃ more, path = dropEndSlashes path ++ '/' :: more := by
  have parts := Text.dropEndWhile_append_taken (· == '/') path
  cases taken : (path.reverse.takeWhile (· == '/')).reverse with
  | nil =>
      rw [taken, List.append_nil] at parts
      exact .inl parts.symm
  | cons c more =>
      have member : c ∈ path.reverse.takeWhile (· == '/') := by
        rw [← List.mem_reverse, taken]
        exact List.mem_cons_self
      obtain rfl : c = '/' := beq_iff_eq.mp (List.mem_takeWhile_imp member :)
      rw [taken] at parts
      exact .inr ⟨more, parts.symm⟩

theorem splitLast_eq (path : List Char) :
    splitLast path =
      let head := Text.dropEndWhile (· != '/') path
      let bare := dropEndSlashes head
      (if bare.isEmpty then head else bare, (path.reverse.takeWhile (· != '/')).reverse) := by
  have parts := Text.dropEndWhile_append_taken (· != '/') path
  have count := congrArg List.length parts
  rw [List.length_append] at count
  have head : path.take (path.length - (path.reverse.takeWhile (· != '/')).reverse.length) =
      Text.dropEndWhile (· != '/') path := by
    rw [← count, Nat.add_sub_cancel]
    nth_rewrite 2 [← parts]
    exact List.take_left
  rw [splitLast, head]

/-- What is left when the last name is taken off ends with a slash. -/
theorem exists_slash_of_head {path : List Char} (deep : Text.dropEndWhile (· != '/') path ≠ []) :
    ∃ rest, Text.dropEndWhile (· != '/') path = rest ++ ['/'] := by
  rw [Text.dropEndWhile] at deep ⊢
  have deep : path.reverse.dropWhile (· != '/') ≠ [] := fun none => deep (by rw [none]; rfl)
  obtain ⟨c, rest, parts⟩ := List.exists_cons_of_ne_nil deep
  have stop := List.head_dropWhile_not (· != '/') deep
  simp only [parts, List.head_cons, bne_eq_false_iff_eq] at stop
  exact ⟨rest.reverse, by rw [parts, List.reverse_cons, stop]⟩

/-- The head of a path is followed by a slash, if the path does not start with one. -/
theorem eq_splitLast_append {path : List Char} (relative : path.head? ≠ some '/')
    (deep : (splitLast path).1 ≠ []) :
    ∃ more, path = (splitLast path).1 ++ '/' :: more := by
  have parts := Text.dropEndWhile_append_taken (· != '/') path
  rw [splitLast_eq] at deep ⊢
  dsimp only at deep ⊢
  have below : Text.dropEndWhile (· != '/') path ≠ [] := by
    intro none
    rw [none] at deep
    exact deep rfl
  obtain ⟨rest, ending⟩ := exists_slash_of_head below
  have bare : dropEndSlashes (rest ++ ['/']) = dropEndSlashes rest := by
    simp [dropEndSlashes, Text.dropEndWhile]
  obtain ⟨more, split⟩ : ∃ more, path = dropEndSlashes rest ++ '/' :: more := by
    rw [ending] at parts
    rcases eq_dropEndSlashes_append rest with whole | ⟨more, whole⟩
    · exact ⟨_, by rw [← whole, ← parts, List.append_assoc]; rfl⟩
    · rw [whole] at parts
      exact ⟨_, by rw [← parts, List.append_assoc, List.append_assoc]; rfl⟩
  rw [ending, bare]
  split_ifs with empty
  · rw [List.isEmpty_iff.mp empty] at split
    exact absurd (by rw [split]; rfl) relative
  · exact ⟨more, split⟩

/-- The same of the head behind which a name stands, when slashes at the end are passed over. -/
theorem eq_parent_append {path head tail : List Char} (relative : path.head? ≠ some '/')
    (deep : head ≠ [])
    (parts : (if (splitLast path).2.isEmpty then splitLast (splitLast path).1 else splitLast path) =
      (head, tail)) :
    ∃ more, path = head ++ '/' :: more := by
  split_ifs at parts
  · have below : (splitLast path).1 ≠ [] := by
      intro none
      rw [none] at parts
      exact deep (Prod.mk.inj parts).1.symm
    obtain ⟨more, outer⟩ := eq_splitLast_append relative below
    have relativeStill : (splitLast path).1.head? ≠ some '/' := by
      intro absolute
      rw [outer, List.head?_append, absolute] at relative
      exact relative rfl
    have named : (splitLast (splitLast path).1).1 = head := by rw [parts]
    obtain ⟨between, inner⟩ := eq_splitLast_append relativeStill (named ▸ deep)
    rw [named] at inner
    exact ⟨between ++ '/' :: more, by rw [outer, inner, List.append_assoc]; rfl⟩
  · have named : (splitLast path).1 = head := by rw [parts]
    obtain ⟨more, outer⟩ := eq_splitLast_append relative (named ▸ deep)
    exact ⟨more, by rw [outer, named]⟩

theorem toList_join {folder name : String} (present : folder ≠ "") (whole : '/' ∉ name.toList) :
    ∃ first, (join folder name).toList = first ++ '/' :: name.toList ∧
      (folder.toList = first ∨ folder.toList = first ++ ['/']) := by
  have relative : name.toList.head? ≠ some '/' := fun absolute => whole (List.mem_of_head? absolute)
  rw [join, if_neg relative, if_neg fun empty => present (String.isEmpty_iff.mp empty)]
  split_ifs with ended
  · obtain ⟨first, parts⟩ := List.getLast?_eq_some_iff.mp ended
    exact ⟨first, by rw [String.toList_append, parts, List.append_assoc]; rfl, .inr parts⟩
  · refine ⟨folder.toList, ?_, .inl rfl⟩
    rw [String.toList_append, String.toList_append, List.append_assoc]
    rfl

end Path

namespace Directory

variable {directory made after : Directory} {place : Place} {path : String}

/-! ### Walking in parts -/

theorem walk_append (directory : Directory) (path : String) (here : Place)
    (first second : List (List Char)) :
    directory.walk path here (first ++ second) =
      directory.walk path here first >>= fun middle => directory.walk path middle second := by
  induction first generalizing here with
  | nil => rfl
  | cons name rest ih =>
      rw [List.cons_append, walk, walk]
      cases directory.entry? here with
      | none => rfl
      | some entry =>
          cases entry with
          | file content => rfl
          | folder =>
              dsimp only
              split_ifs
              · exact ih here
              · rfl
              · exact ih _
              · rfl
              · exact ih _

/-- Further names lead on from a folder only. -/
theorem folder_of_walk {here : Place} {names : List (List Char)} (present : names ≠ [])
    (reached : directory.walk path here names = .ok place) :
    directory.entry? here = some .folder := by
  obtain ⟨name, rest, rfl⟩ := List.exists_cons_of_ne_nil present
  rw [walk] at reached
  split at reached
  · cases reached
  · cases reached
  · rename_i folder
    exact folder

/-- A path that can be followed at all: it names something below the top, and is not too long. -/
structure Followable (path : String) : Prop where
  clean : Char.ofNat 0 ∉ path.toList
  present : path ≠ ""
  relative : path.toList.head? ≠ some '/'
  short : path.utf8ByteSize ≤ pathLimit

theorem follow_eq_ok {names : List (List Char)} :
    directory.follow path names = .ok place ↔
      Followable path ∧ directory.walk path [] names = .ok place := by
  rw [follow]
  split_ifs with nul top long
  · simp only [false_iff]
    rintro ⟨fit, -⟩
    exact fit.clean (List.contains_iff_mem.mp nul)
  · simp only [false_iff]
    rintro ⟨fit, -⟩
    rcases top with empty | absolute
    · exact fit.present (String.isEmpty_iff.mp empty)
    · exact fit.relative absolute
  · simp only [false_iff]
    rintro ⟨fit, -⟩
    exact Nat.not_lt.mpr fit.short long
  · rw [not_or] at top
    refine (and_iff_right ⟨?_, ?_, top.2, Nat.not_lt.mp long⟩).symm
    · exact fun member => nul (List.contains_iff_mem.mpr member)
    · exact fun empty => top.1 (String.isEmpty_iff.mpr empty)

theorem hasFolder_iff :
    directory.hasFolder path = true ↔
      ∃ place, directory.locate path = .ok place ∧ directory.entry? place = some .folder := by
  rw [hasFolder, at?, beq_iff_eq]
  cases directory.locate path with
  | error fault => simp
  | ok place => simp

theorem has_of_hasFolder (folder : directory.hasFolder path = true) :
    directory.has path = true := by
  rw [hasFolder, beq_iff_eq] at folder
  rw [has, folder]
  rfl

theorem hasFolder_of_hasFolder_append {head more : List Char} (deep : head ≠ [])
    (folder : directory.hasFolder (String.ofList (head ++ '/' :: more)) = true) :
    directory.hasFolder (String.ofList head) = true := by
  obtain ⟨place, located, -⟩ := hasFolder_iff.mp folder
  obtain ⟨fit, reached⟩ := follow_eq_ok.mp located
  rw [String.toList_ofList, Path.steps_append, walk_append] at reached
  obtain ⟨middle, first, later⟩ := Outcome.bind_eq_ok.mp reached
  refine hasFolder_iff.mpr ⟨middle, follow_eq_ok.mpr ⟨?_, ?_⟩,
    folder_of_walk (Path.steps_ne_nil more) later⟩
  · refine ⟨fun nul => fit.clean ?_, fun none => deep ?_, fun absolute => fit.relative ?_, ?_⟩
    · rw [String.toList_ofList] at nul ⊢
      exact List.mem_append_left _ nul
    · rw [← String.toList_ofList (l := head), none]
      rfl
    · rw [String.toList_ofList] at absolute ⊢
      rw [List.head?_append, absolute]
      rfl
    · refine Nat.le_trans ?_ fit.short
      rw [String.ofList_append, String.utf8ByteSize_append]
      exact Nat.le_add_right _ _
  · rw [String.toList_ofList]
    exact walk_of_keepsFolders (fun _ folder => folder) first

/-! ### Making -/

theorem exists_makeFolder_of_hasFolder (folder : directory.hasFolder path = true) :
    ∃ fault, directory.makeFolder path = .error fault := by
  obtain ⟨place, located, held⟩ := hasFolder_iff.mp folder
  obtain ⟨fit, reached⟩ := follow_eq_ok.mp located
  have target : ∃ place, directory.follow path (Path.steps (Path.dropEndSlashes path.toList)) =
    .ok place ∧
      directory.entry? place = some .folder := by
    rcases Path.eq_dropEndSlashes_append path.toList with whole | ⟨more, whole⟩
    · rw [← whole]
      exact ⟨place, located, held⟩
    · rw [whole, Path.steps_append, walk_append] at reached
      obtain ⟨middle, first, later⟩ := Outcome.bind_eq_ok.mp reached
      exact ⟨middle, follow_eq_ok.mpr ⟨fit, first⟩, folder_of_walk (Path.steps_ne_nil more) later⟩
  obtain ⟨here, followed, there⟩ := target
  rw [makeFolder, followed, Outcome.ok_bind, there]
  exact ⟨_, rfl⟩

theorem ensureFolder_of_hasFolder (folder : directory.hasFolder path = true) :
    directory.ensureFolder path = (.ok (), directory) := by
  obtain ⟨fault, kept⟩ := exists_makeFolder_of_hasFolder folder
  rw [ensureFolder, kept]
  dsimp only
  rw [if_pos folder]

theorem makeFoldersUpTo_of_hasFolder {path : List Char} (slashes : Nat)
    (folder : directory.hasFolder (String.ofList path) = true) :
    directory.makeFoldersUpTo slashes path = (.ok (), directory) := by
  cases slashes with
  | zero => exact ensureFolder_of_hasFolder folder
  | succ slashes =>
      obtain ⟨place, located, -⟩ := hasFolder_iff.mp folder
      have relative := (follow_eq_ok.mp located).1.relative
      rw [String.toList_ofList] at relative
      rw [makeFoldersUpTo]
      split
      rename_i head tail parts
      rw [if_neg, ensureFolder_of_hasFolder folder]
      simp only [Bool.and_eq_true, Bool.not_eq_true', List.isEmpty_eq_false_iff]
      rintro ⟨⟨deep, -⟩, missing⟩
      obtain ⟨more, outer⟩ := Path.eq_parent_append relative deep parts
      rw [outer] at folder
      rw [has_of_hasFolder (hasFolder_of_hasFolder_append deep folder)] at missing
      cases missing

theorem makeFolders_of_hasFolder (folder : directory.hasFolder path = true) :
    directory.makeFolders path = (.ok (), directory) := by
  rw [makeFolders, makeFoldersUpTo_of_hasFolder _ (by rwa [String.ofList_toList])]
  rfl

/-- At most there are new folders where nothing was. -/
def Grown (before after : Directory) : Prop :=
  ∀ place, after.entry? place = before.entry? place ∨
    before.entry? place = none ∧ after.entry? place = some .folder

theorem Grown.refl (directory : Directory) : Grown directory directory := fun _ => .inl rfl

theorem Grown.trans {before middle : Directory} (first : Grown before middle)
    (later : Grown middle after) :
    Grown before after := by
  intro place
  rcases later place with same | ⟨absent, folder⟩
  · rw [same]
    exact first place
  · rcases first place with held | ⟨-, held⟩
    · exact .inr ⟨held ▸ absent, folder⟩
    · rw [absent] at held
      cases held

theorem Grown.file_iff {before : Directory} {content : Content} (grown : Grown before after) :
    after.entry? place = some (.file content) ↔ before.entry? place = some (.file content) := by
  rcases grown place with same | ⟨absent, folder⟩
  · rw [same]
  · rw [absent, folder]
    simp

theorem Grown.keepsFolders {before : Directory} (grown : Grown before after) :
    KeepsFolders before after := by
  intro place folder
  rcases grown place with same | ⟨absent, -⟩
  · exact same.trans folder
  · rw [absent] at folder
    cases folder

theorem grown_put (absent : directory.entry? place = none) :
    Grown directory (directory.put place .folder) := by
  intro other
  by_cases same : other = place
  · subst same
    have below : other ≠ [] := by
      rintro rfl
      cases absent
    exact .inr ⟨absent, entry_put_self below directory .folder⟩
  · exact .inl (entry_put_of_ne same directory .folder)

theorem grown_ensureFolder (directory : Directory) (path : String) :
    Grown directory (directory.ensureFolder path).2 := by
  rw [ensureFolder, makeFolder]
  cases directory.follow path (Path.steps (Path.dropEndSlashes path.toList)) with
  | error fault => exact Grown.refl directory
  | ok place =>
      rw [Outcome.ok_bind]
      cases held : directory.entry? place with
      | some entry => exact Grown.refl directory
      | none => exact grown_put held

theorem grown_makeFoldersUpTo (slashes : Nat) (directory : Directory) (path : List Char) :
    Grown directory (directory.makeFoldersUpTo slashes path).2 := by
  induction slashes generalizing path with
  | zero => exact grown_ensureFolder directory _
  | succ slashes ih =>
      rw [makeFoldersUpTo]
      split
      rename_i head tail parts
      by_cases missing : (!head.isEmpty && !tail.isEmpty && !directory.has (String.ofList head)) =
        true
      · rw [if_pos missing]
        have grown := ih head
        generalize makeFoldersUpTo slashes directory head = result at grown ⊢
        obtain ⟨outcome, made⟩ := result
        have last : Grown directory
            (if tail = ['.'] then (.ok (), made)
                else made.ensureFolder (String.ofList path)).2 := by
          split_ifs
          · exact grown
          · exact grown.trans (grown_ensureFolder made _)
        split
        · next same => exact (Prod.mk.inj same).2 ▸ last
        · next same => exact (Prod.mk.inj same).2 ▸ last
        · next same => exact (Prod.mk.inj same).2 ▸ grown
      · rw [if_neg missing]
        exact grown_ensureFolder directory _

theorem grown_makeFolders (directory : Directory) (path : String) :
    Grown directory (directory.makeFolders path).2 :=
  grown_makeFoldersUpTo path.length directory path.toList

/-! ### Names below a folder -/

/-- A name that leads from a folder to what is right below it. -/
structure PlainName (name : String) : Prop where
  present : name ≠ ""
  clean : Char.ofNat 0 ∉ name.toList
  whole : '/' ∉ name.toList
  named : name ≠ "." ∧ name ≠ ".."
  short : name.utf8ByteSize ≤ nameLimit

variable {name : String}

theorem walk_plainName (plain : PlainName name) (folder : directory.entry? place = some .folder) :
    directory.walk path place [name.toList] = .ok (place ++ [name]) := by
  have still : ¬ (name.toList = [] ∨ name.toList = ['.']) := by
    rintro (none | here)
    · exact plain.present (String.toList_inj.mp none)
    · exact plain.named.1 (String.toList_inj.mp here)
  have down : ¬ name.toList = ['.', '.'] := fun up => plain.named.2 (String.toList_inj.mp up)
  rw [walk, folder]
  dsimp only
  rw [if_neg still, if_neg down, String.ofList_toList, if_neg (Nat.not_lt.mpr plain.short)]
  rfl

/-- Below a folder a name leads to a place of its own, as far as a path may be that long. -/
theorem locate_join (plain : PlainName name) (located : directory.locate path = .ok place)
    (folder : directory.entry? place = some .folder) :
    directory.locate (Path.join path name) =
      if pathLimit < (Path.join path name).utf8ByteSize then
        .error (.longName (Path.join path name))
      else .ok (place ++ [name]) := by
  obtain ⟨fit, reached⟩ := follow_eq_ok.mp located
  obtain ⟨first, joined, parts⟩ := Path.toList_join fit.present plain.whole
  -- The path may end in a slash, which then is the one before the name; either way the walk up to
  -- the name ends at the folder.
  have leads : directory.walk (Path.join path name) [] (Path.steps first ++ [name.toList]) =
      .ok (place ++ [name]) := by
    have before : directory.walk (Path.join path name) [] (Path.steps first) = .ok place := by
      rcases parts with same | ended
      · rw [same] at reached
        exact walk_of_keepsFolders (fun _ folder => folder) reached
      · rw [ended, Path.steps_append, walk_append] at reached
        obtain ⟨middle, before, later⟩ := Outcome.bind_eq_ok.mp reached
        have here := folder_of_walk (Path.steps_ne_nil []) later
        rw [Path.steps, walk, here] at later
        obtain rfl : middle = place := Except.ok.inj later
        exact walk_of_keepsFolders (fun _ folder => folder) before
    rw [walk_append, before, Outcome.ok_bind, walk_plainName plain folder]
  have deep : first ≠ [] := by
    rintro rfl
    rcases parts with same | ended
    · exact fit.present (String.toList_inj.mp same)
    · exact fit.relative (by rw [ended]; rfl)
  have clean : ¬ (Path.join path name).toList.contains (Char.ofNat 0) = true := by
    rw [List.contains_iff_mem, joined, List.mem_append, List.mem_cons]
    rintro (member | same | member)
    · exact fit.clean (by rcases parts with same | ended <;> simp [*])
    · cases same
    · exact plain.clean member
  have below : ¬ ((Path.join path name).isEmpty = true ∨
      (Path.join path name).toList.head? = some '/') := by
    rintro (empty | absolute)
    · rw [String.isEmpty_iff.mp empty] at joined
      exact List.append_ne_nil_of_left_ne_nil deep _ joined.symm
    · rw [joined, List.head?_append_of_ne_nil _ deep] at absolute
      exact fit.relative (by rcases parts with same | ended <;> simp [*])
  rw [locate, joined, Path.steps_append, Path.steps_of_whole plain.whole, follow, if_neg clean,
    if_neg below, leads]

end Directory

end TxTemplate
