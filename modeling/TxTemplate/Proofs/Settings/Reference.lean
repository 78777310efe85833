import Mathlib
import TxTemplate.Proofs.Outcome
import TxTemplate.Settings.Environment

set_option autoImplicit false

/-! References in settings. Resolution goes through the cells of a document, one after the other,
and replaces a reference in each; a cell that is shared is replaced as often as it is come to. Where
no mapping is shared, that is once for every reference that is a field, at any depth of mappings. -/

namespace TxTemplate

open Outcome

variable {α β : Type}

/-- An outcome that decides a condition: a value that is right where it is met, and a refusal where
it is not. -/
inductive Decides (condition : Prop) (right : α → Prop) : Except Fault α → Prop
  | ok {value : α} (met : condition) (holds : right value) : Decides condition right (.ok value)
  | error {fault : Fault} (unmet : ¬ condition) (refusal : fault.isRefusal = true) :
      Decides condition right (.error fault)

namespace Decides

variable {condition other : Prop} {right : α → Prop} {outcome : Except Fault α}

theorem bind {later : α → β → Prop} {next : α → Except Fault β}
    (first : Decides condition right outcome)
    (rest : ∀ value, right value → Decides other (later value) (next value)) :
    Decides (condition ∧ other) (fun result => ∃ value, right value ∧ later value result)
      (outcome >>= next) := by
  cases first with
  | error unmet refusal => exact .error (fun both => unmet both.1) refusal
  | @ok value met holds =>
      show Decides _ _ (next value)
      cases reached : next value with
      | ok result =>
          cases reached ▸ rest value holds with
          | ok more last => exact .ok ⟨met, more⟩ ⟨value, holds, last⟩
      | error fault =>
          cases reached ▸ rest value holds with
          | error unmet refusal => exact .error (fun both => unmet both.2) refusal

theorem value (result : α) : Decides True (· = result) (.ok result) := .ok trivial rfl

theorem mono {wider : α → Prop} (decides : Decides condition right outcome)
    (same : condition ↔ other) (implies : ∀ value, right value → wider value) :
    Decides other wider outcome := by
  cases decides with
  | ok met holds => exact .ok (same.mp met) (implies _ holds)
  | error unmet refusal => exact .error (fun met => unmet (same.mpr met)) refusal

theorem map {f : α → β} {wider : β → Prop} (decides : Decides condition right outcome)
    (implies : ∀ value, right value → wider (f value)) :
    Decides condition wider (outcome.map f) := by
  cases decides with
  | ok met holds => exact .ok met (implies _ holds)
  | error unmet refusal => exact .error unmet refusal

theorem exists_ok_iff (decides : Decides condition right outcome) :
    (∃ value, outcome = .ok value) ↔ condition := by
  cases decides with
  | ok met holds => exact iff_of_true ⟨_, rfl⟩ met
  | error unmet refusal => exact iff_of_false nofun unmet

theorem right_of_ok {value : α} (decides : Decides condition right outcome)
    (done : outcome = .ok value) :
    right value := by
  subst done
  cases decides with
  | ok met holds => exact holds

theorem refused (decides : Decides condition right outcome) (unmet : ¬ condition) :
    ∃ fault, outcome = .error fault ∧ fault.isRefusal = true := by
  cases decides with
  | ok met holds => exact absurd met unmet
  | error unmet refusal => exact ⟨_, rfl, refusal⟩

end Decides

/-! ### References -/

namespace Environment

def referenceTo (name : String) : String := "$\x7b" ++ name ++ "\x7d"

theorem reference?_eq_some {text name : String} :
    reference? text = some name ↔ text = referenceTo name := by
  have spelled : (referenceTo name).toList = '$' :: '\x7b' :: (name.toList ++ ['\x7d']) := by
    rw [referenceTo, String.toList_append, String.toList_append]
    rfl
  constructor
  · intro found
    unfold reference? at found
    split at found
    · rename_i rest letters
      split at found
      · rename_i last
        obtain ⟨inner, rfl⟩ := List.getLast?_eq_some_iff.mp last
        rw [List.dropLast_concat] at found
        refine String.toList_inj.mp ?_
        rw [letters, spelled, ← Option.some.inj found, String.toList_ofList]
      · cases found
    · cases found
  · rintro rfl
    rw [reference?, spelled]
    show (if (name.toList ++ ['\x7d']).getLast? = some '\x7d' then
      some (String.ofList (name.toList ++ ['\x7d']).dropLast) else none) = some name
    rw [if_pos List.getLast?_concat, List.dropLast_concat, String.ofList_toList]

/-- A value holds a reference to a variable: as a text, or in a field at any depth of objects. -/
inductive Refers (name : String) : Json → Prop
  | text : Refers name (.str (referenceTo name))
  | field {fields : Fields} {key : String} {value : Json} (member : (key, value) ∈ fields)
      (inner : Refers name value) : Refers name (.obj fields)

theorem refers_obj_cons {name key : String} {value : Json} {rest : Fields} :
    Refers name (.obj ((key, value) :: rest)) ↔ Refers name value ∨ Refers name (.obj rest) := by
  constructor
  · intro refers
    cases refers with
    | field member inner =>
        rcases List.mem_cons.mp member with same | member
        · cases same
          exact .inl inner
        · exact .inr (.field member inner)
  · rintro (inner | inner)
    · exact .field List.mem_cons_self inner
    · cases inner with
      | field member inner => exact .field (List.mem_cons_of_mem _ member) inner

variable (environment : Environment)

/-- Every reference in a value names a variable. -/
def Defines (value : Json) : Prop :=
  ∀ name, Refers name value → (environment.value? name).isSome = true

/-- A text in place of a reference: the value of the variable as it is, with no look at what it
spells. -/
def replacedText (text : String) : String :=
  match reference? text with
  | some name => (environment.value? name).getD text
  | none => text

mutual
def replaced : Json → Json
  | .str text => .str (environment.replacedText text)
  | .obj fields => .obj (replacedFields fields)
  | other => other

def replacedFields : Fields → Fields
  | [] => []
  | (key, value) :: rest => (key, replaced value) :: replacedFields rest
end

theorem defines_str (text : String) :
    environment.Defines (.str text) ↔
      ∀ name, reference? text = some name → (environment.value? name).isSome = true := by
  constructor
  · intro defined name found
    rw [reference?_eq_some] at found
    exact defined name (found ▸ .text)
  · rintro defined name ⟨⟩
    exact defined name (reference?_eq_some.mpr rfl)

theorem decides_resolveText (text : String) :
    Decides (environment.Defines (.str text)) (· = environment.replacedText text)
      (environment.resolveText text) := by
  refine Decides.mono ?_ (defines_str environment text).symm fun _ same => same
  unfold resolveText replacedText
  cases reference? text with
  | none => exact .ok nofun rfl
  | some name =>
      dsimp only
      cases held : environment.value? name with
      | some value =>
          refine .ok (fun other same => ?_) rfl
          rw [← Option.some.inj same, held]
          rfl
      | none =>
          refine .error (fun defined => ?_) rfl
          have absent := defined name rfl
          rw [held] at absent
          cases absent

end Environment

/-! ### Cells -/

namespace Written

mutual
/-- The cells that resolution comes to, one after the other. -/
def reached : Written → List Nat
  | .text cell => [cell]
  | .mapping fields => reachedIn fields
  | _ => []

def reachedIn : WrittenFields → List Nat
  | [] => []
  | (_, written) :: rest => reached written ++ reachedIn rest
end

mutual
/-- The cells that stand in lists. -/
def listed : Written → List Nat
  | .list items => standing items
  | .mapping fields => listedIn fields
  | _ => []

def standing : List Written → List Nat
  | [] => []
  | item :: rest => reached item ++ listed item ++ standing rest

def listedIn : WrittenFields → List Nat
  | [] => []
  | (_, written) :: rest => listed written ++ listedIn rest
end

/-- No mapping that resolution goes through stands in another place. -/
structure Unshared (fields : WrittenFields) : Prop where
  once : (reachedIn fields).Nodup
  apart : ∀ cell ∈ reachedIn fields, cell ∉ listedIn fields

theorem keys_fieldsOf (cells : Cells) (fields : WrittenFields) :
    (fieldsOf cells fields).map Prod.fst = fields.map Prod.fst := by
  induction fields with
  | nil => rfl
  | cons field rest ih =>
      rw [fieldsOf, List.map_cons, ih]
      rfl

theorem lookup_fieldsOf (cells : Cells) (fields : WrittenFields) (key : String) :
    (fieldsOf cells fields).lookup key = (fields.lookup key).map (value cells) := by
  induction fields with
  | nil => rfl
  | cons field rest ih =>
      obtain ⟨name, written⟩ := field
      rw [fieldsOf, List.lookup_cons, List.lookup_cons, ih]
      cases key == name <;> rfl

section Same

variable {cells after : Cells}

mutual
theorem value_congr (written : Written)
    (same : ∀ cell ∈ reached written ++ listed written, after cell = cells cell) :
    value after written = value cells written := by
  cases written with
  | null | bool _ | int _ | float _ => rfl
  | text cell =>
      rw [value, value, same cell (by simp [reached])]
  | list items =>
      rw [value, value,
        values_congr items (by simpa only [reached, listed, List.nil_append] using same)]
  | mapping fields =>
      rw [value, value, fieldsOf_congr fields (by simpa only [reached, listed] using same)]

theorem values_congr (items : List Written)
    (same : ∀ cell ∈ standing items, after cell = cells cell) :
    values after items = values cells items := by
  cases items with
  | nil => rfl
  | cons item rest =>
      rw [standing, List.forall_mem_append] at same
      rw [values, values, value_congr item same.1, values_congr rest same.2]

theorem fieldsOf_congr (fields : WrittenFields)
    (same : ∀ cell ∈ reachedIn fields ++ listedIn fields, after cell = cells cell) :
    fieldsOf after fields = fieldsOf cells fields := by
  cases fields with
  | nil => rfl
  | cons field rest =>
      obtain ⟨key, written⟩ := field
      simp only [reachedIn, listedIn, List.forall_mem_append] at same
      obtain ⟨⟨here, later⟩, lists, more⟩ := same
      rw [fieldsOf, fieldsOf, value_congr written (List.forall_mem_append.mpr ⟨here, lists⟩),
        fieldsOf_congr rest (List.forall_mem_append.mpr ⟨later, more⟩)]
end

end Same

end Written

namespace Environment

open Written

variable (environment : Environment)

section Replaced

variable {cells after : Cells}

mutual
/-- A value whose texts are replaced once, those in lists apart, is the value with its references
replaced. -/
theorem value_replaced (written : Written)
    (once : ∀ cell ∈ reached written, after cell = environment.replacedText (cells cell))
    (kept : ∀ cell ∈ listed written, after cell = cells cell) :
    value after written = environment.replaced (value cells written) := by
  cases written with
  | null | bool _ | int _ | float _ => rfl
  | text cell =>
      rw [value, value, replaced, once cell (List.mem_singleton_self cell)]
  | list items =>
      exact congrArg Json.arr (values_congr items kept)
  | mapping fields =>
      rw [value, value, replaced, fieldsOf_replaced fields once kept]

theorem fieldsOf_replaced (fields : WrittenFields)
    (once : ∀ cell ∈ reachedIn fields, after cell = environment.replacedText (cells cell))
    (kept : ∀ cell ∈ listedIn fields, after cell = cells cell) :
    fieldsOf after fields = environment.replacedFields (fieldsOf cells fields) := by
  cases fields with
  | nil => rfl
  | cons field rest =>
      obtain ⟨key, written⟩ := field
      rw [reachedIn, List.forall_mem_append] at once
      rw [listedIn, List.forall_mem_append] at kept
      rw [fieldsOf, fieldsOf, replacedFields, value_replaced written once.1 kept.1,
        fieldsOf_replaced rest once.2 kept.2]
end

mutual
/-- The references in a value are in the cells that resolution comes to. -/
theorem refers_value_iff (name : String) (written : Written) :
    Refers name (value cells written) ↔
      ∃ cell ∈ reached written, cells cell = referenceTo name := by
  cases written with
  | null | bool _ | int _ | float _ => exact ⟨nofun, by simp [reached]⟩
  | list items => exact ⟨nofun, by simp [reached]⟩
  | text cell =>
      rw [value, reached]
      constructor
      · intro refers
        generalize spelled : cells cell = text at refers
        cases refers with
        | text => exact ⟨cell, List.mem_singleton_self cell, spelled⟩
      · rintro ⟨other, member, spelled⟩
        rw [← List.mem_singleton.mp member, spelled]
        exact .text
  | mapping fields =>
      rw [value, reached]
      exact refers_fieldsOf_iff name fields

theorem refers_fieldsOf_iff (name : String) (fields : WrittenFields) :
    Refers name (.obj (fieldsOf cells fields)) ↔
      ∃ cell ∈ reachedIn fields, cells cell = referenceTo name := by
  cases fields with
  | nil =>
      refine ⟨fun refers => ?_, by simp [reachedIn]⟩
      cases refers with
      | field member _ => cases member
  | cons field rest =>
      obtain ⟨key, written⟩ := field
      rw [fieldsOf, refers_obj_cons, refers_value_iff name written, refers_fieldsOf_iff name rest,
        reachedIn]
      simp only [List.mem_append, or_and_right, exists_or]
end

end Replaced

/-! ### Resolving -/

mutual
theorem resolve_eq_foldlM (cells : Cells) (written : Written) :
    environment.resolve cells written = (reached written).foldlM environment.resolveCell cells := by
  cases written with
  | null | bool _ | int _ | float _ | list _ => rfl
  | text cell =>
      rw [resolve, reached, List.foldlM_cons]
      cases environment.resolveCell cells cell <;> rfl
  | mapping fields =>
      rw [resolve, reached]
      exact resolveWritten_eq_foldlM cells fields

theorem resolveWritten_eq_foldlM (cells : Cells) (fields : WrittenFields) :
    environment.resolveWritten cells fields = (reachedIn fields).foldlM environment.resolveCell
      cells := by
  cases fields with
  | nil => rfl
  | cons field rest =>
      obtain ⟨key, written⟩ := field
      rw [resolveWritten, reachedIn, List.foldlM_append, resolve_eq_foldlM cells written]
      exact bind_congr fun after => resolveWritten_eq_foldlM after rest
end

/-- What the cells hold once resolution came to these: a cell is replaced as often as it was come
to. -/
def settled (todo : List Nat) (cells : Cells) : Cells :=
  fun cell => environment.replacedText^[todo.count cell] (cells cell)

/-- Whenever resolution comes to a cell, a reference in it names a variable. -/
def DefinesAlong (todo : List Nat) (cells : Cells) : Prop :=
  ∀ cell, ∀ times < todo.count cell,
    environment.Defines (.str (environment.replacedText^[times] (cells cell)))

@[simp] theorem put_self (cells : Cells) (cell : Nat) (text : String) :
    Cells.put cells cell text cell = text :=
  if_pos rfl

theorem put_of_ne {cells : Cells} {cell other : Nat} (different : other ≠ cell) (text : String) :
    Cells.put cells cell text other = cells other := if_neg different

theorem settled_cons (cell : Nat) (rest : List Nat) (cells : Cells) :
    environment.settled (cell :: rest) cells =
      environment.settled rest (Cells.put cells cell (environment.replacedText (cells cell))) := by
  funext other
  unfold settled
  by_cases same : other = cell
  · subst same
    rw [List.count_cons_self, put_self, Function.iterate_succ_apply]
  · rw [List.count_cons_of_ne (Ne.symm same), put_of_ne same]

theorem definesAlong_cons (cell : Nat) (rest : List Nat) (cells : Cells) :
    environment.DefinesAlong (cell :: rest) cells ↔
      environment.Defines (.str (cells cell)) ∧
        environment.DefinesAlong rest
          (Cells.put cells cell (environment.replacedText (cells cell))) := by
  constructor
  · intro along
    refine ⟨along cell 0 (by simp), fun other times less => ?_⟩
    by_cases same : other = cell
    · subst same
      rw [put_self, ← Function.iterate_succ_apply]
      exact along other (times + 1) (by rw [List.count_cons_self]; exact Nat.succ_lt_succ less)
    · rw [put_of_ne same]
      exact along other times (by rw [List.count_cons_of_ne (Ne.symm same)]; exact less)
  · rintro ⟨first, along⟩ other times less
    have later := along other
    by_cases same : other = cell
    · subst same
      rw [List.count_cons_self] at less
      rw [put_self] at later
      cases times with
      | zero => exact first
      | succ times =>
          rw [Function.iterate_succ_apply]
          exact later times (Nat.lt_of_succ_lt_succ less)
    · rw [List.count_cons_of_ne (Ne.symm same)] at less
      rw [put_of_ne same] at later
      exact later times less

theorem decides_foldlM (todo : List Nat) (cells : Cells) :
    Decides (environment.DefinesAlong todo cells) (· = environment.settled todo cells)
      (todo.foldlM environment.resolveCell cells) := by
  -- On the cells to come to. A cell may come again, so its text is general: it was replaced before.
  induction todo generalizing cells with
  | nil => exact .ok (fun _ _ less => absurd less (Nat.not_lt_zero _)) rfl
  | cons cell rest ih =>
      have first : Decides (environment.Defines (.str (cells cell)))
          (· = Cells.put cells cell (environment.replacedText (cells cell)))
              (environment.resolveCell cells cell) := by
        refine (decides_resolveText environment (cells cell)).map ?_
        rintro _ rfl
        rfl
      have later : ∀ after, after = Cells.put cells cell (environment.replacedText (cells cell)) →
          Decides (environment.DefinesAlong rest
            (Cells.put cells cell (environment.replacedText (cells cell))))
            (· = environment.settled (cell :: rest) cells)
                (rest.foldlM environment.resolveCell after) := by
        rintro _ rfl
        rw [settled_cons]
        exact ih _
      rw [List.foldlM_cons]
      refine (first.bind later).mono (definesAlong_cons environment cell rest cells).symm ?_
      rintro result ⟨-, -, settled⟩
      exact settled

/-- The fields of a document once it is resolved. -/
def settledFields (written : WrittenFields) (cells : Cells) : Fields :=
  fieldsOf (environment.settled (reachedIn written) cells) written

section Unshared

variable {written : WrittenFields} (unshared : Unshared written) (cells : Cells)

include unshared

theorem definesAlong_iff_of_unshared :
    environment.DefinesAlong (reachedIn written) cells ↔
      environment.Defines (.obj (fieldsOf cells written)) := by
  constructor
  · intro along name refers
    obtain ⟨cell, member, spelled⟩ := (refers_fieldsOf_iff name written).mp refers
    have first := along cell 0 (List.count_pos_iff.mpr member)
    rw [Function.iterate_zero, id, spelled] at first
    exact first name .text
  · intro defines cell times less
    have once := List.nodup_iff_count_le_one.mp unshared.once cell
    obtain rfl : times = 0 := by omega
    have member : cell ∈ reachedIn written := List.count_pos_iff.mp (by omega)
    intro name refers
    refine defines name ((refers_fieldsOf_iff name written).mpr ⟨cell, member, ?_⟩)
    rw [Function.iterate_zero, id] at refers
    generalize cells cell = text at refers ⊢
    cases refers
    rfl

theorem settledFields_of_unshared :
    environment.settledFields written cells =
      environment.replacedFields (fieldsOf cells written) := by
  refine fieldsOf_replaced environment written (fun cell member => ?_) fun cell member => ?_
  · rw [settled, List.count_eq_one_of_mem unshared.once member, Function.iterate_one]
  · have absent : cell ∉ reachedIn written := fun reached => unshared.apart cell reached member
    rw [settled, List.count_eq_zero_of_not_mem absent, Function.iterate_zero, id]

end Unshared

end Environment

end TxTemplate
