import TxTemplate.Proofs.Session

set_option autoImplicit false

/-! Stray faults: those that are neither refusals nor faults of the system. They are told apart by
where they come from, and a computation is confined to the origins that its stray faults can have.
What a sequence of steps can end with is put together from what each step can. -/

namespace TxTemplate

/-- Where a fault comes from that is neither a refusal nor a fault of the system: settings that are
not well formed, a value of the wrong kind, a count out of range, lists nested too deeply in texts,
an address that is not derived, a message that cannot be signed, or a node that rejects or breaks
off a call. -/
inductive Origin where
  | document
  | shape
  | count
  | depth
  | derivation
  | signing
  | rejection
  | node
  deriving DecidableEq, Repr

namespace Fault

def origin? : Fault → Option Origin
  | .settings cause => if cause.isRefusal then none else some .document
  | .shape .notText => none
  | .shape _ => some .shape
  | .countTooLarge => some .count
  | .nestedTooDeeply => some .depth
  | .derivation => some .derivation
  | .signing _ => some .signing
  | .node cause =>
    match cause.kind with
    | .value | .system _ => none
    | .rejected | .transport => some .rejection
    | .other _ => some .node
  | _ => none

theorem origin?_eq_none_iff (fault : Fault) :
    fault.origin? = none ↔ (fault.isRefusal || fault.isSystem) = true := by
  cases fault with
  | settings cause =>
      cases refusal : cause.isRefusal <;> simp [origin?, isRefusal, isSystem, refusal]
  | storage cause => cases cause <;> simp [origin?, isRefusal, isSystem]
  | node cause =>
      obtain ⟨kind, text⟩ := cause
      cases kind <;> simp [origin?, isRefusal, isSystem]
  | shape cause => cases cause <;> simp [origin?, isRefusal, isSystem]
  | _ => simp [origin?, isRefusal, isSystem]

/-- What a command reports: refusals, faults of the system, and rejections by the node. -/
theorem isReported_iff (fault : Fault) :
    fault.isReported = true ↔ fault.origin? = none ∨ fault.origin? = some .rejection := by
  unfold isReported
  rw [Bool.or_eq_true, ← origin?_eq_none_iff]
  refine or_congr Iff.rfl ?_
  cases fault with
  | settings cause => cases refusal : cause.isRefusal <;> simp [origin?, refusal]
  | node cause =>
      obtain ⟨kind, text⟩ := cause
      cases kind <;> simp [origin?]
  | shape cause => cases cause <;> simp [origin?]
  | _ => simp [origin?]

/-- A fault that, if it is stray, has one of these origins. -/
def Within (origins : List Origin) (fault : Fault) : Prop :=
  ∀ origin, fault.origin? = some origin → origin ∈ origins

variable {origins : List Origin}

theorem within_of_origin?_eq_none {fault : Fault} (known : fault.origin? = none) :
    fault.Within origins := by
  intro origin stray
  rw [known] at stray
  cases stray

theorem within_of_mem {fault : Fault} {origin : Origin} (stray : fault.origin? = some origin)
    (member : origin ∈ origins) : fault.Within origins := by
  intro other found
  rw [stray] at found
  exact Option.some.inj found ▸ member

section Known

@[simp] theorem within_codec (cause : CodecFault) : (codec cause).Within origins :=
  within_of_origin?_eq_none rfl

@[simp] theorem within_numeral (text : String) (flaw : Decimal.Flaw) :
    (numeral text flaw).Within origins :=
  within_of_origin?_eq_none rfl

@[simp] theorem within_nonAscii : nonAscii.Within origins := within_of_origin?_eq_none rfl

@[simp] theorem within_document (path : String) (cause : Json.ReadFault) :
    (document path cause).Within origins :=
  within_of_origin?_eq_none rfl

@[simp] theorem within_keypair (cause : KeypairFault) : (keypair cause).Within origins :=
  within_of_origin?_eq_none rfl

@[simp] theorem within_amount (cause : AmountFault) : (amount cause).Within origins :=
  within_of_origin?_eq_none rfl

@[simp] theorem within_answer (cause : AnswerFault) : (answer cause).Within origins :=
  within_of_origin?_eq_none rfl

@[simp] theorem within_job (cause : JobFault) : (job cause).Within origins :=
  within_of_origin?_eq_none rfl

@[simp] theorem within_storage (cause : StorageFault) : (storage cause).Within origins :=
  within_of_origin?_eq_none rfl

@[simp] theorem within_disconnected (method : String) : (disconnected method).Within origins :=
  within_of_origin?_eq_none rfl

@[simp] theorem within_notText : (shape .notText).Within origins := within_of_origin?_eq_none rfl

theorem within_shape (member : .shape ∈ origins) (cause : ShapeFault) :
    (shape cause).Within origins := by
  cases cause with
  | notText => exact within_notText
  | _ => exact within_of_mem rfl member

end Known

end Fault

variable {α β : Type} {origins : List Origin}

namespace Outcome

/-- A computation whose stray faults have these origins. -/
def Confined (origins : List Origin) (outcome : Except Fault α) : Prop :=
  ∀ fault, outcome = .error fault → fault.Within origins

@[simp] theorem confined_ok (value : α) : Confined origins (.ok value) := nofun

@[simp] theorem confined_error {fault : Fault} :
    Confined origins (.error fault : Except Fault α) ↔ fault.Within origins :=
  ⟨fun confined => confined fault rfl, fun within _ same => Except.error.inj same ▸ within⟩

theorem confined_of_eq_ok {outcome : Except Fault α} {value : α} (done : outcome = .ok value) :
    Confined origins outcome := done ▸ confined_ok value

theorem Confined.bind {outcome : Except Fault α} {next : α → Except Fault β}
    (first : Confined origins outcome)
    (later : ∀ value, outcome = .ok value → Confined origins (next value)) :
    Confined origins (outcome >>= next) := by
  cases outcome with
  | error fault => exact confined_error.mpr (first fault rfl)
  | ok value => exact later value rfl

theorem Confined.map {outcome : Except Fault α} (confined : Confined origins outcome)
    (change : α → β) :
    Confined origins (outcome.map change) := by
  cases outcome with
  | error fault => exact confined_error.mpr (confined fault rfl)
  | ok value => exact confined_ok _

theorem Confined.mapM {step : α → Except Fault β} {items : List α}
    (each : ∀ item ∈ items, Confined origins (step item)) : Confined origins (items.mapM step) := by
  induction items with
  | nil => exact confined_ok []
  | cons item rest ih =>
      rw [List.forall_mem_cons] at each
      rw [List.mapM_cons]
      exact each.1.bind fun _ _ => (ih each.2).bind fun _ _ => confined_ok _

end Outcome

open Outcome

namespace Traced

theorem confined_quiet {outcome : Except Fault α} (confined : Confined origins outcome) :
    Confined origins (quiet outcome).outcome := confined

theorem confined_bind {work : Traced α} {next : α → Traced β}
    (first : Confined origins work.outcome)
    (later : ∀ value, Confined origins (next value).outcome) :
    Confined origins (work >>= next).outcome := by
  rw [outcome_bind]
  exact first.bind fun value _ => later value

theorem confined_mapM {step : α → Traced β} {items : List α}
    (each : ∀ item ∈ items, Confined origins (step item).outcome) :
    Confined origins (items.mapM step).outcome := by
  rw [outcome_mapM]
  exact Confined.mapM each

end Traced

namespace Action

def IsConfined (origins : List Origin) (work : Action α) : Prop :=
  ∀ session, Confined origins (work.on session).1

theorem isConfined_pure (value : α) : IsConfined origins (pure value) := fun _ => confined_ok value

theorem isConfined_throw {fault : Fault} (within : fault.Within origins) :
    IsConfined origins (throw fault : Action α) := fun _ => confined_error.mpr within

theorem isConfined_liftM {outcome : Except Fault α} (confined : Confined origins outcome) :
    IsConfined origins (liftM outcome) := fun _ => confined

theorem isConfined_ofExcept {outcome : Except Fault α} (confined : Confined origins outcome) :
    IsConfined origins (ofExcept outcome) := by
  intro session
  rw [on_ofExcept]
  exact confined

theorem isConfined_ofTraced {work : Traced α} (confined : Confined origins work.outcome) :
    IsConfined origins (ofTraced work) := by
  intro session
  rw [on_ofTraced]
  exact confined

theorem isConfined_get : IsConfined origins (get : Action Session) :=
  fun session => confined_ok session

theorem isConfined_set (after : Session) : IsConfined origins (set after : Action PUnit) :=
  fun _ => confined_ok PUnit.unit

theorem isConfined_modify (change : Session → Session) :
    IsConfined origins (modify change : Action PUnit) :=
  fun _ => confined_ok PUnit.unit

theorem isConfined_files : IsConfined origins files := fun _ => confined_ok _

theorem isConfined_note (topic : Topic) (level : Level) (text : String) :
    IsConfined origins (note topic level text) := fun _ => confined_ok ()

theorem isConfined_call (made : Call) : IsConfined origins (call made) := fun _ => confined_ok ()

theorem IsConfined.bind {work : Action α} {next : α → Action β} (first : IsConfined origins work)
    (later : ∀ value, IsConfined origins (next value)) : IsConfined origins (work >>= next) := by
  intro session
  have start := first session
  rw [on_bind]
  rcases reached : work.on session with ⟨outcome, after⟩
  rw [reached] at start
  cases outcome with
  | error fault => exact confined_error.mpr (start fault rfl)
  | ok value => exact later value after

theorem IsConfined.discard {work : Action α} (confined : IsConfined origins work) :
    IsConfined origins (discard work) := by
  intro session
  rw [on_discard]
  exact (confined session).map _

theorem IsConfined.tryCatch {work : Action α} {handler : Fault → Action α}
    (confined : IsConfined origins work)
    (handled : ∀ fault, fault.Within origins → IsConfined origins (handler fault)) :
    IsConfined origins (tryCatch work handler) := by
  intro session
  have start := confined session
  rw [on_tryCatch]
  rcases reached : work.on session with ⟨outcome, after⟩
  rw [reached] at start
  cases outcome with
  | error fault => exact handled fault (start fault rfl) after
  | ok value => exact confined_ok value

theorem isConfined_mapM {step : α → Action β} {items : List α}
    (each : ∀ item, IsConfined origins (step item)) :
    IsConfined origins (items.mapM step) := by
  induction items with
  | nil => exact isConfined_pure []
  | cons item rest ih =>
      rw [List.mapM_cons]
      exact (each item).bind fun result => ih.bind fun results =>
        isConfined_pure (result :: results)

theorem isConfined_forM {step : α → Action PUnit} {items : List α}
    (each : ∀ item, IsConfined origins (step item)) :
    IsConfined origins (items.forM step) := by
  induction items with
  | nil => exact fun _ => confined_ok PUnit.unit
  | cons item rest ih => exact (each item).bind fun _ => ih

end Action

end TxTemplate
