import Mathlib.Order.Defs.Unbundled
import TxTemplate.Proofs.Outcome
import TxTemplate.Session

set_option autoImplicit false

/-! Actions run on a session: what each step comes to, and the session that it leaves, whether it
fails or not. A preorder on sessions that every step follows is followed by the whole action. -/

namespace TxTemplate

namespace Session

@[simp] theorem calls_record (session : Session) (note : Note) :
    (session.record note).calls = session.calls := by
  rw [record]
  split <;> rfl

@[simp] theorem node_record (session : Session) (note : Note) :
    (session.record note).node = session.node := by
  rw [record]
  split <;> rfl

@[simp] theorem connected_record (session : Session) (note : Note) :
    (session.record note).connected = session.connected := by
  rw [record]
  split <;> rfl

end Session

namespace Action

variable {α β : Type}

/-- What an action comes to on a session, and the session after it. -/
def on (work : Action α) (session : Session) : Except Fault α × Session := work.run.run session

section Steps

variable {work : Action α} {next : α → Action β} {session after : Session}

@[simp] theorem on_pure (value : α) (session : Session) :
    (pure value : Action α).on session = (.ok value, session) := rfl

@[simp] theorem on_throw (fault : Fault) (session : Session) :
    (throw fault : Action α).on session = (.error fault, session) := rfl

theorem on_bind (work : Action α) (next : α → Action β) (session : Session) :
    (work >>= next).on session =
      match work.on session with
      | (.ok value, after) => (next value).on after
      | (.error fault, after) => (.error fault, after) := by
  show (ExceptT.bindCont next (work.on session).1).run (work.on session).2 = _
  rcases work.on session with ⟨outcome, after⟩
  cases outcome <;> rfl

theorem on_bind_of_ok {value : α} (done : work.on session = (.ok value, after)) :
    (work >>= next).on session = (next value).on after := by
  rw [on_bind, done]

theorem on_bind_of_outcome (value : α) (done : (work.on session).1 = .ok value) :
    (work >>= next).on session = (next value).on (work.on session).2 :=
  on_bind_of_ok (Prod.ext done rfl)

/-- Where the later part comes to the same on every session, so does the whole from its first
part. -/
theorem outcome_on_bind {outcome : Except Fault α} {last : α → Except Fault β}
    (first : (work.on session).1 = outcome)
    (later : ∀ value after, ((next value).on after).1 = last value) :
    ((work >>= next).on session).1 = outcome >>= last := by
  subst first
  rw [on_bind]
  rcases work.on session with ⟨outcome, after⟩
  cases outcome with
  | error fault => rfl
  | ok value => exact later value after

theorem outcome_on_bind_of_ok {value : α} {result : Except Fault β}
    (first : (work.on session).1 = .ok value)
    (later : ∀ after, ((next value).on after).1 = result) :
    ((work >>= next).on session).1 = result := by
  rw [on_bind]
  rcases reached : work.on session with ⟨outcome, after⟩
  rw [reached] at first
  subst first
  exact later after

theorem on_tryCatch (work : Action α) (handler : Fault → Action α) (session : Session) :
    (tryCatch work handler).on session =
      match work.on session with
      | (.ok value, after) => (.ok value, after)
      | (.error fault, after) => (handler fault).on after := by
  rcases reached : work.on session with ⟨outcome, after⟩
  have ran : StateT.run (ExceptT.run work) session = (outcome, after) := reached
  rw [on, ExceptT.run_tryCatch, StateT.run_bind, ran]
  cases outcome <;> rfl

theorem on_discard (work : Action α) (session : Session) :
    (discard work).on session = ((work.on session).1.map fun _ => ⟨⟩, (work.on session).2) := by
  have same : discard work = work >>= fun _ => pure ⟨⟩ := map_eq_pure_bind _ work
  rw [same, on_bind]
  rcases work.on session with ⟨outcome, after⟩
  cases outcome <;> rfl

@[simp] theorem on_get (session : Session) :
    (get : Action Session).on session = (.ok session, session) := rfl

@[simp] theorem on_set (session after : Session) :
    (set after : Action PUnit).on session = (.ok ⟨⟩, after) := rfl

@[simp] theorem on_modify (change : Session → Session) (session : Session) :
    (modify change : Action PUnit).on session = (.ok ⟨⟩, change session) := rfl

@[simp] theorem on_files (session : Session) :
    files.on session = (.ok session.directory, session) := rfl

@[simp] theorem on_note (topic : Topic) (level : Level) (text : String) (session : Session) :
    (note topic level text).on session = (.ok (), session.record ⟨topic, level, text⟩) := rfl

@[simp] theorem on_call (made : Call) (session : Session) :
    (call made).on session = (.ok (), session.call made) := rfl

theorem on_forM_cons (step : α → Action PUnit) (item : α) (rest : List α) (session : Session) :
    ((item :: rest).forM step).on session = (step item >>= fun _ => rest.forM step).on session :=
  rfl

theorem outcome_on_forM_note (topic : Topic) (level : Level) {shown : α → String} (items : List α)
    (session : Session) :
    ((items.forM fun item => note topic level (shown item)).on session).1 = .ok ⟨⟩ := by
  induction items generalizing session with
  | nil => rfl
  | cons item rest ih => exact ih _

@[simp] theorem on_ofExcept (outcome : Except Fault α) (session : Session) :
    (ofExcept outcome).on session = (outcome, session) := by
  cases outcome <;> rfl

@[simp] theorem on_liftM (outcome : Except Fault α) (session : Session) :
    (liftM outcome : Action α).on session = (outcome, session) := rfl

@[simp] theorem on_ofTraced (work : Traced α) (session : Session) :
    (ofTraced work).on session = (work.outcome, work.notes.foldl Session.record session) := by
  rw [ofTraced, on_bind, on_modify]
  exact on_ofExcept _ _

theorem on_write (path : String) (content : Content) (session : Session) :
    (write path content).on session =
      match session.directory.write path content with
      | .ok written => (.ok ⟨⟩, { session with directory := written })
      | .error fault => (.error fault, session) := by
  rw [write, changeFiles, on_bind_of_ok (on_files session), on_bind, on_ofExcept]
  cases session.directory.write path content <;> rfl

end Steps

/-! ### Relations along a run -/

/-- Whatever an action comes to, the session after it is related to the one before. -/
def Follows (relation : Session → Session → Prop) (work : Action α) : Prop :=
  ∀ session, relation session (work.on session).2

section Follows

variable {relation : Session → Session → Prop}

theorem Follows.mono {wider : Session → Session → Prop} {work : Action α}
    (follows : Follows relation work)
    (implies : ∀ before after, relation before after → wider before after) : Follows wider work :=
  fun session => implies _ _ (follows session)

theorem follows_modify {change : Session → Session}
    (changed : ∀ session, relation session (change session)) :
    Follows relation (modify change : Action PUnit) := changed

theorem Follows.discard {work : Action α} (follows : Follows relation work) :
    Follows relation (discard work) := by
  intro session
  rw [on_discard]
  exact follows session

variable [IsPreorder Session relation]

theorem follows_pure (value : α) : Follows relation (pure value) :=
  fun session => refl_of relation session

theorem follows_throw (fault : Fault) : Follows relation (throw fault : Action α) :=
  fun session => refl_of relation session

theorem follows_ofExcept (outcome : Except Fault α) : Follows relation (ofExcept outcome) := by
  intro session
  rw [on_ofExcept]
  exact refl_of relation session

theorem follows_liftM (outcome : Except Fault α) : Follows relation (liftM outcome : Action α) :=
  fun session => refl_of relation session

theorem follows_get : Follows relation (get : Action Session) :=
  fun session => refl_of relation session

theorem follows_files : Follows relation files := fun session => refl_of relation session

theorem follows_later {work : Action α} {next : α → Action β}
    (later : ∀ value, Follows relation (next value)) (session : Session) :
    relation (work.on session).2 ((work >>= next).on session).2 := by
  rw [on_bind]
  rcases work.on session with ⟨outcome, after⟩
  cases outcome with
  | error fault => exact refl_of relation after
  | ok value => exact later value after

theorem Follows.bind {work : Action α} {next : α → Action β} (first : Follows relation work)
    (later : ∀ value, Follows relation (next value)) : Follows relation (work >>= next) :=
  fun session => trans_of relation (first session) (follows_later later session)

/-- A handler goes on from the session that a fault left. -/
theorem Follows.tryCatch {work : Action α} {handler : Fault → Action α}
    (first : Follows relation work) (handled : ∀ fault, Follows relation (handler fault)) :
    Follows relation (tryCatch work handler) := by
  intro session
  have related := first session
  rw [on_tryCatch]
  rcases reached : work.on session with ⟨outcome, after⟩
  rw [reached] at related
  cases outcome with
  | ok value => exact related
  | error fault => exact trans_of relation related (handled fault after)

theorem follows_mapM {step : α → Action β} (each : ∀ item, Follows relation (step item))
    (items : List α) :
    Follows relation (items.mapM step) := by
  induction items with
  | nil => exact follows_pure []
  | cons item rest ih =>
      rw [List.mapM_cons]
      exact (each item).bind fun result => ih.bind fun results => follows_pure (result :: results)

theorem follows_forM {step : α → Action PUnit} (each : ∀ item, Follows relation (step item))
    (items : List α) :
    Follows relation (items.forM step) := by
  induction items with
  | nil => exact fun session => refl_of relation session
  | cons item rest ih => exact (each item).bind fun _ => ih

theorem follows_ofTraced (recorded : ∀ session note, relation session (Session.record session note))
    (work : Traced α) : Follows relation (ofTraced work) := by
  intro session
  rw [on_ofTraced]
  dsimp only
  generalize work.notes = notes
  induction notes generalizing session with
  | nil => exact refl_of relation session
  | cons note rest ih => exact trans_of relation (recorded session note) (ih _)

end Follows

end Action

end TxTemplate
