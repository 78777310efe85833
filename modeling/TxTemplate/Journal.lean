import TxTemplate.Fault

set_option autoImplicit false

/-! Notes that the work leaves behind, and computations that leave them. A `Traced` computation
keeps its notes when it fails; its outcome alone is that of an ordinary computation with faults. -/

namespace TxTemplate

inductive Level where
  | debug
  | info
  | warning
  | error
  | critical
  deriving Repr, DecidableEq

namespace Level

def rank : Level → Nat
  | .debug => 10
  | .info => 20
  | .warning => 30
  | .error => 40
  | .critical => 50

def name : Level → String
  | .debug => "DEBUG"
  | .info => "INFO"
  | .warning => "WARNING"
  | .error => "ERROR"
  | .critical => "CRITICAL"

def all : List Level := [.debug, .info, .warning, .error, .critical]

def ofName? (name : String) : Option Level := all.find? fun level => level.name == name

end Level

inductive Topic where
  | packing
  | decompiling
  | reformatting
  | dumping
  | reporting
  | submitting
  | client
  | command
  deriving Repr, DecidableEq

def Topic.name : Topic → String
  | .packing => "soltnet.tx_format.data_format"
  | .decompiling => "soltnet.tx_format.parse_tx"
  | .reformatting => "soltnet.tools.data_format"
  | .dumping => "soltnet.tools.dump"
  | .reporting => "soltnet.tools.parse"
  | .submitting => "soltnet.tools.tx"
  | .client => "soltnet.core.client"
  | .command => "soltnet.cli"

structure Note where
  topic : Topic
  level : Level
  text : String
  deriving Repr, DecidableEq

def Note.line (note : Note) : String := note.level.name ++ " " ++ note.text

def Note.fileLine (note : Note) : String :=
  note.topic.name ++ " - " ++ note.level.name ++ " - " ++ note.text

structure Traced (α : Type) where
  notes : List Note
  outcome : Except Fault α

namespace Traced

variable {α β : Type}

def andThen (x : Traced α) (f : α → Traced β) : Traced β :=
  match x.outcome with
  | .error fault => ⟨x.notes, .error fault⟩
  | .ok value => ⟨x.notes ++ (f value).notes, (f value).outcome⟩

instance : Monad Traced where
  pure value := ⟨[], .ok value⟩
  bind := andThen

def quiet (outcome : Except Fault α) : Traced α := ⟨[], outcome⟩

def fail (fault : Fault) : Traced α := ⟨[], .error fault⟩

def note (topic : Topic) (level : Level) (text : String) : Traced Unit :=
  ⟨[⟨topic, level, text⟩], .ok ()⟩

instance : MonadExceptOf Fault Traced where
  throw := fail
  tryCatch x handler :=
    match x.outcome with
    | .ok _ => x
    | .error fault => ⟨x.notes ++ (handler fault).notes, (handler fault).outcome⟩

instance : MonadLift (Except Fault) Traced where
  monadLift := quiet

@[simp] theorem outcome_pure (value : α) : (pure value : Traced α).outcome = .ok value := rfl

@[simp] theorem outcome_quiet (outcome : Except Fault α) : (quiet outcome).outcome = outcome := rfl

@[simp] theorem outcome_note (topic : Topic) (level : Level) (text : String) :
    (note topic level text).outcome = .ok () := rfl

private theorem id_map_traced {α : Type} (x : Traced α) : id <$> x = x := by
  cases x with
  | mk notes outcome => cases outcome <;> simp [Functor.map, andThen]

private theorem bind_assoc_traced {α β γ : Type} (x : Traced α) (f : α → Traced β)
    (g : β → Traced γ) : x >>= f >>= g = x >>= fun value => f value >>= g := by
  cases x with
  | mk notes outcome =>
      cases outcome with
      | error fault => rfl
      | ok value =>
          simp only [bind, andThen]
          cases (f value).outcome <;> simp

instance : LawfulMonad Traced :=
  LawfulMonad.mk' Traced id_map_traced (fun _ _ => by simp [bind, pure, andThen]) bind_assoc_traced

@[simp] theorem outcome_bind (x : Traced α) (f : α → Traced β) :
    (x >>= f).outcome = x.outcome >>= fun value => (f value).outcome := by
  cases x with
  | mk notes outcome =>
      cases outcome with
      | error fault => rfl
      | ok value => rfl

end Traced

end TxTemplate
