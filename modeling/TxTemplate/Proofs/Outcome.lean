import Mathlib.Data.List.Forall2
import TxTemplate.Journal

set_option autoImplicit false

/-! How sequences of fallible steps come out: the sequence succeeds exactly when each step does, and
a step that leaves notes counts by its outcome alone. -/

namespace TxTemplate.Outcome

variable {ε α β : Type}

@[simp] theorem ok_bind (value : α) (f : α → Except ε β) :
    ((.ok value : Except ε α) >>= f) = f value := rfl

@[simp] theorem error_bind (fault : ε) (f : α → Except ε β) :
    ((.error fault : Except ε α) >>= f) = .error fault := rfl

@[simp] theorem pure_eq_ok (value : α) : (pure value : Except ε α) = .ok value := rfl

theorem bind_eq_ok {x : Except ε α} {f : α → Except ε β} {result : β} :
    (x >>= f) = .ok result ↔ ∃ value, x = .ok value ∧ f value = .ok result := by
  cases x with
  | error fault => simp
  | ok value => simp

theorem toOption_eq_some {x : Except ε α} {value : α} :
    x.toOption = some value ↔ x = .ok value := by
  cases x with
  | error fault => simp [Except.toOption]
  | ok other => simp [Except.toOption]

theorem mapM_eq_ok {f : α → Except ε β} {items : List α} {results : List β} :
    items.mapM f = .ok results ↔
      List.Forall₂ (fun item result => f item = .ok result) items results := by
  induction items generalizing results with
  | nil =>
      constructor
      · intro done
        obtain rfl : [] = results := Except.ok.inj done
        exact .nil
      · rintro ⟨⟩
        rfl
  | cons item rest ih =>
      rw [List.mapM_cons]
      constructor
      · intro done
        obtain ⟨result, first, later⟩ := bind_eq_ok.mp done
        obtain ⟨more, others, same⟩ := bind_eq_ok.mp later
        obtain rfl : result :: more = results := Except.ok.inj same
        exact .cons first (ih.mp others)
      · rintro ⟨⟩
        rename_i first others
        rw [first, ok_bind, ih.mpr others]
        rfl

theorem exists_mapM {f : α → Except ε β} {items : List α}
    (each : ∀ item ∈ items, ∃ result, f item = .ok result) :
    ∃ results, items.mapM f = .ok results := by
  induction items with
  | nil => exact ⟨[], rfl⟩
  | cons item rest ih =>
      rw [List.forall_mem_cons] at each
      obtain ⟨result, first⟩ := each.1
      obtain ⟨results, later⟩ := ih each.2
      exact ⟨result :: results, by rw [List.mapM_cons, first, ok_bind, later]; rfl⟩

theorem exists_mapM_iff {f : α → Except ε β} {items : List α} :
    (∃ results, items.mapM f = .ok results) ↔ ∀ item ∈ items, ∃ result, f item = .ok result := by
  refine ⟨?_, exists_mapM⟩
  rintro ⟨results, done⟩
  replace done := mapM_eq_ok.mp done
  induction done with
  | nil => exact fun _ member => absurd member List.not_mem_nil
  | cons first _ ih =>
      rw [List.forall_mem_cons]
      exact ⟨⟨_, first⟩, ih⟩

/-- Steps whose items are the results of earlier ones. -/
theorem forall₂_comp {γ : Type} {first : α → β → Prop} {second : β → γ → Prop} {items : List α}
    {between : List β} {results : List γ} (firsts : List.Forall₂ first items between)
    (seconds : List.Forall₂ second between results) :
    List.Forall₂ (fun item result => ∃ middle, first item middle ∧ second middle result) items
      results := by
  induction firsts generalizing results with
  | nil =>
      cases seconds
      exact .nil
  | cons here _ ih =>
      cases seconds with
      | cons there later => exact .cons ⟨_, here, there⟩ (ih later)

theorem exists_of_mem_results {step : α → β → Prop} {items : List α} {results : List β}
    (each : List.Forall₂ step items results) : ∀ result ∈ results, ∃ item, step item result := by
  induction each with
  | nil => exact fun _ member => absurd member List.not_mem_nil
  | cons here _ ih =>
      rw [List.forall_mem_cons]
      exact ⟨⟨_, here⟩, ih⟩

end TxTemplate.Outcome

namespace TxTemplate.Traced

variable {α β : Type}

@[simp] theorem outcome_liftM (outcome : Except Fault α) :
    (liftM outcome : Traced α).outcome = outcome := rfl

theorem liftM_ok_bind (value : α) (f : α → Traced β) :
    (liftM (.ok value : Except Fault α) : Traced α) >>= f = f value :=
  pure_bind value f

/-- What follows a computation matters only for the values it can give. -/
theorem bind_congr_of_outcome {x : Traced α} {f g : α → Traced β}
    (same : ∀ value, x.outcome = .ok value → f value = g value) : x >>= f = x >>= g := by
  obtain ⟨notes, outcome⟩ := x
  cases outcome with
  | error fault => rfl
  | ok value =>
      have here := same value rfl
      simp only [bind, andThen, here]

theorem outcome_mapM (f : α → Traced β) (items : List α) :
    (items.mapM f).outcome = items.mapM fun item => (f item).outcome := by
  induction items with
  | nil => rfl
  | cons item rest ih =>
      rw [List.mapM_cons, List.mapM_cons, outcome_bind]
      congr 1
      funext result
      rw [outcome_bind, ih]
      rfl

end TxTemplate.Traced
