import TxTemplate.TypedData.Unpack

set_option autoImplicit false

/-! The bytes of a buffer that a reader takes: so many at an offset. Where the sizes are no negative
numbers, a reading that succeeds lies inside the buffer, and windows one behind the other join. -/

namespace TxTemplate.TypedData

/-- So many bytes of a buffer from an offset on. -/
def window (buffer : Bytes) (offset size : Int) : Bytes :=
  (buffer.drop offset.toNat).take size.toNat

/-- A window that lies in the buffer. An empty one may stand anywhere. -/
def Inside (buffer : Bytes) (offset size : Int) : Prop :=
  size = 0 ∨ 0 ≤ offset ∧ offset + size ≤ buffer.length

variable {buffer : Bytes} {offset size first second : Int}

@[simp] theorem window_zero : window buffer offset 0 = [] := List.take_zero

theorem length_window (inside : Inside buffer offset size) (sized : 0 ≤ size) :
    ((window buffer offset size).length : Int) = size := by
  rw [window, List.length_take, List.length_drop]
  rcases inside with rfl | ⟨start, stop⟩
  · simp
  · omega

theorem window_add (inside : Inside buffer offset first) (frontSized : 0 ≤ first)
    (backSized : 0 ≤ second) :
    window buffer offset (first + second) =
      window buffer offset first ++ window buffer (offset + first) second := by
  rcases inside with rfl | ⟨start, -⟩
  · simp
  · have total : (first + second).toNat = first.toNat + second.toNat := by omega
    have further : (offset + first).toNat = offset.toNat + first.toNat := by omega
    rw [window, window, window, total, further, List.take_add, List.drop_drop]

theorem window_middle (before middle after : Bytes) :
    window (before ++ middle ++ after) before.length middle.length = middle := by
  simp [window]

/-- Reading so many bytes succeeds where they lie in the buffer, an empty reading too. -/
theorem readAt_eq_ok {bytes : Bytes} (sized : 0 ≤ size) :
    readAt buffer offset size = .ok bytes ↔
      0 ≤ offset ∧ offset + size ≤ buffer.length ∧ bytes = window buffer offset size := by
  unfold readAt
  by_cases outside : offset < 0 ∨ (buffer.length : Int) < offset + size
  · rw [if_pos outside]
    constructor
    · intro read
      cases read
    · rintro ⟨start, stop, -⟩
      omega
  · have same : slice buffer offset (offset + size) = window buffer offset size := by
      have stop : ¬ offset + size < 0 := by omega
      have total : (offset + size).toNat = offset.toNat + size.toNat := by omega
      simp only [slice, if_neg stop, window, List.drop_take, total, Nat.add_sub_cancel_left]
    rw [if_neg outside, same]
    constructor
    · intro read
      exact ⟨by omega, by omega, (Except.ok.inj read).symm⟩
    · rintro ⟨-, -, rfl⟩
      rfl

end TxTemplate.TypedData
