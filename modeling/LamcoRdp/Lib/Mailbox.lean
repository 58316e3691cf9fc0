/-
LamcoRdp/Lib/Mailbox.lean

A bounded channel and a receiver that keeps the last value only.

The sender gives up when the channel is full.  The receiver empties the channel,
one value at a time and with sends in between, holds on to the value it took last
and acts on that one when the channel is empty.  `newest` is the value that will
be acted on last if nothing more is sent: receiving does not change it, and a
send changes it to the value sent exactly if there is room.
-/
import Mathlib.Data.List.Basic

/-- A channel with its receiver. -/
structure Mailbox (α : Type*) where
  /-- values in the channel, the oldest first -/
  queue : List α
  /-- taken out since the receiver began to empty the channel -/
  held : Option α
  /-- acted on, the last one at the end -/
  done : List α
  deriving DecidableEq, Repr

namespace Mailbox

variable {α : Type*}

/-- Nothing has been sent. -/
def empty : Mailbox α := ⟨[], none, []⟩

/-- `try_send`. -/
def send (capacity : ℕ) (m : Mailbox α) (a : α) : Mailbox α :=
  if m.queue.length < capacity then { m with queue := m.queue ++ [a] } else m

/-- `try_recv`: another value, or the channel is empty and the held one is acted on. -/
def receive (m : Mailbox α) : Mailbox α :=
  match m.queue with
  | a :: queue => { m with queue := queue, held := some a }
  | [] => { m with held := none, done := m.done ++ m.held.toList }

/-- What will be acted on last if nothing more is sent. -/
def newest (m : Mailbox α) : Option α := (m.done ++ m.held.toList ++ m.queue).getLast?

/-- Nothing is left to act on. -/
def Drained (m : Mailbox α) : Prop := m.queue = [] ∧ m.held = none

instance [DecidableEq α] (m : Mailbox α) : Decidable m.Drained :=
  inferInstanceAs (Decidable (_ ∧ _))

theorem newest_of_drained {m : Mailbox α} (h : m.Drained) : m.newest = m.done.getLast? := by
  obtain ⟨hqueue, hheld⟩ := h
  rw [newest, hqueue, hheld, Option.toList_none, List.append_nil, List.append_nil]

theorem newest_receive (m : Mailbox α) : m.receive.newest = m.newest := by
  obtain ⟨queue, held, done⟩ := m
  cases queue with
  | nil => simp [receive, newest]
  | cons a queue =>
      have hne : a :: queue ≠ [] := List.cons_ne_nil a queue
      show (done ++ [a] ++ queue).getLast? = (done ++ held.toList ++ (a :: queue)).getLast?
      rw [List.append_assoc, List.singleton_append, List.getLast?_append_of_ne_nil _ hne,
        List.getLast?_append_of_ne_nil _ hne]

theorem newest_send_of_lt {capacity : ℕ} {m : Mailbox α} (a : α)
    (h : m.queue.length < capacity) : (m.send capacity a).newest = some a := by
  rw [send, if_pos h, newest, ← List.append_assoc, List.getLast?_concat]

theorem newest_of_ne_nil {m : Mailbox α} (h : m.queue ≠ []) : m.newest = m.queue.getLast? := by
  rw [newest, List.getLast?_append_of_ne_nil _ h]

/-- **A send makes its value the newest** exactly if there is room, or the value
is the newest already. -/
theorem newest_send_iff {capacity : ℕ} (hcap : 0 < capacity) (m : Mailbox α) (a : α) :
    (m.send capacity a).newest = some a ↔
      m.queue.length < capacity ∨ m.queue.getLast? = some a := by
  by_cases hroom : m.queue.length < capacity
  · exact iff_of_true (newest_send_of_lt a hroom) (Or.inl hroom)
  · have hne : m.queue ≠ [] := by
      intro hnil
      rw [hnil] at hroom
      exact hroom hcap
    rw [send, if_neg hroom, newest_of_ne_nil hne]
    exact ⟨Or.inr, fun h => h.resolve_left hroom⟩

end Mailbox
