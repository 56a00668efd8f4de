/-!
# Memory of messages

The latest messages of a conversation, oldest first, up to a capacity of at least one.

* `Memory.length_le`: the capacity is never exceeded.
-/

namespace AskLedger

/-- The latest messages of a conversation. -/
structure Memory where
  /-- How many messages fit. -/
  capacity : Nat
  /-- The messages, oldest first. -/
  messages : List String
  /-- At least one message fits, and no more are kept than fit. -/
  isBounded : 1 ≤ capacity ∧ messages.length ≤ capacity

namespace Memory

/-- How many messages fit where nothing else is said. -/
def standardCapacity : Nat := 10

/-- An empty memory; at least one message fits. -/
def ofCapacity (n : Nat) : Memory :=
  ⟨max n 1, [], Nat.le_max_right n 1, Nat.zero_le _⟩

/-- The last `n` elements of a list. -/
def lastOf {α : Type} (n : Nat) (l : List α) : List α :=
  l.drop (l.length - n)

/-- Adds a message; the oldest ones go if they no longer fit. -/
def push (m : Memory) (message : String) : Memory where
  capacity := m.capacity
  messages := lastOf m.capacity (m.messages ++ [message])
  isBounded := ⟨m.isBounded.1, by simp only [lastOf, List.length_drop]; omega⟩

/-- Forgets all messages. -/
def reset (m : Memory) : Memory where
  capacity := m.capacity
  messages := []
  isBounded := ⟨m.isBounded.1, Nat.zero_le _⟩

@[simp] theorem capacity_push (m : Memory) (message : String) :
    (m.push message).capacity = m.capacity := rfl

@[simp] theorem messages_reset (m : Memory) : m.reset.messages = [] := rfl

/-- The capacity is never exceeded. -/
theorem length_le (m : Memory) : m.messages.length ≤ m.capacity := m.isBounded.2

end Memory

end AskLedger
