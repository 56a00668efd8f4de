import AskLedger.Ledger.Entry

/-!
# Sorting entries

A stable sort by insertion: elements are taken from left to right, and each is moved in front of the
elements that it strictly precedes, starting from the last one. Elements of which neither precedes
the other keep their order. The newest entries of a ledger are found by sorting on dates this way.

* `sorted_perm`: sorting rearranges a list.
* `Entry.newestFirst_perm`: so does putting the newest first.
-/

namespace AskLedger

/-- Puts `a` into a list that is kept with its last element first: in front of the elements that it
precedes. -/
def insertFromEnd {α : Type} (precedes : α → α → Bool) (a : α) : List α → List α
  | [] => [a]
  | b :: rest =>
    if precedes a b then b :: insertFromEnd precedes a rest else a :: b :: rest

/-- Takes the elements of a list one after another; `done` holds those already in order, the last
one first. -/
def sortInto {α : Type} (precedes : α → α → Bool) (done : List α) : List α → List α
  | [] => done.reverse
  | a :: rest => sortInto precedes (insertFromEnd precedes a done) rest

/-- The list in the order of `precedes`; elements of which neither precedes the other keep their
order. -/
def sorted {α : Type} (precedes : α → α → Bool) (l : List α) : List α :=
  sortInto precedes [] l

/-- An insertion adds one element and moves others only. -/
theorem insertFromEnd_perm {α : Type} (precedes : α → α → Bool) (a : α) (l : List α) :
    (insertFromEnd precedes a l).Perm (a :: l) := by
  induction l with
  | nil => exact .refl _
  | cons b rest ih =>
    rw [insertFromEnd]
    split
    · exact (ih.cons b).trans (.swap a b rest)
    · exact .refl _

/-- Inserting elements one after another keeps all of them. -/
theorem sortInto_perm {α : Type} (precedes : α → α → Bool) (done l : List α) :
    (sortInto precedes done l).Perm (l ++ done) := by
  induction l generalizing done with
  | nil => exact List.reverse_perm done
  | cons a rest ih =>
    rw [sortInto]
    exact (ih _).trans (((insertFromEnd_perm precedes a done).append_left rest).trans
      List.perm_middle)

/-- Sorting rearranges a list. -/
theorem sorted_perm {α : Type} (precedes : α → α → Bool) (l : List α) :
    (sorted precedes l).Perm l := by
  simpa [sorted] using sortInto_perm precedes [] l

@[simp] theorem length_sorted {α : Type} (precedes : α → α → Bool) (l : List α) :
    (sorted precedes l).length = l.length :=
  (sorted_perm precedes l).length_eq

@[simp] theorem mem_sorted {α : Type} {precedes : α → α → Bool} {l : List α} {a : α} :
    a ∈ sorted precedes l ↔ a ∈ l :=
  (sorted_perm precedes l).mem_iff

namespace Entry

/-- Whether `a` happened after `b`. -/
def isNewer (a b : Entry) : Bool := decide (b.date < a.date)

/-- The entries by date, the newest first; entries of one moment keep their order. -/
def newestFirst (entries : List Entry) : List Entry :=
  sorted isNewer entries

/-- The newest `n` entries, the newest first. -/
def newest (n : Nat) (entries : List Entry) : List Entry :=
  (newestFirst entries).take n

/-- Putting the newest first rearranges the entries. -/
theorem newestFirst_perm (entries : List Entry) : (newestFirst entries).Perm entries :=
  sorted_perm isNewer entries

end Entry

end AskLedger
