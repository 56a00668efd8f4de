/-!
# Named values

Records are given by names and values: the members of an object, or the columns of a record with its
fields. Where each name stands once, what is found under a name is its value.

* `NamedValues.filter_of_mem`, `NamedValues.filter_of_not_mem`: what is found under a name.
-/

namespace AskLedger.NamedValues

variable {α : Type} {named : List (String × α)} {name : String} {value : α}

theorem filter_of_not_mem (h : name ∉ named.map (·.1)) :
    (named.filter fun p => p.1 == name) = [] := by
  refine List.filter_eq_nil_iff.2 fun p hp heq => h ?_
  exact List.mem_map.2 ⟨p, hp, beq_iff_eq.1 heq⟩

theorem filter_of_mem (hnodup : (named.map (·.1)).Nodup) (h : (name, value) ∈ named) :
    (named.filter fun p => p.1 == name) = [(name, value)] := by
  induction named with
  | nil => cases h
  | cons p named ih =>
    obtain ⟨hp, hnodup⟩ := List.nodup_cons.1 hnodup
    rcases List.mem_cons.1 h with rfl | h
    · simp [filter_of_not_mem hp]
    · have hne : p.1 ≠ name := by
        rintro rfl
        exact hp (List.mem_map.2 ⟨_, h, rfl⟩)
      rw [List.filter_cons_of_neg (by simpa using hne), ih hnodup h]

/-- A name has this value, or it is left out and this is the standard value. -/
def Says (named : List (String × α)) (standard : α) (name : String) (value : α) : Prop :=
  (name, value) ∈ named ∨ name ∉ named.map (·.1) ∧ value = standard

/-- What is found of a name that may be left out. -/
def Found (found : Option α) (standard value : α) : Prop :=
  found = some value ∨ found = none ∧ value = standard

end AskLedger.NamedValues
