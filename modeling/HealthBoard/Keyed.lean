/-
Lists of pairs in which each key has one value.

A value that is put under a key takes the place of the one that was there, and a new key goes to
the end.  So the order is the order in which the keys were first used, and looking a key up finds
what was put under it last.
-/
namespace HealthBoard

variable {α β : Type} [BEq α]

/-- The value of a key becomes another one, or a new pair is put at the end. -/
def upsert (key : α) (value : β) : List (α × β) → List (α × β)
  | [] => [(key, value)]
  | (other, old) :: rest =>
    if other == key then (key, value) :: rest else (other, old) :: upsert key value rest

theorem lookup_upsert_self [LawfulBEq α] (key : α) (value : β) (l : List (α × β)) :
    (upsert key value l).lookup key = some value := by
  induction l with
  | nil => simp [upsert]
  | cons p rest ih =>
    obtain ⟨other, old⟩ := p
    by_cases h : other = key
    · simp [upsert, h]
    · have h' : (key == other) = false := beq_false_of_ne (Ne.symm h)
      simp [upsert, h, List.lookup_cons, h', ih]

theorem lookup_upsert_ne [LawfulBEq α] {key other : α} (h : other ≠ key) (value : β)
    (l : List (α × β)) : (upsert key value l).lookup other = l.lookup other := by
  have h' : (other == key) = false := beq_false_of_ne h
  induction l with
  | nil => simp [upsert, List.lookup_cons, h']
  | cons p rest ih =>
    obtain ⟨first, old⟩ := p
    by_cases hf : first = key
    · subst hf
      simp [upsert, List.lookup_cons, h']
    · simp [upsert, hf, List.lookup_cons, ih]

end HealthBoard
