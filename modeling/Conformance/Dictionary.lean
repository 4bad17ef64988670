/-!
# Dictionaries

Finite maps from names to values, listed in ascending order of the names.

## Main definitions

* `Dictionary α`: the entries, as a list
* `Dictionary.insert`: give a name a value, replacing the one it had
* `Dictionary.get?`: the value of a name
-/

namespace Conformance

/-- Names with their values, in ascending order of the names. -/
abbrev Dictionary (α : Type) := List (String × α)

namespace Dictionary

variable {α : Type}

/-- Give the name `k` the value `v`, whatever it had before. -/
def insert (k : String) (v : α) : Dictionary α → Dictionary α
  | [] => [(k, v)]
  | (k', v') :: rest =>
    if k = k' then (k, v) :: rest
    else if k < k' then (k, v) :: (k', v') :: rest
    else (k', v') :: insert k v rest

/-- The value of a name. -/
def get? (d : Dictionary α) (k : String) : Option α :=
  d.lookup k

/-- The dictionary of some entries, of which a later one wins over an earlier one of its name. -/
def ofList (entries : List (String × α)) : Dictionary α :=
  entries.foldl (fun d e => insert e.1 e.2 d) []

@[simp] theorem get?_nil (k : String) : get? ([] : Dictionary α) k = none := rfl

theorem get?_cons (k k' : String) (v : α) (d : Dictionary α) :
    get? ((k', v) :: d) k = if k = k' then some v else get? d k := by
  unfold get?
  rw [List.lookup_cons]
  by_cases h : k = k'
  · simp [h]
  · have hb : (k == k') = false := by simpa using h
    simp [h, hb]

theorem get?_insert_self (k : String) (v : α) (d : Dictionary α) :
    get? (insert k v d) k = some v := by
  induction d with
  | nil => simp [insert, get?_cons]
  | cons e d ih =>
    obtain ⟨k', v'⟩ := e
    by_cases h : k = k'
    · simp [insert, h, get?_cons]
    · by_cases h' : k < k' <;> simp [insert, h, h', get?_cons, ih]

theorem get?_insert_of_ne {k k' : String} (h : k' ≠ k) (v : α) (d : Dictionary α) :
    get? (insert k v d) k' = get? d k' := by
  induction d with
  | nil => simp [insert, get?_cons, h]
  | cons e d ih =>
    obtain ⟨l, w⟩ := e
    by_cases hl : k = l
    · subst hl
      simp [insert, get?_cons, h]
    · by_cases h' : k < l
      · simp [insert, hl, h', get?_cons, h]
      · simp [insert, hl, h', get?_cons, ih]

end Dictionary

end Conformance
