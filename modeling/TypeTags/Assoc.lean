/-!
# Insertion-ordered maps

A map kept as a list of pairs, in the order in which the keys were first put. Putting a key again
replaces its value and leaves it in its place.
-/

namespace TypeTags

/-- A map from strings, as pairs in insertion order. -/
abbrev Assoc (α : Type) : Type := List (String × α)

namespace Assoc

variable {α : Type}

def get? (m : Assoc α) (key : String) : Option α := m.lookup key

def contains (m : Assoc α) (key : String) : Bool := (m.get? key).isSome

def keys (m : Assoc α) : List String := m.map (·.1)

def values (m : Assoc α) : List α := m.map (·.2)

/-- Put a value at a key: in the place of the key's value if it has one, else at the end. -/
def put (m : Assoc α) (key : String) (value : α) : Assoc α :=
  match m with
  | [] => [(key, value)]
  | (k, v) :: rest => if k = key then (key, value) :: rest else (k, v) :: put rest key value

def putAll (m : Assoc α) (pairs : List (String × α)) : Assoc α :=
  pairs.foldl (fun m (key, value) => m.put key value) m

@[simp] theorem get?_nil (key : String) : get? ([] : Assoc α) key = none := rfl

theorem get?_cons (k : String) (v : α) (m : Assoc α) (key : String) :
    get? ((k, v) :: m) key = if key = k then some v else get? m key := by
  unfold get?
  by_cases h : key = k
  · simp [h]
  · have hb : (key == k) = false := beq_false_of_ne h
    simp [List.lookup_cons, hb, h]

/-- Putting a value at a key changes what is found at that key only. -/
theorem get?_put (m : Assoc α) (key : String) (value : α) (other : String) :
    (m.put key value).get? other = if other = key then some value else m.get? other := by
  induction m with
  | nil => simp [put, get?_cons]
  | cons p m ih =>
    obtain ⟨k, v⟩ := p
    by_cases hk : k = key
    · subst hk
      by_cases h : other = k <;> simp [put, get?_cons, h]
    · by_cases h : other = k
      · subst h
        simp [put, get?_cons, hk]
      · simp [put, get?_cons, hk, h, ih]

end Assoc

end TypeTags
