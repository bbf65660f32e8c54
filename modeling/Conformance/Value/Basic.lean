import Conformance.Number.Exact
/-!
# Values

The values that schemas describe, and schemas themselves. An array is a list or a
tuple; the two differ in how they are displayed and in nothing else. An object is
its entries in order. A `foreign` value stands outside JSON: it is an object of some
other class and has no kind of its own.
-/

namespace Conformance

inductive Sequence where
  | list
  | tuple
deriving DecidableEq

/-- An object of another class. The number tells it from every other object. No class has
the name of a kind whose values have parts: `Operand` is for objects of such classes. -/
structure Foreign where
  number : Nat
  typeName : {name : String // name ≠ "array" ∧ name ≠ "object"}
deriving DecidableEq

inductive Value where
  | null
  | bool (b : Bool)
  | num (n : Number)
  | str (s : String)
  | arr (sequence : Sequence) (items : List Value)
  | obj (entries : List (String × Value))
  | foreign (id : Foreign) (text : Option String)
deriving Inhabited

namespace Value

abbrev int (n : Int) : Value := .num (.int n)

abbrev list (items : List Value) : Value := .arr .list items

end Value

/-! ## Entries -/

namespace Entries

variable {α : Type}

/-- Puts `value` under `key`: in place of the value it has, else at the end. -/
def insert (key : String) (value : α) : List (String × α) → List (String × α)
  | [] => [(key, value)]
  | (k, v) :: rest => if k = key then (key, value) :: rest else (k, v) :: insert key value rest

/-- Later entries win, at the place of the first. -/
def merge (base overrides : List (String × α)) : List (String × α) :=
  overrides.foldl (fun entries (k, v) => insert k v entries) base

def ofList (entries : List (String × α)) : List (String × α) := merge [] entries

def has (key : String) (entries : List (String × α)) : Bool := (entries.lookup key).isSome

theorem lookup_cons (k key : String) (value : α) (entries : List (String × α)) :
    ((key, value) :: entries).lookup k = if k = key then some value else entries.lookup k := by
  by_cases h : k = key
  · subst h; rw [List.lookup_cons_self, if_pos rfl]
  · rw [List.lookup_cons, beq_eq_false_iff_ne.2 h, if_neg h]

theorem mem_of_lookup {key : String} {value : α} {entries : List (String × α)}
    (h : entries.lookup key = some value) : (key, value) ∈ entries := by
  induction entries with
  | nil => cases h
  | cons e rest ih =>
    obtain ⟨k, v⟩ := e
    rw [lookup_cons] at h
    split at h
    · next hk => cases h; rw [hk]; exact List.mem_cons_self
    · exact List.mem_cons_of_mem _ (ih h)

theorem lookup_insert (key k : String) (value : α) (entries : List (String × α)) :
    (insert key value entries).lookup k = if k = key then some value else entries.lookup k := by
  induction entries with
  | nil => rw [insert, lookup_cons]
  | cons e rest ih =>
    obtain ⟨k', v'⟩ := e
    rw [insert]
    split
    · next h => subst h; simp only [lookup_cons]; split <;> rfl
    · next h =>
      rw [lookup_cons, lookup_cons, ih]
      split
      · next hk => subst hk; rw [if_neg h]
      · rfl

end Entries

end Conformance
