import DocQuery.Text.Basic

/-!
# Dictionaries in order of insertion

A dictionary is the list of its entries, in the order in which their keys were first inserted.

* `Dict.insert`: replaces the value of a key in its place, or appends a new entry.
* `Dict.get?`: the value of a key.
* `Dict.get?_insert`, `Dict.keys_insert`: what inserting does to the values and to the keys.
-/

namespace DocQuery

/-- Entries by key, in order of first insertion. -/
abbrev Dict (α : Type) := List (Text × α)

namespace Dict

variable {α : Type}

/-- Replaces the value of a key in its place, or appends a new entry. -/
def insert (key : Text) (value : α) : Dict α → Dict α
  | [] => [(key, value)]
  | (k, v) :: rest => if k = key then (key, value) :: rest else (k, v) :: insert key value rest

/-- The value of a key. -/
def get? (key : Text) : Dict α → Option α
  | [] => none
  | (k, v) :: rest => if k = key then some v else get? key rest

/-- The keys in order. -/
def keys (d : Dict α) : List Text := d.map Prod.fst

/-- Inserts entries one after the other. -/
def insertAll (entries : List (Text × α)) (d : Dict α) : Dict α :=
  entries.foldl (fun d entry => insert entry.1 entry.2 d) d

/-- The dictionary that has the given entries inserted one after the other. -/
def ofList (entries : List (Text × α)) : Dict α := insertAll entries []

theorem get?_insert (key k : Text) (value : α) (d : Dict α) :
    get? k (insert key value d) = if key = k then some value else get? k d := by
  induction d with
  | nil => rfl
  | cons e rest ih =>
    obtain ⟨k', v'⟩ := e
    simp only [insert]
    split
    · subst k'; simp only [get?]; split <;> rfl
    · simp only [get?, ih]
      grind

theorem keys_insert (key : Text) (value : α) (d : Dict α) :
    keys (insert key value d) = if key ∈ keys d then keys d else keys d ++ [key] := by
  induction d with
  | nil => rfl
  | cons e rest ih =>
    obtain ⟨k', v'⟩ := e
    simp only [insert, keys] at ih ⊢
    split
    · subst k'; simp
    · simp only [List.map_cons, ih, List.mem_cons]
      grind

end Dict

end DocQuery
