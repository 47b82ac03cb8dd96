set_option autoImplicit false

namespace Toolbridge.Keyed

def put {α : Type} (name : String) (a : α) : List (String × α) → List (String × α)
  | [] => [(name, a)]
  | (other, old) :: rest =>
    if other = name then (name, a) :: rest else (other, old) :: put name a rest

def ofList {α : Type} (entries : List (String × α)) : List (String × α) :=
  entries.foldl (fun acc e => put e.1 e.2 acc) []

def names {α : Type} (entries : List (String × α)) : List String := entries.map (·.1)

theorem lookup_put_self {α : Type} (name : String) (a : α) (entries : List (String × α)) :
    (put name a entries).lookup name = some a := by
  induction entries with
  | nil => simp [put]
  | cons e rest ih =>
    obtain ⟨other, old⟩ := e
    by_cases h : other = name
    · simp [put, h]
    · have h' : (name == other) = false := by simpa using fun e => h e.symm
      simp [put, h, List.lookup_cons, h', ih]

theorem lookup_put_of_ne {α : Type} {name other : String} (h : other ≠ name) (a : α)
    (entries : List (String × α)) : (put name a entries).lookup other = entries.lookup other := by
  induction entries with
  | nil =>
    have h' : (other == name) = false := by simpa using h
    simp [put, List.lookup_cons, h']
  | cons e rest ih =>
    obtain ⟨key, old⟩ := e
    by_cases k : key = name
    · have h' : (other == name) = false := by simpa using h
      simp [put, k, List.lookup_cons, h']
    · simp only [put, k, ite_false, List.lookup_cons, ih]

end Toolbridge.Keyed
