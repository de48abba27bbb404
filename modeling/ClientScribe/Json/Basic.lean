/-!
JSON values.  Whole numbers and floating-point numbers are told apart, as their texts are, and the
members of an object keep the order in which their keys arrived.
-/

namespace ClientScribe

inductive Json where
  | null
  | bool (b : Bool)
  | int (n : Int)
  | float (x : Float)
  | str (s : String)
  | arr (items : List Json)
  | obj (members : List (String × Json))
deriving Inhabited

namespace Json

/-- The members of an object, one for each key. -/
abbrev Members := List (String × Json)

/-- Sets a member.  A key that is present keeps its place; a new one goes to the end. -/
def put {α : Type} (key : String) (value : α) : List (String × α) → List (String × α)
  | [] => [(key, value)]
  | (k, v) :: rest => if k = key then (key, value) :: rest else (k, v) :: put key value rest

/-- Sets the members of `patch` one after another. -/
def override {α : Type} (members patch : List (String × α)) : List (String × α) :=
  patch.foldl (fun acc m => put m.1 m.2 acc) members

/-- The value of a key, if the value is an object that has it. -/
def get? (key : String) : Json → Option Json
  | .obj members => members.lookup key
  | _ => none

/-- The value put under a key is there afterwards. -/
theorem lookup_put {α : Type} (key : String) (value : α) (members : List (String × α)) :
    (put key value members).lookup key = some value := by
  induction members with
  | nil => simp [put]
  | cons m rest ih =>
    obtain ⟨k, v⟩ := m
    by_cases h : k = key
    · simp [put, h]
    · have : (key == k) = false := by simpa using fun e => h e.symm
      simp [put, h, List.lookup_cons, this, ih]

/-- Other keys keep their values. -/
theorem lookup_put_of_ne {α : Type} {key other : String} (h : other ≠ key) (value : α)
    (members : List (String × α)) :
    (put key value members).lookup other = members.lookup other := by
  induction members with
  | nil =>
    have : (other == key) = false := by simpa using h
    simp [put, List.lookup_cons, this]
  | cons m rest ih =>
    obtain ⟨k, v⟩ := m
    by_cases hk : k = key
    · subst hk
      have : (other == k) = false := by simpa using h
      simp [put, List.lookup_cons, this]
    · by_cases ho : other = k
      · simp [put, hk, ho]
      · have : (other == k) = false := by simpa using ho
        simp [put, hk, List.lookup_cons, this, ih]

/-- Members that are not set keep their values. -/
theorem lookup_override_of_not_mem {α : Type} {key : String} {members patch : List (String × α)}
    (h : key ∉ patch.map Prod.fst) : (override members patch).lookup key = members.lookup key := by
  induction patch generalizing members with
  | nil => rfl
  | cons m patch ih =>
    rw [List.map_cons, List.mem_cons, not_or] at h
    exact (ih h.2).trans (lookup_put_of_ne h.1 m.2 members)

/-- What is set last under a key counts. -/
theorem lookup_override {α : Type} (members patch : List (String × α)) (key : String) :
    (override members patch).lookup key = (patch.reverse.lookup key).or (members.lookup key) := by
  induction patch generalizing members with
  | nil => rfl
  | cons m patch ih =>
    obtain ⟨k, v⟩ := m
    have hput : (put k v members).lookup key = ([(k, v)].lookup key).or (members.lookup key) := by
      by_cases hkey : key = k
      · simp [hkey, lookup_put]
      · simp [lookup_put_of_ne hkey, List.lookup_cons, beq_eq_false_iff_ne.2 hkey]
    calc (override members ((k, v) :: patch)).lookup key
      _ = (override (put k v members) patch).lookup key := rfl
      _ = (((k, v) :: patch).reverse.lookup key).or (members.lookup key) := by
        rw [ih, hput, List.reverse_cons, List.lookup_append, Option.or_assoc]

theorem lookup_map {α β : Type} (f : α → β) (members : List (String × α)) (key : String) :
    (members.map fun m => (m.1, f m.2)).lookup key = (members.lookup key).map f := by
  induction members with
  | nil => rfl
  | cons m members ih =>
    rw [List.map_cons, List.lookup_cons, List.lookup_cons]
    cases key == m.1 with
    | true => rfl
    | false => exact ih

end Json

end ClientScribe
