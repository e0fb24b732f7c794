/-!
# Tables

Values by key. A table holds each key once; giving a key a new value keeps its place, and a new key
comes last. Looking up what was inserted is `get?_insert`; a look-up depends on which entries there are
and not on their order (`get?_of_perm`).
-/
namespace BuildFleet

/-- Values by key. Each key occurs once; the order is that of the first occurrences. -/
structure Table (α : Type) where
  entries : List (String × α)
  nodup : (entries.map Prod.fst).Nodup

namespace Table

variable {α : Type}

def empty : Table α := ⟨[], List.nodup_nil⟩

instance : Inhabited (Table α) := ⟨empty⟩

def size (t : Table α) : Nat := t.entries.length

def find? (key : String) : List (String × α) → Option α
  | [] => none
  | (k, x) :: rest => if k = key then some x else find? key rest

def get? (t : Table α) (key : String) : Option α := find? key t.entries

/-- Gives a key its value, at the place of the key's former value if it has one. -/
def put (key : String) (x : α) : List (String × α) → List (String × α)
  | [] => [(key, x)]
  | (k, y) :: rest => if k = key then (key, x) :: rest else (k, y) :: put key x rest

theorem mem_keys_put (key k : String) (x : α) (entries : List (String × α)) :
    k ∈ (put key x entries).map Prod.fst ↔ k = key ∨ k ∈ entries.map Prod.fst := by
  induction entries with
  | nil => simp [put]
  | cons e rest ih =>
    obtain ⟨k', y⟩ := e
    unfold put
    split
    · rename_i h
      subst h
      simp
    · simp only [List.map_cons, List.mem_cons, ih]
      constructor
      · rintro (h | h | h) <;> simp [h]
      · rintro (h | h | h) <;> simp [h]

theorem nodup_put (key : String) (x : α) {entries : List (String × α)}
    (h : (entries.map Prod.fst).Nodup) : ((put key x entries).map Prod.fst).Nodup := by
  induction entries with
  | nil => simp [put]
  | cons e rest ih =>
    obtain ⟨k', y⟩ := e
    rw [List.map_cons, List.nodup_cons] at h
    unfold put
    split
    · rename_i hk
      subst hk
      simpa using h
    · rename_i hk
      rw [List.map_cons, List.nodup_cons, mem_keys_put]
      exact ⟨fun hm => hm.elim hk h.1, ih h.2⟩

def insert (t : Table α) (key : String) (x : α) : Table α :=
  ⟨put key x t.entries, nodup_put key x t.nodup⟩

theorem find?_put (key k : String) (x : α) (entries : List (String × α)) :
    find? k (put key x entries) = if k = key then some x else find? k entries := by
  induction entries with
  | nil => by_cases h : key = k <;> simp [put, find?, h, eq_comm]
  | cons e rest ih =>
    obtain ⟨k', y⟩ := e
    unfold put
    by_cases hk : k' = key
    · subst hk
      by_cases h : k' = k
      · simp [find?, h]
      · simp [find?, h, Ne.symm h]
    · by_cases h : k' = k
      · subst h
        simp [find?, hk]
      · simp [find?, hk, ih, h]

theorem get?_insert (t : Table α) (key k : String) (x : α) :
    (t.insert key x).get? k = if k = key then some x else t.get? k :=
  find?_put key k x t.entries

theorem find?_eq_some_iff {key : String} {x : α} {entries : List (String × α)}
    (h : (entries.map Prod.fst).Nodup) : find? key entries = some x ↔ (key, x) ∈ entries := by
  induction entries with
  | nil => simp [find?]
  | cons e rest ih =>
    obtain ⟨k, y⟩ := e
    rw [List.map_cons, List.nodup_cons] at h
    unfold find?
    split
    · rename_i hk
      subst hk
      have hnot : (k, x) ∉ rest := fun hm => h.1 (List.mem_map.2 ⟨_, hm, rfl⟩)
      simp [hnot, eq_comm]
    · rename_i hk
      simp [ih h.2, Ne.symm hk]

theorem get?_eq_some_iff {t : Table α} {key : String} {x : α} :
    t.get? key = some x ↔ (key, x) ∈ t.entries :=
  find?_eq_some_iff t.nodup

/-- In which order the entries stand does not matter to a look-up. -/
theorem get?_of_perm {t u : Table α} (h : t.entries.Perm u.entries) (key : String) :
    t.get? key = u.get? key :=
  Option.ext fun x => by rw [get?_eq_some_iff, get?_eq_some_iff, h.mem_iff]

end Table

end BuildFleet
