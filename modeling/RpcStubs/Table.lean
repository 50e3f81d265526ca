/-
Tables keyed by text, in order of first insertion.

A second insertion under a key replaces the value and keeps the place.  The view of a table is
its look-up function together with its list of keys; the lemmas here say what insertion does to
both.
-/

namespace RpcStubs

/-- Values under text keys, in order of first insertion. -/
structure Table (α : Type) where
  entries : List (String × α) := []

namespace Table

variable {α : Type}

/-- The value under a key in a list of entries. -/
def get? (key : String) : List (String × α) → Option α
  | [] => none
  | e :: es => if e.1 = key then some e.2 else get? key es

def find? (t : Table α) (key : String) : Option α :=
  get? key t.entries

def has (t : Table α) (key : String) : Bool :=
  (t.find? key).isSome

/-- The keys, in order of first insertion. -/
def keys (t : Table α) : List String :=
  t.entries.map (·.1)

/-- The values, in the order of their keys. -/
def values (t : Table α) : List α :=
  t.entries.map (·.2)

def size (t : Table α) : Nat :=
  t.entries.length

/-- A list of entries with the value under a key replaced in place, or added at the end. -/
def put (key : String) (value : α) : List (String × α) → List (String × α)
  | [] => [(key, value)]
  | e :: es => if e.1 = key then (key, value) :: es else e :: put key value es

/-- The table with a value set under a key. -/
def insert (t : Table α) (key : String) (value : α) : Table α :=
  ⟨put key value t.entries⟩

/-- The table that results from inserting the pairs one after the other. -/
def ofList (pairs : List (String × α)) : Table α :=
  pairs.foldl (fun t p => t.insert p.1 p.2) {}

theorem get?_put (key other : String) (value : α) (es : List (String × α)) :
    get? other (put key value es) = if other = key then some value else get? other es := by
  induction es with
  | nil => by_cases h : key = other <;> simp [put, get?, h, eq_comm]
  | cons e es ih =>
    by_cases he : e.1 = key
    · by_cases h : other = key <;> grind [put, get?]
    · by_cases h : e.1 = other <;> grind [put, get?]

@[simp]
theorem find?_insert (t : Table α) (key other : String) (value : α) :
    (t.insert key value).find? other = if other = key then some value else t.find? other :=
  get?_put key other value t.entries

theorem mem_keys_of_find? {t : Table α} {key : String} {value : α}
    (h : t.find? key = some value) : key ∈ t.keys := by
  obtain ⟨es⟩ := t
  simp only [find?, keys] at h ⊢
  induction es with
  | nil => simp [get?] at h
  | cons e es ih =>
    rw [get?] at h
    split at h
    next he => simp [he]
    next => exact List.mem_cons_of_mem _ (ih h)

end Table

end RpcStubs
