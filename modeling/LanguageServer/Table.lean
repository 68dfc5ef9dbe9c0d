/-! Tables that hold at most one value under a key, in the order in which the keys came. -/

namespace LanguageServer

structure Table (κ : Type u) (ν : Type v) where
  entries : List (κ × ν) := []
  deriving Repr

namespace Table

variable {κ : Type u} {ν : Type v} [DecidableEq κ]

instance : EmptyCollection (Table κ ν) := ⟨⟨[]⟩⟩

instance : Inhabited (Table κ ν) := ⟨∅⟩

def get? (table : Table κ ν) (key : κ) : Option ν :=
  (table.entries.find? fun entry => entry.1 = key).map (·.2)

def contains (table : Table κ ν) (key : κ) : Bool :=
  (table.get? key).isSome

omit [DecidableEq κ] in
def keys (table : Table κ ν) : List κ :=
  table.entries.map (·.1)

omit [DecidableEq κ] in
def size (table : Table κ ν) : Nat :=
  table.entries.length

def putEntry (key : κ) (value : ν) : List (κ × ν) → List (κ × ν)
  | [] => [(key, value)]
  | (other, old) :: rest =>
    if other = key then (key, value) :: rest else (other, old) :: putEntry key value rest

/-- Puts a value under a key. A key that was there keeps its place and loses its value. -/
def put (table : Table κ ν) (key : κ) (value : ν) : Table κ ν :=
  ⟨putEntry key value table.entries⟩

def erase (table : Table κ ν) (key : κ) : Table κ ν :=
  ⟨table.entries.filter fun entry => entry.1 ≠ key⟩

@[simp]
theorem get?_empty (key : κ) : (∅ : Table κ ν).get? key = none := rfl

theorem get?_of_isEmpty {table : Table κ ν} (empty : table.entries.isEmpty = true) (key : κ) :
    table.get? key = none := by
  rw [get?, List.isEmpty_iff.mp empty]
  rfl

theorem get?_put (table : Table κ ν) (key other : κ) (value : ν) :
    (table.put key value).get? other = if other = key then some value else table.get? other := by
  obtain ⟨entries⟩ := table
  simp only [get?, put]
  induction entries with
  | nil => by_cases same : key = other <;> simp [putEntry, same, Ne.symm, eq_comm]
  | cons head rest ih =>
    obtain ⟨first, old⟩ := head
    by_cases here : first = key
    · subst here
      by_cases same : other = first <;> simp [putEntry, same, eq_comm]
    · by_cases same : first = other
      · subst same; simp [putEntry, here]
      · simpa [putEntry, here, same, List.find?_cons] using ih

theorem entries_put_of_absent {table : Table κ ν} {key : κ} (absent : table.get? key = none)
    (value : ν) : (table.put key value).entries = table.entries ++ [(key, value)] := by
  obtain ⟨entries⟩ := table
  simp only [get?, put] at absent ⊢
  induction entries with
  | nil => rfl
  | cons head rest ih =>
    obtain ⟨first, old⟩ := head
    by_cases here : first = key
    · simp [here] at absent
    · rw [putEntry, if_neg here, ih (by simpa [here] using absent), List.cons_append]

theorem get?_erase (table : Table κ ν) (key other : κ) :
    (table.erase key).get? other = if other = key then none else table.get? other := by
  obtain ⟨entries⟩ := table
  simp only [get?, erase]
  induction entries with
  | nil => simp
  | cons head rest ih =>
    obtain ⟨first, old⟩ := head
    by_cases here : first = key
    · subst here
      by_cases same : other = first
      · subst same; simp
      · simpa [same, Ne.symm same, List.find?_cons] using ih
    · by_cases same : first = other
      · subst same; simp [here]
      · simpa [here, same, List.find?_cons] using ih

@[simp]
theorem get?_put_self (table : Table κ ν) (key : κ) (value : ν) :
    (table.put key value).get? key = some value := by
  rw [get?_put, if_pos rfl]

theorem get?_put_of_ne (table : Table κ ν) {key other : κ} (value : ν) (different : other ≠ key) :
    (table.put key value).get? other = table.get? other := by
  rw [get?_put, if_neg different]

@[simp]
theorem get?_erase_self (table : Table κ ν) (key : κ) : (table.erase key).get? key = none := by
  rw [get?_erase, if_pos rfl]

theorem get?_erase_of_ne (table : Table κ ν) {key other : κ} (different : other ≠ key) :
    (table.erase key).get? other = table.get? other := by
  rw [get?_erase, if_neg different]

theorem contains_iff (table : Table κ ν) (key : κ) :
    table.contains key = true ↔ ∃ value, table.get? key = some value :=
  Option.isSome_iff_exists

@[simp]
theorem contains_empty (key : κ) : (∅ : Table κ ν).contains key = false := rfl

theorem contains_put (table : Table κ ν) (key other : κ) (value : ν) :
    (table.put key value).contains other = true ↔ other = key ∨ table.contains other = true := by
  rw [contains, get?_put]
  split <;> simp_all [contains]

theorem contains_erase (table : Table κ ν) (key other : κ) :
    (table.erase key).contains other = true ↔ other ≠ key ∧ table.contains other = true := by
  rw [contains, get?_erase]
  split <;> simp_all [contains]

theorem mem_keys (table : Table κ ν) (key : κ) :
    key ∈ table.keys ↔ table.contains key = true := by
  simp [keys, contains, get?]

theorem keys_putEntry_subset (key other : κ) (value : ν) (entries : List (κ × ν))
    (member : other ∈ (putEntry key value entries).map (·.1)) :
    other = key ∨ other ∈ entries.map (·.1) := by
  have found := (mem_keys (Table.put ⟨entries⟩ key value) other).mp member
  rcases (contains_put ..).mp found with same | before
  · exact .inl same
  · exact .inr ((mem_keys ⟨entries⟩ other).mpr before)

theorem nodup_keys_put (table : Table κ ν) (key : κ) (value : ν) (distinct : table.keys.Nodup) :
    (table.put key value).keys.Nodup := by
  obtain ⟨entries⟩ := table
  simp only [keys, put] at distinct ⊢
  induction entries with
  | nil => simp [putEntry]
  | cons head rest ih =>
    obtain ⟨first, old⟩ := head
    obtain ⟨absent, distinct⟩ := List.nodup_cons.mp distinct
    rw [putEntry]
    split
    · rename_i same
      exact List.nodup_cons.mpr ⟨same ▸ absent, distinct⟩
    · rename_i different
      refine List.nodup_cons.mpr ⟨?_, ih distinct⟩
      intro member
      rcases keys_putEntry_subset key first value rest member with same | before
      · exact different same
      · exact absent before

theorem nodup_keys_erase (table : Table κ ν) (key : κ) (distinct : table.keys.Nodup) :
    (table.erase key).keys.Nodup :=
  distinct.sublist (List.filter_sublist.map _)

theorem erase_of_absent {table : Table κ ν} {key : κ}
    (absent : table.get? key = none) : table.erase key = table := by
  obtain ⟨entries⟩ := table
  have missing : ∀ entry ∈ entries, entry.1 ≠ key := by simpa [get?] using absent
  simpa [erase] using missing

theorem get?_of_mem {table : Table κ ν} (distinct : table.keys.Nodup) {key : κ} {value : ν}
    (member : (key, value) ∈ table.entries) : table.get? key = some value := by
  obtain ⟨entries⟩ := table
  simp only [keys, get?] at distinct member ⊢
  induction entries with
  | nil => cases member
  | cons head rest ih =>
    obtain ⟨absent, distinct⟩ := List.nodup_cons.mp distinct
    rcases List.mem_cons.mp member with rfl | inside
    · simp
    · have different : head.1 ≠ key := by
        rintro rfl
        exact absent (List.mem_map.mpr ⟨_, inside, rfl⟩)
      simpa [different] using ih distinct inside

theorem mem_of_get? {table : Table κ ν} {key : κ} {value : ν}
    (found : table.get? key = some value) : (key, value) ∈ table.entries := by
  obtain ⟨⟨same, value⟩, inside, rfl⟩ := Option.map_eq_some_iff.mp found
  obtain rfl : same = key := by simpa using List.find?_some inside
  exact List.mem_of_find?_eq_some inside

/-- What a table holds does not depend on the order of its entries. -/
theorem get?_perm {one other : Table κ ν} (same : one.entries.Perm other.entries)
    (distinct : other.keys.Nodup) :
    one.get? = other.get? := by
  have keys : one.keys.Nodup := (same.map _).nodup_iff.mpr distinct
  funext key
  apply Option.ext
  intro value
  constructor
  · intro found
    exact get?_of_mem distinct (same.mem_iff.mp (mem_of_get? found))
  · intro found
    exact get?_of_mem keys (same.mem_iff.mpr (mem_of_get? found))

end Table

end LanguageServer
