/-!
Tables: values found by a key. A key keeps the place where it first came in, whatever is put
under it later.

Main statements: what a look-up finds after a put (`get?_put_self`, `get?_put_of_ne`), and which
keys a table then has (`keys_put`).
-/

namespace CommandMarkup

/-- Values by key, in the order in which the keys first came in. -/
structure Table (κ α : Type) where
  entries : List (κ × α)
  deriving DecidableEq

namespace Table

variable {κ α : Type} [DecidableEq κ]

/-- The table without entries. -/
def empty : Table κ α := ⟨[]⟩

/-- The keys in order. -/
def keys (table : Table κ α) : List κ := table.entries.map Prod.fst

/-- The value under a key among `entries`. -/
def find? (key : κ) : List (κ × α) → Option α
  | [] => none
  | (k, v) :: rest => if k = key then some v else find? key rest

/-- The entries with `value` under `key`, at the place of the key or else at the end. -/
def insertInto (key : κ) (value : α) : List (κ × α) → List (κ × α)
  | [] => [(key, value)]
  | (k, v) :: rest =>
    if k = key then (key, value) :: rest else (k, v) :: insertInto key value rest

/-- The value under a key. -/
def get? (table : Table κ α) (key : κ) : Option α := find? key table.entries

/-- Puts a value under a key; an earlier one is overwritten in its place. -/
def put (table : Table κ α) (key : κ) (value : α) : Table κ α :=
  ⟨insertInto key value table.entries⟩

/-- The table that arises when the entries are put in one by one. -/
def ofEntries (entries : List (κ × α)) : Table κ α :=
  entries.foldl (fun table entry => table.put entry.1 entry.2) empty

/-- Two tables agree when they have the same keys with the same values, in whatever order. -/
def Agrees (t u : Table κ α) : Prop := ∀ key, t.get? key = u.get? key

/-- Whether every entry of `t` is found in `u` too. -/
def within [DecidableEq α] (t u : Table κ α) : Bool :=
  t.keys.all fun key => decide (t.get? key = u.get? key)

/-- Decides agreement by looking at the keys of both tables. -/
def agrees [DecidableEq α] (t u : Table κ α) : Bool := t.within u && u.within t

@[simp] theorem get?_empty (key : κ) : (empty : Table κ α).get? key = none := rfl

omit [DecidableEq κ] in
@[simp] theorem keys_empty : (empty : Table κ α).keys = [] := rfl

theorem find?_insertInto_self (key : κ) (value : α) (entries : List (κ × α)) :
    find? key (insertInto key value entries) = some value := by
  induction entries with
  | nil => simp [insertInto, find?]
  | cons entry rest ih =>
    by_cases hKey : entry.1 = key
    · simp [insertInto, find?, hKey]
    · simp [insertInto, find?, hKey, ih]

theorem find?_insertInto_of_ne {key other : κ} (hNe : other ≠ key) (value : α)
    (entries : List (κ × α)) :
    find? other (insertInto key value entries) = find? other entries := by
  induction entries with
  | nil => simp [insertInto, find?, hNe.symm]
  | cons entry rest ih =>
    by_cases hKey : entry.1 = key
    · simp [insertInto, find?, hKey, hNe.symm]
    · simp [insertInto, find?, hKey, ih]

@[simp] theorem get?_put_self (table : Table κ α) (key : κ) (value : α) :
    (table.put key value).get? key = some value :=
  find?_insertInto_self key value table.entries

theorem get?_put_of_ne (table : Table κ α) {key other : κ} (hNe : other ≠ key) (value : α) :
    (table.put key value).get? other = table.get? other :=
  find?_insertInto_of_ne hNe value table.entries

theorem get?_put (table : Table κ α) (key other : κ) (value : α) :
    (table.put key value).get? other = if other = key then some value else table.get? other := by
  by_cases hKey : other = key
  · simp [hKey]
  · simp [hKey, get?_put_of_ne table hKey]

/-- Putting something in empties no entry. -/
theorem get?_put_ne_none (table : Table κ α) (key : κ) (value : α) {other : κ}
    (h : table.get? other ≠ none) : (table.put key value).get? other ≠ none := by
  rw [get?_put]
  split
  · exact Option.some_ne_none value
  · exact h

theorem keys_insertInto (key : κ) (value : α) (entries : List (κ × α)) :
    (insertInto key value entries).map Prod.fst =
      if key ∈ entries.map Prod.fst then entries.map Prod.fst
      else entries.map Prod.fst ++ [key] := by
  induction entries with
  | nil => simp [insertInto]
  | cons entry rest ih =>
    by_cases hKey : entry.1 = key
    · simp [insertInto, hKey]
    · have hNe : key ≠ entry.1 := fun h => hKey h.symm
      by_cases hMem : key ∈ rest.map Prod.fst
      · simp only [insertInto, hKey, if_false, List.map_cons, ih, List.mem_cons, hMem, or_true,
          if_true]
      · simp only [insertInto, hKey, if_false, List.map_cons, ih, List.mem_cons, hMem, hNe,
          or_self, List.cons_append]

/-- A new key goes to the end, a known one stays where it is. -/
theorem keys_put (table : Table κ α) (key : κ) (value : α) :
    (table.put key value).keys = if key ∈ table.keys then table.keys else table.keys ++ [key] :=
  keys_insertInto key value table.entries

theorem get?_eq_none_iff (table : Table κ α) (key : κ) :
    table.get? key = none ↔ key ∉ table.keys := by
  obtain ⟨entries⟩ := table
  simp only [get?, keys]
  induction entries with
  | nil => simp [find?]
  | cons entry rest ih =>
    by_cases hKey : entry.1 = key
    · simp [find?, hKey]
    · have hNe : key ≠ entry.1 := fun h => hKey h.symm
      simp [find?, hKey, hNe, ih]

theorem agrees_eq_true_iff [DecidableEq α] (t u : Table κ α) : t.agrees u = true ↔ Agrees t u := by
  simp only [agrees, within, Bool.and_eq_true, List.all_eq_true, decide_eq_true_eq, Agrees]
  constructor
  · rintro ⟨hLeft, hRight⟩ key
    by_cases ht : key ∈ t.keys
    · exact hLeft key ht
    · by_cases hu : key ∈ u.keys
      · exact (hRight key hu).symm
      · rw [(get?_eq_none_iff t key).2 ht, (get?_eq_none_iff u key).2 hu]
  · intro h
    exact ⟨fun key _ => h key, fun key _ => (h key).symm⟩

end Table

end CommandMarkup
