/-!
# Ordered tables

A table binds each of its keys to one value and remembers the order in which the keys came in.
Binding a key again changes its value in place; removing a key and binding it again moves it to the
end. Two tables are equal when they hold the same keys in the same order and agree on every key.
-/

namespace ParamSql

/-- Keys with their values, in the order of insertion and without repetition. -/
structure Table (α : Type) where
  entries : List (String × α)
  nodup : (entries.map Prod.fst).Nodup
  deriving DecidableEq

namespace Table

variable {α β : Type}

def empty : Table α := ⟨[], List.nodup_nil⟩

instance : EmptyCollection (Table α) := ⟨empty⟩

instance : Inhabited (Table α) := ⟨empty⟩

def keys (t : Table α) : List String := t.entries.map Prod.fst

def size (t : Table α) : Nat := t.entries.length

def isEmpty (t : Table α) : Bool := t.entries.isEmpty

instance : Membership String (Table α) := ⟨fun t key => key ∈ t.keys⟩

theorem mem_iff {t : Table α} {key : String} : key ∈ t ↔ key ∈ t.keys := Iff.rfl

instance (key : String) (t : Table α) : Decidable (key ∈ t) :=
  inferInstanceAs (Decidable (key ∈ t.keys))

def get? (t : Table α) (key : String) : Option α := t.entries.lookup key

theorem keys_nodup (t : Table α) : t.keys.Nodup := t.nodup

@[simp] theorem entries_empty : (∅ : Table α).entries = [] := rfl

@[simp] theorem keys_empty : (∅ : Table α).keys = [] := rfl

@[simp] theorem get?_empty (key : String) : (∅ : Table α).get? key = none := rfl

@[simp] theorem not_mem_empty (key : String) : ¬ key ∈ (∅ : Table α) := List.not_mem_nil

theorem lookup_cons_if (k : String) (v : α) (rest : List (String × α)) (key : String) :
    ((k, v) :: rest).lookup key = if key = k then some v else rest.lookup key := by
  by_cases h : key = k
  · simp [h]
  · rw [List.lookup_cons, beq_eq_false_iff_ne.2 h, if_neg h]

theorem lookup_isSome (entries : List (String × α)) (key : String) :
    (entries.lookup key).isSome = true ↔ key ∈ entries.map Prod.fst := by
  induction entries with
  | nil => simp
  | cons e rest ih =>
    obtain ⟨k, v⟩ := e
    rw [lookup_cons_if, List.map_cons, List.mem_cons, ← ih]
    by_cases h : key = k <;> simp [h]

theorem isSome_get? {t : Table α} {key : String} : (t.get? key).isSome = true ↔ key ∈ t :=
  lookup_isSome t.entries key

theorem get?_eq_none {t : Table α} {key : String} : t.get? key = none ↔ key ∉ t := by
  rw [← isSome_get?]; simp

theorem mem_of_get? {t : Table α} {key : String} {value : α} (h : t.get? key = some value) :
    key ∈ t :=
  isSome_get?.mp (Option.isSome_of_eq_some h)

theorem exists_get? {t : Table α} {key : String} (h : key ∈ t) :
    ∃ value, t.get? key = some value :=
  Option.isSome_iff_exists.mp (isSome_get?.mpr h)

/-- Binds `key` in a list of entries, in place when it is there and at the end otherwise. -/
def putEntry (key : String) (value : α) : List (String × α) → List (String × α)
  | [] => [(key, value)]
  | e :: rest => if e.1 = key then (key, value) :: rest else e :: putEntry key value rest

theorem keys_putEntry (key : String) (value : α) (entries : List (String × α)) :
    (putEntry key value entries).map Prod.fst =
      if key ∈ entries.map Prod.fst then entries.map Prod.fst
      else entries.map Prod.fst ++ [key] := by
  induction entries with
  | nil => simp [putEntry]
  | cons e rest ih =>
    by_cases h : e.1 = key
    · simp [putEntry, h]
    · simp only [putEntry, h, if_false, List.map_cons, ih, List.mem_cons, Ne.symm h, false_or]
      split <;> simp

theorem lookup_putEntry (key : String) (value : α) (entries : List (String × α)) (k : String) :
    (putEntry key value entries).lookup k = if k = key then some value else entries.lookup k := by
  induction entries with
  | nil => simp [putEntry, lookup_cons_if]
  | cons e rest ih =>
    obtain ⟨l, v⟩ := e
    by_cases h : l = key
    · by_cases hk : k = l <;> simp_all [putEntry, lookup_cons_if]
    · by_cases hk : k = l <;> simp_all [putEntry, lookup_cons_if]

def insert (t : Table α) (key : String) (value : α) : Table α where
  entries := putEntry key value t.entries
  nodup := by
    rw [keys_putEntry]
    split
    · exact t.nodup
    · next h =>
      rw [List.nodup_append]
      exact ⟨t.nodup, by simp, fun a ha b hb => by
        rintro rfl
        exact h (by simpa [List.mem_singleton.1 hb] using ha)⟩

theorem keys_insert (t : Table α) (key : String) (value : α) :
    (t.insert key value).keys = if key ∈ t then t.keys else t.keys ++ [key] :=
  keys_putEntry key value t.entries

theorem get?_insert (t : Table α) (key : String) (value : α) (k : String) :
    (t.insert key value).get? k = if k = key then some value else t.get? k :=
  lookup_putEntry key value t.entries k

@[simp] theorem get?_insert_self (t : Table α) (key : String) (value : α) :
    (t.insert key value).get? key = some value := by
  simp [get?_insert]

@[simp] theorem mem_insert {t : Table α} {key : String} {value : α} {k : String} :
    k ∈ t.insert key value ↔ k = key ∨ k ∈ t := by
  rw [← isSome_get?, get?_insert, ← isSome_get?]
  split <;> simp [*]

theorem mem_insert_self (t : Table α) (key : String) (value : α) : key ∈ t.insert key value :=
  mem_insert.mpr (.inl rfl)

def filter (t : Table α) (keep : String → α → Bool) : Table α where
  entries := t.entries.filter fun e => keep e.1 e.2
  nodup := t.nodup.sublist (List.filter_sublist.map _)

def erase (t : Table α) (key : String) : Table α := t.filter fun k _ => k != key

theorem keys_erase (t : Table α) (key : String) :
    (t.erase key).keys = t.keys.filter (· != key) := by
  simp [erase, filter, keys, List.filter_map, Function.comp_def]

theorem lookup_filter_key (entries : List (String × α)) (keep : String → Bool) (k : String) :
    (entries.filter fun e => keep e.1).lookup k =
      if keep k = true then entries.lookup k else none := by
  induction entries with
  | nil => simp
  | cons e rest ih =>
    obtain ⟨l, v⟩ := e
    rw [lookup_cons_if, List.filter_cons]
    by_cases hk : k = l <;> by_cases hl : keep l = true <;>
      simp only [hl, hk, if_true, if_false, lookup_cons_if, ih, Bool.false_eq_true]
    rw [← hk, ih, hk, if_neg hl]

theorem get?_erase (t : Table α) (key k : String) :
    (t.erase key).get? k = if k = key then none else t.get? k := by
  refine (lookup_filter_key t.entries (· != key) k).trans ?_
  by_cases hk : k = key <;> simp [hk, get?]

@[simp] theorem mem_erase {t : Table α} {key k : String} :
    k ∈ t.erase key ↔ k ≠ key ∧ k ∈ t := by
  rw [← isSome_get?, get?_erase, ← isSome_get?]
  split <;> simp [*]

def map (f : α → β) (t : Table α) : Table β where
  entries := t.entries.map fun e => (e.1, f e.2)
  nodup := by simpa [Function.comp_def] using t.nodup

@[simp] theorem keys_map (f : α → β) (t : Table α) : (t.map f).keys = t.keys := by
  simp [map, keys]

@[simp] theorem get?_map (f : α → β) (t : Table α) (key : String) :
    (t.map f).get? key = (t.get? key).map f := by
  obtain ⟨entries, _⟩ := t
  simp only [map, get?]
  induction entries with
  | nil => rfl
  | cons e rest ih =>
    obtain ⟨k, v⟩ := e
    by_cases h : key = k <;> simp_all [lookup_cons_if]

/-- Binds every key of `pairs` in turn, so that of two bindings of a key the later one holds. -/
def insertAll (t : Table α) (pairs : List (String × α)) : Table α :=
  pairs.foldl (fun t e => t.insert e.1 e.2) t

def ofList (pairs : List (String × α)) : Table α := empty.insertAll pairs

/-- The bindings of `t` with those of `other` written over them. -/
def merge (t other : Table α) : Table α := t.insertAll other.entries

@[simp] theorem insertAll_nil (t : Table α) : t.insertAll [] = t := rfl

@[simp] theorem insertAll_cons (t : Table α) (e : String × α) (pairs : List (String × α)) :
    t.insertAll (e :: pairs) = (t.insert e.1 e.2).insertAll pairs := rfl

theorem mem_insertAll {t : Table α} {pairs : List (String × α)} {key : String} :
    key ∈ t.insertAll pairs ↔ key ∈ t ∨ key ∈ pairs.map Prod.fst := by
  induction pairs generalizing t with
  | nil => simp
  | cons e pairs ih =>
    simp only [insertAll_cons, ih, mem_insert, List.map_cons, List.mem_cons, or_assoc,
      or_left_comm]

@[simp] theorem mem_ofList {pairs : List (String × α)} {key : String} :
    key ∈ ofList pairs ↔ key ∈ pairs.map Prod.fst := by
  rw [ofList, mem_insertAll]; simp [show ¬ key ∈ (empty : Table α) from List.not_mem_nil]

@[simp] theorem mem_merge {t other : Table α} {key : String} :
    key ∈ t.merge other ↔ key ∈ t ∨ key ∈ other := mem_insertAll

end Table
end ParamSql
