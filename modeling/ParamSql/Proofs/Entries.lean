import Mathlib.Data.List.Basic
import ParamSql.Placeholder.Positional

/-!
# The entries of tables

Looking up a key is finding its entry. A new key is entered at the end, so a table merged with one
of other keys holds the entries of both, one after the other. The bound names of a table are its
keys with a value other than null.
-/

namespace ParamSql
namespace Table

variable {α : Type}

theorem get?_eq_some_iff {t : Table α} {key : String} {value : α} :
    t.get? key = some value ↔ (key, value) ∈ t.entries := by
  obtain ⟨entries, nodup⟩ := t
  change entries.lookup key = some value ↔ (key, value) ∈ entries
  induction entries with
  | nil => simp
  | cons e rest ih =>
    obtain ⟨k, v⟩ := e
    obtain ⟨hk, hrest⟩ := List.nodup_cons.mp nodup
    rw [lookup_cons_if, List.mem_cons, Prod.mk.injEq]
    by_cases h : key = k
    · have hnot : (key, value) ∉ rest := fun hmem =>
        hk (List.mem_map.mpr ⟨(key, value), hmem, h⟩)
      rw [if_pos h, Option.some.injEq]
      exact ⟨fun hv => Or.inl ⟨h, hv.symm⟩, fun hor => (hor.resolve_right hnot).2.symm⟩
    · rw [if_neg h, ih hrest]
      exact ⟨Or.inr, fun hor => hor.resolve_left fun heq => h heq.1⟩

theorem isEmpty_iff {t : Table α} : t.isEmpty = true ↔ ∀ key, t.get? key = none := by
  obtain ⟨entries, nodup⟩ := t
  cases entries with
  | nil => exact iff_of_true rfl fun key => rfl
  | cons e rest =>
    refine iff_of_false (by simp [isEmpty]) fun h => ?_
    have hfirst : get? ⟨e :: rest, nodup⟩ e.1 = some e.2 :=
      get?_eq_some_iff.mpr List.mem_cons_self
    rw [h] at hfirst
    cases hfirst

theorem ext_of_keys {t t' : Table α} (hkeys : t'.keys = t.keys)
    (hget : ∀ key, t'.get? key = t.get? key) : t' = t := by
  have hentries : t'.entries = t.entries := by
    have hlength := congrArg List.length hkeys
    rw [keys, keys, List.length_map, List.length_map] at hlength
    refine List.ext_getElem hlength fun i h' h => ?_
    have hkey : t'.entries[i].1 = t.entries[i].1 := by
      have hat := List.getElem_of_eq hkeys (by rwa [keys, List.length_map])
      simpa only [keys, List.getElem_map] using hat
    have hown : t.get? t.entries[i].1 = some t.entries[i].2 :=
      get?_eq_some_iff.mpr (List.getElem_mem h)
    have hother : t'.get? t'.entries[i].1 = some t'.entries[i].2 :=
      get?_eq_some_iff.mpr (List.getElem_mem h')
    rw [hget, hkey, hown] at hother
    exact Prod.ext hkey (Option.some.inj hother).symm
  cases t
  cases t'
  congr

theorem erase_insert (t : Table α) (key : String) (value : α) :
    (t.insert key value).erase key = t.erase key := by
  refine ext_of_keys ?_ fun k => ?_
  · rw [keys_erase, keys_erase, keys_insert]
    split
    · rfl
    · simp
  · rw [get?_erase, get?_erase, get?_insert]
    split <;> rfl

theorem erase_erase (t : Table α) (key : String) : (t.erase key).erase key = t.erase key := by
  refine ext_of_keys ?_ fun k => ?_
  · rw [keys_erase, keys_erase, List.filter_filter]
    simp
  · rw [get?_erase, get?_erase]
    split <;> rfl

theorem insert_eq_self {t : Table α} {key : String} {value : α} (h : t.get? key = some value) :
    t.insert key value = t := by
  refine ext_of_keys ((keys_insert t key value).trans (if_pos (mem_of_get? h))) fun k => ?_
  rw [get?_insert]
  split
  · next hk => rw [hk, h]
  · rfl

theorem erase_eq_self {t : Table α} {key : String} (h : key ∉ t) : t.erase key = t := by
  refine ext_of_keys ?_ fun k => ?_
  · rw [keys_erase, List.filter_eq_self]
    intro k hk
    exact bne_iff_ne.mpr fun he => h (he ▸ hk)
  · rw [get?_erase]
    split
    · next hk => rw [hk, get?_eq_none.mpr h]
    · rfl

theorem mem_keys_filter {t : Table α} {keep : String → α → Bool} {key : String} :
    key ∈ (t.filter keep).keys ↔ ∃ value, t.get? key = some value ∧ keep key value = true := by
  simp [keys, filter, get?_eq_some_iff]

theorem putEntry_of_not_mem {key : String} (value : α) {entries : List (String × α)}
    (h : key ∉ entries.map Prod.fst) :
    putEntry key value entries = entries ++ [(key, value)] := by
  induction entries with
  | nil => rfl
  | cons e rest ih =>
    rw [List.map_cons, List.mem_cons, not_or] at h
    rw [putEntry, if_neg (fun he => h.1 he.symm), ih h.2, List.cons_append]

theorem entries_insert_of_not_mem {t : Table α} {key : String} (value : α) (h : key ∉ t) :
    (t.insert key value).entries = t.entries ++ [(key, value)] :=
  putEntry_of_not_mem value h

theorem entries_insertAll_of_disjoint {t : Table α} {pairs : List (String × α)}
    (nodup : (pairs.map Prod.fst).Nodup) (h : ∀ key ∈ pairs.map Prod.fst, key ∉ t) :
    (t.insertAll pairs).entries = t.entries ++ pairs := by
  induction pairs generalizing t with
  | nil => simp
  | cons e pairs ih =>
    obtain ⟨hfresh, hnodup⟩ := List.nodup_cons.mp nodup
    have hentries := entries_insert_of_not_mem e.2 (h e.1 List.mem_cons_self)
    have hlater : ∀ key ∈ pairs.map Prod.fst, key ∉ t.insert e.1 e.2 := by
      intro key hkey hmem
      rcases mem_insert.mp hmem with rfl | hold
      · exact hfresh hkey
      · exact h key (List.mem_cons_of_mem _ hkey) hold
    rw [insertAll_cons, ih hnodup hlater, hentries, List.append_assoc]
    rfl

theorem get?_insertAll (t : Table α) {pairs : List (String × α)}
    (nodup : (pairs.map Prod.fst).Nodup) (key : String) :
    (t.insertAll pairs).get? key = (pairs.lookup key).or (t.get? key) := by
  induction pairs generalizing t with
  | nil => rfl
  | cons e pairs ih =>
    obtain ⟨hfresh, hnodup⟩ := List.nodup_cons.mp nodup
    rw [insertAll_cons, ih _ hnodup, get?_insert, lookup_cons_if]
    by_cases h : key = e.1
    · have hnone : pairs.lookup key = none := by
        rw [← Option.not_isSome_iff_eq_none, lookup_isSome, h]
        exact hfresh
      rw [if_pos h, if_pos h, hnone]
      rfl
    · rw [if_neg h, if_neg h]

theorem get?_merge (t other : Table α) (key : String) :
    (t.merge other).get? key = (other.get? key).or (t.get? key) :=
  t.get?_insertAll other.nodup key

/-- The keys stay in their order, followed by the new ones in theirs. -/
theorem keys_insertAll (t : Table α) {pairs : List (String × α)}
    (nodup : (pairs.map Prod.fst).Nodup) :
    (t.insertAll pairs).keys = t.keys ++ (pairs.map Prod.fst).filter (· ∉ t) := by
  induction pairs generalizing t with
  | nil => simp
  | cons e pairs ih =>
    obtain ⟨hfresh, hnodup⟩ := List.nodup_cons.mp nodup
    have hrest : (pairs.map Prod.fst).filter (· ∉ t.insert e.1 e.2) =
        (pairs.map Prod.fst).filter (· ∉ t) := by
      refine List.filter_congr fun key hkey => ?_
      have hne : key ≠ e.1 := fun h => hfresh (h ▸ hkey)
      simp only [mem_insert, or_iff_right hne]
    rw [insertAll_cons, ih _ hnodup, hrest, keys_insert, List.map_cons, List.filter_cons]
    by_cases hmem : e.1 ∈ t
    · simp [hmem]
    · simp [hmem]

theorem keys_merge (t other : Table α) :
    (t.merge other).keys = t.keys ++ other.keys.filter (· ∉ t) :=
  t.keys_insertAll other.nodup

/-- Taking over what is there already changes nothing. -/
theorem merge_eq_self {t other : Table α} (h : ∀ key ∈ other, t.get? key = other.get? key) :
    t.merge other = t := by
  refine ext_of_keys ?_ fun key => ?_
  · have hnone : other.keys.filter (· ∉ t) = [] := by
      refine List.filter_eq_nil_iff.mpr fun key hkey => ?_
      have hmem : key ∈ t := by
        rw [← isSome_get?, h key hkey, isSome_get?]
        exact hkey
      simpa using hmem
    rw [keys_merge, hnone, List.append_nil]
  · rw [get?_merge]
    by_cases hmem : key ∈ other
    · rw [h key hmem, Option.or_self]
    · rw [get?_eq_none.mpr hmem, Option.none_or]

theorem merge_assoc (t u v : Table α) : (t.merge u).merge v = t.merge (u.merge v) := by
  refine ext_of_keys ?_ fun key => ?_
  · rw [keys_merge, keys_merge, keys_merge, keys_merge, List.filter_append, List.filter_filter,
      List.append_assoc]
    congr 2
    refine List.filter_congr fun key _ => ?_
    simp [mem_merge]
  · rw [get?_merge, get?_merge, get?_merge, get?_merge, Option.or_assoc]

/-- Tables without a common key are merged by putting one after the other. -/
theorem entries_merge_of_disjoint {t other : Table α} (h : ∀ key ∈ other, key ∉ t) :
    (t.merge other).entries = t.entries ++ other.entries :=
  entries_insertAll_of_disjoint other.nodup h

theorem get?_merge_of_disjoint {t other : Table α} (h : ∀ key ∈ other, key ∉ t) {key : String}
    {value : α} : (t.merge other).get? key = some value ↔
      t.get? key = some value ∨ other.get? key = some value := by
  rw [get?_eq_some_iff, get?_eq_some_iff, get?_eq_some_iff, entries_merge_of_disjoint h,
    List.mem_append]

end Table

namespace Placeholder

theorem mem_boundNames {parameters : Table Value} {name : String} :
    name ∈ boundNames parameters ↔ ∃ v, parameters.get? name = some v ∧ v ≠ .null := by
  simp only [boundNames, Table.mem_keys_filter, Bool.not_eq_true', ← Bool.not_eq_true,
    Value.isNull_iff, ne_eq]

theorem boundNames_merge_of_disjoint {parameters other : Table Value}
    (h : ∀ key ∈ other, key ∉ parameters) :
    boundNames (parameters.merge other) = boundNames parameters ++ boundNames other := by
  have hentries := Table.entries_merge_of_disjoint h
  change ((parameters.merge other).entries.filter _).map Prod.fst = _
  rw [hentries, List.filter_append, List.map_append]
  rfl

end Placeholder
end ParamSql
