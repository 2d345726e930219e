import Mathlib.Data.List.Nodup
import Mathlib.Data.List.Perm.Subperm
import Mathlib.Order.Bounds.Basic
import ParamSql.Proofs.ElementKeys
import ParamSql.Proofs.TableAgreement

/-!
# Free keys

A new key is looked for by trying the key that is wanted and then the same key with the numbers from
two on behind it. The names tried are all different, so no more of them can be bound than there are
bound keys, and the search comes to the first one that is free.
-/

namespace ParamSql
namespace Builder

def numberedKey (key : String) (m : Nat) : String := key ++ String.ofList (Text.decimal m)

theorem numberedKey_inj {key : String} {m n : Nat} :
    numberedKey key m = numberedKey key n ↔ m = n := by
  refine ⟨fun h => ?_, fun h => h ▸ rfl⟩
  have hlists := congrArg String.toList h
  simpa [numberedKey, Text.decimal_inj] using hlists

theorem numberedKey_ne (key : String) (m : Nat) : numberedKey key m ≠ key := by
  intro h
  have hlists := congrArg String.toList h
  have hdigits : Text.decimal m = [] := by simpa [numberedKey] using hlists
  exact Nat.toDigits_ne_nil hdigits

def triedName (key : String) : Nat → String
  | 0 => key
  | i + 1 => numberedKey key (i + 2)

theorem triedName_injective (key : String) : Function.Injective (triedName key) := by
  intro i j h
  cases i with
  | zero =>
    cases j with
    | zero => rfl
    | succ j => exact absurd h.symm (numberedKey_ne key (j + 2))
  | succ i =>
    cases j with
    | zero => exact absurd h (numberedKey_ne key (i + 2))
    | succ j =>
      have hnumber : i + 2 = j + 2 := numberedKey_inj.mp h
      omega

theorem candidates_eq (key : String) (count : Nat) :
    candidates key count = (List.range (count + 1)).map (triedName key) := by
  rw [candidates, List.range_succ_eq_map, List.map_cons, List.map_map]
  rfl

/-- A search for a free name after some rounds, with the number used last and the name to be tried
next. It begins with the key itself and goes on for as long as the name is bound. -/
inductive Searches (params : Table Value) (key : String) : Nat → Nat → String → Prop
  | start : Searches params key 0 1 key
  | next {rounds number : Nat} {name : String} (search : Searches params key rounds number name)
      (bound : name ∈ params) :
      Searches params key (rounds + 1) (number + 1) (numberedKey key (number + 1))

section Search

variable {params : Table Value} {key : String}

/-- Where a search stands is settled by the number of its rounds, and it has gone so far when all
names before were bound. -/
theorem searches_iff {rounds number : Nat} {name : String} :
    Searches params key rounds number name ↔
      number = rounds + 1 ∧ name = triedName key rounds ∧
        ∀ i < rounds, triedName key i ∈ params := by
  constructor
  · intro search
    induction search with
    | start => exact ⟨rfl, rfl, fun i hi => absurd hi (Nat.not_lt_zero i)⟩
    | @next rounds number name _ bound ih =>
      obtain ⟨rfl, rfl, htried⟩ := ih
      refine ⟨rfl, rfl, fun i hi => ?_⟩
      rcases Nat.lt_succ_iff_lt_or_eq.mp hi with hi | rfl
      · exact htried i hi
      · exact bound
  · rintro ⟨rfl, rfl, htried⟩
    induction rounds with
    | zero => exact .start
    | succ rounds ih =>
      exact .next (ih fun i hi => htried i (Nat.lt_succ_of_lt hi))
        (htried rounds rounds.lt_succ_self)

/-- The names tried are different, so there are at most as many bound ones as there are keys. -/
theorem le_size_of_tried {rounds : Nat} (h : ∀ i < rounds, triedName key i ∈ params) :
    rounds ≤ params.size := by
  have hnodup : ((List.range rounds).map (triedName key)).Nodup :=
    List.nodup_range.map (triedName_injective key)
  have hsubset : (List.range rounds).map (triedName key) ⊆ params.keys := by
    intro name hname
    obtain ⟨i, hi, rfl⟩ := List.mem_map.mp hname
    exact h i (List.mem_range.mp hi)
  have hlength := (hnodup.subperm hsubset).length_le
  rwa [List.length_map, List.length_range, Table.keys, List.length_map] at hlength

theorem exists_free_name (params : Table Value) (key : String) :
    ∃ i ≤ params.size, triedName key i ∉ params := by
  by_contra hnone
  push Not at hnone
  have hlength : params.size + 1 ≤ params.size :=
    le_size_of_tried fun i hi => hnone i (Nat.le_of_lt_succ hi)
  exact Nat.not_succ_le_self _ hlength

end Search

theorem uniqueKey_eq_triedName (b : Builder) (key : String) :
    ∃ i, b.uniqueKey key = triedName key i ∧ triedName key i ∉ b.params ∧
      ∀ j < i, triedName key j ∈ b.params := by
  have hfound : (((List.range (b.params.size + 1)).find?
      fun i => decide (triedName key i ∉ b.params))).isSome = true := by
    obtain ⟨i, hi, hfree⟩ := exists_free_name b.params key
    exact List.find?_isSome.mpr
      ⟨i, List.mem_range.mpr (Nat.lt_succ_of_le hi), decide_eq_true hfree⟩
  obtain ⟨i, hi⟩ := Option.isSome_iff_exists.mp hfound
  obtain ⟨hfree, -, hbound⟩ := List.find?_range_eq_some.mp hi
  refine ⟨i, ?_, of_decide_eq_true hfree, fun j hj => ?_⟩
  · rw [uniqueKey, candidates_eq, List.find?_map]
    exact congrArg (fun found => (found.map (triedName key)).getD key) hi
  · simpa using hbound j hj

/-- A search from a key that ends with a name, the first that is free. Nothing else is bound in
place of what is bound under the name. -/
structure FirstFree (b : Builder) (key name : String) : Prop where
  bounded : ∀ rounds number tried, Searches b.params key rounds number tried →
    rounds ≤ b.params.size
  ends : ∃ rounds number, Searches b.params key rounds number name
  ends_only : ∀ rounds number tried, Searches b.params key rounds number tried →
    tried ∉ b.params → tried = name
  free : name ∉ b.params
  eq_of_free : key ∉ b.params → name = key
  least_of_bound : key ∈ b.params →
    ∃ m, IsLeast {m | 2 ≤ m ∧ numberedKey key m ∉ b.params} m ∧ name = numberedKey key m
  without_list : b.TablesAgree → name ∉ b.sets
  beside_scalar : ∀ k ≠ name, ∀ value, (b.setParam name value).binding k = b.binding k
  beside_list : ∀ k ≠ name, ∀ values, (b.setParamSet name values).binding k = b.binding k

end Builder

open Builder

/-- However the keys look that are bound, the search for a free name ends after at most as many
rounds as there are keys, and it ends with the unique key. This is the key itself if that is free,
and else the key with the least number from two on whose name is free. So a scalar or a list bound
under it takes the place of none. -/
theorem unique_key_is_first_free (b : Builder) (key : String) :
    b.FirstFree key (b.uniqueKey key) := by
  obtain ⟨i, hunique, hfree, hbound⟩ := b.uniqueKey_eq_triedName key
  rw [hunique]
  exact
    { bounded := fun _ _ _ search => le_size_of_tried (searches_iff.mp search).2.2
      ends := ⟨i, i + 1, searches_iff.mpr ⟨rfl, rfl, hbound⟩⟩
      ends_only := by
        intro rounds number name search hname
        obtain ⟨-, rfl, htried⟩ := searches_iff.mp search
        -- Neither of the two searches has passed a name that is free.
        rcases Nat.lt_trichotomy rounds i with hlt | rfl | hgt
        · exact absurd (hbound rounds hlt) hname
        · rfl
        · exact absurd (htried i hgt) hfree
      free := hfree
      eq_of_free := by
        intro hkey
        cases i with
        | zero => rfl
        | succ i => exact absurd (hbound 0 i.succ_pos) hkey
      least_of_bound := by
        intro hkey
        cases i with
        | zero => exact absurd hkey hfree
        | succ i =>
          refine ⟨i + 2, ⟨⟨Nat.le_add_left 2 i, hfree⟩, ?_⟩, rfl⟩
          rintro m ⟨hm, hmfree⟩
          by_contra hlt
          obtain ⟨j, rfl⟩ := Nat.exists_eq_add_of_le' hm
          exact hmfree (hbound (j + 1) (by omega))
      without_list := fun hagree hset => hfree (Table.mem_of_get? (hagree _ hset))
      beside_scalar := fun k hk value => by rw [binding_setParam, if_neg hk]
      beside_list := fun k hk values => by rw [binding_setParamSet, if_neg hk] }

/-- A gap is filled although a larger number is bound as well. -/
theorem unique_key_is_first_free_of_gap :
    let b : Builder :=
      { dialect := Database.mySql.dialect
        params := .ofList [("id", .int 1), ("id22", .null), ("id4", .int 4), ("id2", .null)]
        sets := .ofList [("id2", some [.int 2, .int 3])] }
    "id" ∈ b.params ∧ b.TablesAgree ∧ b.uniqueKey "id" = "id3" ∧
      IsLeast {m | 2 ≤ m ∧ numberedKey "id" m ∉ b.params} 3 ∧ "id3" ∉ b.sets ∧
      (b.setParamSet "id3" none).binding "id2" = (some .null, some (some [.int 2, .int 3])) := by
  intro b
  have hkey : "id" ∈ b.params := by decide
  have hagree : b.TablesAgree := by
    intro key hset
    obtain rfl : key = "id2" := List.mem_singleton.mp hset
    rfl
  have h : b.FirstFree "id" (b.uniqueKey "id") := unique_key_is_first_free b "id"
  obtain ⟨m, hm, hunique⟩ := h.least_of_bound hkey
  have hthree : b.uniqueKey "id" = "id3" := by decide
  have hname : numberedKey "id" 3 = "id3" := by decide
  obtain rfl : 3 = m := numberedKey_inj.mp (hname.trans (hthree.symm.trans hunique))
  rw [hthree] at h
  exact ⟨hkey, hagree, hthree, hm, h.without_list hagree, h.beside_list "id2" (by decide) none⟩

end ParamSql
