import ParamSql.Placeholder.Positional
import ParamSql.Proofs.Lists

/-!
# Numbers by first use

Names are numbered in the order in which each is used first. Equal names get equal numbers, every
number up to the count of different names is used, and the numbers come up for the first time in
their own order.
-/

namespace ParamSql
namespace Placeholder

variable {α : Type} [BEq α]

def useNumbers (names : List α) : List Nat := names.map fun n => names.eraseDups.idxOf n + 1

theorem length_useNumbers (names : List α) : (useNumbers names).length = names.length :=
  List.length_map _

theorem getElem?_useNumbers (names : List α) (i : Nat) :
    (useNumbers names)[i]? = names[i]?.map fun n => names.eraseDups.idxOf n + 1 :=
  List.getElem?_map

variable [LawfulBEq α]

/-- Every number is used, and the first uses come in the order of the numbers. -/
theorem eraseDups_useNumbers (names : List α) :
    (useNumbers names).eraseDups = List.range' 1 names.eraseDups.length := by
  unfold useNumbers
  rw [eraseDups_map, map_idxOf_of_nodup (nodup_eraseDups names)]
  intro a ha b _ hab
  exact (idxOf_eraseDups_inj ha).mp (Nat.succ.inj hab)

/-- Two uses have one number exactly when they are of one name. -/
theorem getElem?_useNumbers_inj {names : List α} {i j : Nat} (hi : i < names.length) :
    (useNumbers names)[i]? = (useNumbers names)[j]? ↔ names[i]? = names[j]? := by
  rw [getElem?_useNumbers, getElem?_useNumbers, List.getElem?_eq_getElem hi, Option.map_some]
  cases hj : names[j]? with
  | none => simp
  | some b =>
    rw [Option.map_some, Option.some.injEq, Option.some.injEq, Nat.add_right_cancel_iff]
    exact idxOf_eraseDups_inj (List.getElem_mem hi)

/-- Reading a list that goes by the order of first use through the numbers of the uses. -/
theorem getElem?_of_mem_names {names : List α} {n : α} (hn : n ∈ names) :
    names.eraseDups[names.eraseDups.idxOf n]? = some n := by
  have hlt := List.idxOf_lt_length_of_mem (List.mem_eraseDups.mpr hn)
  rw [List.getElem?_eq_getElem hlt, List.getElem_idxOf hlt]

end Placeholder
end ParamSql
