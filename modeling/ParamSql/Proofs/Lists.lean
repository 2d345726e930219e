import Mathlib.Data.List.Basic
import Mathlib.Data.List.Forall2
import Mathlib.Data.List.Nodup

/-!
# Lists

Lists that are related place by place, and lists of which only the first of equal members are kept.
-/

namespace ParamSql

section Positions

variable {α β : Type} {R : α → β → Prop}

theorem forall₂_getElem? {l : List α} {l' : List β} (h : List.Forall₂ R l l') (i : Nat) :
    Option.Rel R l[i]? l'[i]? := by
  induction h generalizing i with
  | nil => exact .none
  | cons hfirst _ ih =>
    cases i with
    | zero => exact .some hfirst
    | succ i => exact ih i

theorem forall₂_set {l : List α} {l' : List β} (h : List.Forall₂ R l l') {a : α} {b : β}
    (hab : R a b) (i : Nat) : List.Forall₂ R (l.set i a) (l'.set i b) := by
  induction h generalizing i with
  | nil => exact .nil
  | cons hfirst hrest ih =>
    cases i with
    | zero => exact .cons hab hrest
    | succ i => exact .cons hfirst (ih i)

theorem set_of_getElem? {l : List α} {i : Nat} {a : α} (h : l[i]? = some a) : l.set i a = l := by
  obtain ⟨hi, rfl⟩ := List.getElem?_eq_some_iff.mp h
  exact List.set_getElem_self hi

end Positions

section FirstUses

variable {α : Type} [BEq α] [LawfulBEq α]

theorem nodup_eraseDups : ∀ names : List α, names.eraseDups.Nodup
  | [] => by simp
  | n :: rest => by
    have hn : n ∉ (rest.filter fun b => !b == n).eraseDups := by
      rw [List.mem_eraseDups]
      simp
    rw [List.eraseDups_cons]
    exact List.nodup_cons.mpr ⟨hn, nodup_eraseDups _⟩
termination_by names => names.length
decreasing_by
  have hle := List.length_filter_le (fun b => !b == n) rest
  rw [List.length_cons]
  omega

theorem eraseDups_of_nodup {names : List α} (h : names.Nodup) : names.eraseDups = names := by
  induction names with
  | nil => rfl
  | cons n rest ih =>
    obtain ⟨hn, hrest⟩ := List.nodup_cons.mp h
    have hkeep : (rest.filter fun b => !b == n) = rest := by
      refine List.filter_eq_self.mpr fun b hb => ?_
      have hne : b ≠ n := fun he => hn (he ▸ hb)
      simpa using hne
    rw [List.eraseDups_cons, hkeep, ih hrest]

theorem eraseDups_map {β : Type} [BEq β] [LawfulBEq β] (f : α → β) : ∀ names : List α,
    (∀ a ∈ names, ∀ b ∈ names, f a = f b → a = b) →
      (names.map f).eraseDups = names.eraseDups.map f
  | [], _ => rfl
  | n :: rest, inj => by
    have hfilter : ((rest.map f).filter fun b => !b == f n) =
        (rest.filter fun b => !b == n).map f := by
      rw [List.filter_map]
      congr 1
      refine List.filter_congr fun b hb => ?_
      rw [Function.comp_apply]
      by_cases hbn : b = n
      · simp [hbn]
      · have hne : f b ≠ f n := fun he =>
          hbn (inj b (List.mem_cons_of_mem _ hb) n List.mem_cons_self he)
        rw [beq_eq_false_iff_ne.mpr hne, beq_eq_false_iff_ne.mpr hbn]
    have hsub : ∀ a ∈ rest.filter fun b => !b == n, a ∈ n :: rest := fun a ha =>
      List.mem_cons_of_mem _ (List.mem_of_mem_filter ha)
    rw [List.map_cons, List.eraseDups_cons, List.eraseDups_cons, List.map_cons, hfilter,
      eraseDups_map f _ fun a ha b hb => inj a (hsub a ha) b (hsub b hb)]
termination_by names => names.length
decreasing_by
  have hle := List.length_filter_le (fun b => !b == n) rest
  rw [List.length_cons]
  omega

theorem idxOf_eraseDups_inj {names : List α} {a b : α} (ha : a ∈ names) :
    names.eraseDups.idxOf a = names.eraseDups.idxOf b ↔ a = b :=
  List.idxOf_inj (List.mem_eraseDups.mpr ha)

theorem map_idxOf_of_nodup {names : List α} (h : names.Nodup) :
    (names.map fun n => names.idxOf n + 1) = List.range' 1 names.length := by
  refine List.ext_getElem (by simp) fun i hi _ => ?_
  rw [List.length_map] at hi
  rw [List.getElem_map, h.idxOf_getElem i hi, List.getElem_range', Nat.one_mul, Nat.add_comm]

theorem eraseDups_append_of_disjoint {xs ys : List α} (h : ∀ y ∈ ys, y ∉ xs) :
    (xs ++ ys).eraseDups = xs.eraseDups ++ ys.eraseDups := by
  have hkeep : ys.removeAll xs = ys := by
    refine List.filter_eq_self.mpr fun y hy => ?_
    simpa using h y hy
  rw [List.eraseDups_append, hkeep]

end FirstUses

end ParamSql
