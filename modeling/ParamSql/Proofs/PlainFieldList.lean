import Mathlib.Order.Bounds.Basic
import Mathlib.Order.Nat
import ParamSql.Proofs.FieldListSearch

/-!
# Field lists without hints

Where a list of fields stands can be told from the places where one may begin and the places where
one may end. The search finds the first place of each kind. A later `SELECT` is of no use where the
first one has no `FROM`: whatever would end its list would end the first one as well.
-/

namespace ParamSql
namespace FieldList

namespace Shape

section Places

variable (shape : Shape) (text : List Char)

def OpensAt (start : Nat) : Prop :=
  ∃ before opening after, text = before ++ opening ++ after ∧ before.length = start ∧
    wordMayBegin before.getLast? = true ∧ shape.IsOpening opening

def ClosesAt (place : Nat) : Prop :=
  ∃ before closing after, text = before ++ closing ++ after ∧ before.length = place ∧
    shape.IsClosing closing ∧ wordMayEnd after = true

def StandsAt (start stop : Nat) : Prop :=
  ∃ before list after, text = before ++ list ++ after ∧ before.length = start ∧
    start + list.length = stop ∧ shape.Stands before list after

end Places

variable {shape : Shape} {text before list after : List Char} {start stop : Nat}

/-- The list that stands first begins at the first place where one stands, and ends at the first
place where one ends that begins there. -/
theorem StandsFirst.isLeast (h : shape.StandsFirst before list after) :
    IsLeast {s | ∃ e, shape.StandsAt (before ++ list ++ after) s e} before.length ∧
      IsLeast {e | shape.StandsAt (before ++ list ++ after) before.length e}
        (before.length + list.length) := by
  have hstands : shape.StandsAt (before ++ list ++ after) before.length
      (before.length + list.length) := ⟨before, list, after, rfl, rfl, rfl, h.toStands⟩
  refine ⟨⟨⟨_, hstands⟩, ?_⟩, hstands, ?_⟩
  · rintro s ⟨e, before', list', after', same, rfl, -, hstands'⟩
    exact h.earliest same.symm hstands'
  · rintro e ⟨before', list', after', same, hlen, rfl, hstands'⟩
    rw [List.append_assoc, List.append_assoc] at same
    obtain ⟨rfl, tails⟩ := List.append_inj same hlen.symm
    have := h.shortest tails.symm hstands'
    omega

theorem plain_opening_length {opening : List Char} (h : plain.IsOpening opening) :
    opening.length = 7 := by
  obtain ⟨select, c, rfl, hselect, -⟩ := h
  simp [hselect.length_eq]

theorem plain_closing_length {closing : List Char} (h : plain.IsClosing closing) :
    closing.length = 5 := by
  obtain ⟨c, from', rfl, -, hfrom⟩ := h
  simp [hfrom.length_eq]

/-- A plain list takes a place to begin and a place to end with at least one character between
what stands at the two. -/
theorem plain_standsAt_iff : plain.StandsAt text start stop ↔
    plain.OpensAt text start ∧ ∃ i, start + 8 ≤ i ∧ plain.ClosesAt text i ∧ stop = i + 5 := by
  constructor
  · rintro ⟨before, _, after, rfl, rfl, rfl, ⟨opening, body, closing, rfl, hopening, hbody,
      hclosing⟩, hbegins, hend⟩
    have hopen := plain_opening_length hopening
    have hclose := plain_closing_length hclosing
    have hpos := List.length_pos_iff.mpr hbody
    refine ⟨⟨before, opening, body ++ closing ++ after, by simp, rfl, hbegins, hopening⟩,
      (before ++ opening ++ body).length, ?_, ?_, ?_⟩
    · simp only [List.length_append]
      omega
    · exact ⟨before ++ opening ++ body, closing, after, by simp, rfl, hclosing, hend⟩
    · simp only [List.length_append]
      omega
  · rintro ⟨⟨before, opening, rest, rfl, rfl, hbegins, hopening⟩, i, hi,
      ⟨before', closing, after, same, rfl, hclosing, hend⟩, rfl⟩
    have hopen := plain_opening_length hopening
    have hclose := plain_closing_length hclosing
    -- The closing begins behind the opening, so what stands before it begins with the opening.
    obtain ⟨body, rfl⟩ : before ++ opening <+: before' := by
      refine List.prefix_of_prefix_length_le ⟨rest, rfl⟩ ⟨closing ++ after, ?_⟩ ?_
      · simp [same]
      · simp only [List.length_append]
        omega
    have hbody : body ≠ [] := by
      rintro rfl
      simp only [List.length_append, List.length_nil] at hi
      omega
    refine ⟨before, opening ++ body ++ closing, after, by simp [same], rfl, ?_, ?_, hbegins, hend⟩
    · simp only [List.length_append]
      omega
    · exact ⟨opening, body, closing, rfl, hopening, hbody, hclosing⟩

/-- No place to begin comes before the first plain list: what ends the list would end one that
begins there, too. -/
theorem plain_le_of_opensAt {place : Nat}
    (hstart : IsLeast {s | ∃ e, plain.StandsAt text s e} start)
    (hopens : plain.OpensAt text place) : start ≤ place := by
  obtain ⟨e, hstands⟩ := hstart.1
  obtain ⟨-, i, hi, hcloses, rfl⟩ := plain_standsAt_iff.mp hstands
  by_contra hlt
  have hearlier : plain.StandsAt text place (i + 5) :=
    plain_standsAt_iff.mpr ⟨hopens, i, by omega, hcloses, rfl⟩
  exact hlt (hstart.2 ⟨_, hearlier⟩)

end Shape

open Shape

variable {text : List Char} {start stop : Nat}

/-- The search gives the first place where a list stands, and the end of the shortest one there. -/
theorem spanChars?_eq_some_iff : spanChars? text = some ⟨start, stop⟩ ↔
    IsLeast {s | ∃ e, (ofText text).StandsAt text s e} start ∧
      IsLeast {e | (ofText text).StandsAt text start e} stop := by
  constructor
  · intro h
    have hstands : (ofText text).StandsIn text := by
      by_contra hnone
      rw [spanChars?_eq_none_iff.mpr hnone] at h
      cases h
    obtain ⟨before, list, after, htext, hfirst⟩ := exists_standsFirst hstands
    rw [spanChars?_eq_some hfirst htext, Option.some.injEq, Span.mk.injEq] at h
    obtain ⟨rfl, rfl⟩ := h
    have hleast := hfirst.isLeast
    rwa [← htext] at hleast
  · rintro ⟨hstart, hstop⟩
    obtain ⟨e, before, list, after, htext, -, -, hstands⟩ := hstart.1
    obtain ⟨before, list, after, htext, hfirst⟩ :=
      exists_standsFirst ⟨before, list, after, htext, hstands⟩
    have hleast := hfirst.isLeast
    rw [← htext] at hleast
    obtain rfl : start = before.length := hstart.unique hleast.1
    obtain rfl : stop = before.length + list.length := hstop.unique hleast.2
    exact spanChars?_eq_some hfirst htext

section Plain

variable (hhints : ¬ HoldsHints text)

include hhints

/-- The first place to begin has the first place to end, however far that is. -/
theorem plain_spanChars?_eq_some_iff : spanChars? text = some ⟨start, stop⟩ ↔
    IsLeast {s | plain.OpensAt text s} start ∧
      ∃ i, IsLeast {i | start + 8 ≤ i ∧ plain.ClosesAt text i} i ∧ stop = i + 5 := by
  rw [spanChars?_eq_some_iff, Shape.ofText, if_neg hhints]
  constructor
  · rintro ⟨hstart, hstands, hshortest⟩
    obtain ⟨hopens, i, hi, hcloses, rfl⟩ := plain_standsAt_iff.mp hstands
    refine ⟨⟨hopens, fun s => plain_le_of_opensAt hstart⟩, i, ⟨⟨hi, hcloses⟩, ?_⟩, rfl⟩
    rintro j ⟨hj, hcloses'⟩
    have hshorter : plain.StandsAt text start (j + 5) :=
      plain_standsAt_iff.mpr ⟨hopens, j, hj, hcloses', rfl⟩
    have := hshortest hshorter
    omega
  · rintro ⟨⟨hopens, hearliest⟩, i, ⟨⟨hi, hcloses⟩, hfirst⟩, rfl⟩
    have hstands : plain.StandsAt text start (i + 5) :=
      plain_standsAt_iff.mpr ⟨hopens, i, hi, hcloses, rfl⟩
    refine ⟨⟨⟨_, hstands⟩, ?_⟩, hstands, ?_⟩
    · rintro s ⟨e, hs⟩
      exact hearliest (plain_standsAt_iff.mp hs).1
    · intro e he
      obtain ⟨-, j, hj, hcloses', rfl⟩ := plain_standsAt_iff.mp he
      have := hfirst ⟨hj, hcloses'⟩
      omega

theorem plain_spanChars?_eq_none_iff : spanChars? text = none ↔
    (¬ ∃ s, plain.OpensAt text s) ∨ ∃ s, IsLeast {s | plain.OpensAt text s} s ∧
      ¬ ∃ i, s + 8 ≤ i ∧ plain.ClosesAt text i := by
  classical
  constructor
  · intro hnone
    by_cases hopens : ∃ s, plain.OpensAt text s
    · refine Or.inr ⟨Nat.find hopens, Nat.isLeast_find hopens, fun hcloses => ?_⟩
      have hspan := (plain_spanChars?_eq_some_iff hhints).mpr
        ⟨Nat.isLeast_find hopens, Nat.find hcloses, Nat.isLeast_find hcloses, rfl⟩
      rw [hnone] at hspan
      cases hspan
    · exact Or.inl hopens
  · intro hlacks
    by_contra hfound
    obtain ⟨⟨start, stop⟩, hspan⟩ := Option.ne_none_iff_exists'.mp hfound
    obtain ⟨hstart, i, hi, rfl⟩ := (plain_spanChars?_eq_some_iff hhints).mp hspan
    rcases hlacks with hopens | ⟨s, hs, hcloses⟩
    · exact hopens ⟨start, hstart.1⟩
    · obtain rfl : s = start := hs.unique hstart
      exact hcloses ⟨i, hi.1⟩

end Plain

/-- The text on both sides of the list that was found stays when the list is replaced. -/
theorem replace?_of_span? {sql : String} (h : span? sql = some ⟨start, stop⟩)
    (fields : List String) :
    ∃ before list after : String, sql = before ++ list ++ after ∧ before.length = start ∧
      (before ++ list).length = stop ∧
      replace? sql fields = some (before ++ clause fields ++ after) := by
  have hstands : (ofText sql.toList).StandsIn sql.toList := by
    by_contra hnone
    rw [span?, spanChars?_eq_none_iff.mpr hnone] at h
    cases h
  obtain ⟨before, list, after, hsql, hfirst⟩ := exists_standsFirst_strings hstands
  rw [span?_eq_some hfirst hsql, Option.some.injEq, Span.mk.injEq] at h
  refine ⟨before, list, after, hsql, h.1, ?_, replace?_eq_some hfirst hsql _⟩
  rw [String.length_append, h.2]

/-- Without both hints the list runs from the first `SELECT` with a blank to the first `FROM` behind
a blank that leaves room for a field, and there is none exactly when one of the two is missing. No
other text changes when the list is replaced. -/
theorem plain_list_found (sql : String) (hhints : ¬ HoldsHints sql.toList) :
    let text := sql.toList
    (span? sql = none ↔ (¬ ∃ s, plain.OpensAt text s) ∨
      ∃ s, IsLeast {s | plain.OpensAt text s} s ∧ ¬ ∃ i, s + 8 ≤ i ∧ plain.ClosesAt text i) ∧
    (∀ start stop, span? sql = some ⟨start, stop⟩ ↔
      IsLeast {s | plain.OpensAt text s} start ∧
        ∃ i, IsLeast {i | start + 8 ≤ i ∧ plain.ClosesAt text i} i ∧ stop = i + 5) ∧
    ∀ start stop, span? sql = some ⟨start, stop⟩ → ∀ fields,
      ∃ before list after : String, sql = before ++ list ++ after ∧ before.length = start ∧
        (before ++ list).length = stop ∧ replace? sql fields =
          some (before ++ ("SELECT " ++ ", ".intercalate fields ++ " FROM") ++ after) := by
  intro text
  refine ⟨plain_spanChars?_eq_none_iff hhints, ?_, ?_⟩
  · intro start stop
    exact plain_spanChars?_eq_some_iff hhints
  · intro start stop hspan fields
    exact replace?_of_span? hspan fields

/-- The nearest `FROM` leaves no room for a field and the next one is part of a longer word; the
list runs to the third, and the later `SELECT` is passed over. -/
theorem plain_list_found_of_empty_list :
    let sql := "(Select FROM, fromage\nFrom a) SELECT b FROM c"
    span? sql = some ⟨1, 26⟩ ∧ IsLeast {s | plain.OpensAt sql.toList s} 1 ∧
      IsLeast {i | 9 ≤ i ∧ plain.ClosesAt sql.toList i} 21 ∧
      ∃ before list after : String, sql = before ++ list ++ after ∧ before.length = 1 ∧
        (before ++ list).length = 26 ∧ replace? sql ["x", "y"] =
          some (before ++ ("SELECT " ++ ", ".intercalate ["x", "y"] ++ " FROM") ++ after) := by
  intro sql
  have hspan : span? sql = some ⟨1, 26⟩ := by decide +kernel
  obtain ⟨-, hsome, hreplaced⟩ := plain_list_found sql (by decide +kernel)
  obtain ⟨hopens, i, hi, hstop⟩ := (hsome 1 26).mp hspan
  obtain rfl : i = 21 := by omega
  exact ⟨hspan, hopens, hi, hreplaced 1 26 hspan ["x", "y"]⟩

end FieldList
end ParamSql
