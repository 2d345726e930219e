import ParamSql.Proofs.PlainFieldList
import ParamSql.Proofs.TotalsQuery

/-!
# Replacing a field list again

The list that a replacement writes stands first in its turn: no place to begin arises before it, the
fields hold no place to end, and no hint comes together where the new text meets the old one. The
next replacement therefore takes just this list away, and nothing is left of the fields that were
written first.
-/

namespace ParamSql
namespace FieldList

open Text

namespace Shape

variable {before opening list closing after fields : List Char}

theorem plain_opening_beginsApart (h : plain.IsOpening opening) : BeginsApart 's' 'e' opening := by
  obtain ⟨select, c, rfl, hselect, hc⟩ := h
  refine ⟨"lect".toList ++ [c], ?_, ?_⟩
  · rw [List.map_append, hselect, List.map_singleton, foldLetter_of_isBlank hc]
    rfl
  · have hblank : AllBlank [c] := by simpa [AllBlank] using hc
    have first : Apart 's' 'e' "elect".toList := .of_not_mem (by decide)
    exact first.append (.of_not_mem (not_mem_of_allBlank hblank (by decide)))

theorem not_isBlank_of_mem_from {from' : List Char} {c : Char} (h : InAnyCase "FROM" from')
    (hc : c ∈ from') : isBlank c ≠ true := by
  intro hblank
  have hmem : foldLetter c ∈ "FROM".toList.map foldLetter := h ▸ List.mem_map_of_mem hc
  have hword : "FROM".toList.map foldLetter = ['f', 'r', 'o', 'm'] := by decide
  rw [foldLetter_of_isBlank hblank, hword] at hmem
  simp only [List.mem_cons, List.not_mem_nil, or_false] at hmem
  rcases hmem with rfl | rfl | rfl | rfl <;> exact absurd hblank (by decide)

/-- Where a closing follows `u`, another one that begins with `u` ends within it: the blank of the
later closing cannot be part of the word of the earlier one. -/
theorem plain_closing_eq_append {closing' rest rest' u : List Char}
    (hclosing : plain.IsClosing closing) (hclosing' : plain.IsClosing closing') (hu : u ≠ [])
    (same : u ++ (closing ++ rest) = closing' ++ rest') :
    ∃ w, u = closing' ++ w ∧ rest' = w ++ (closing ++ rest) := by
  obtain ⟨c, from', rfl, hc, -⟩ := hclosing
  obtain ⟨d, from'', rfl, -, hfrom⟩ := hclosing'
  obtain ⟨v, hv, hrest⟩ | ⟨w, hw, hrest⟩ := List.append_eq_append_iff.mp same
  · cases v with
    | nil => exact ⟨[], by simpa using hv.symm, by simpa using hrest.symm⟩
    | cons e v =>
      obtain ⟨rfl, -⟩ := List.cons_eq_cons.mp hrest
      obtain ⟨b, u, rfl⟩ := List.exists_cons_of_ne_nil hu
      have hword : from'' = u ++ c :: v := (List.cons_eq_cons.mp hv).2
      have hmem : c ∈ from'' := hword ▸ List.mem_append_right u List.mem_cons_self
      exact absurd hc (not_isBlank_of_mem_from hfrom hmem)
  · exact ⟨w, hw, hrest⟩

theorem not_closesAt {frame : Frame} {shape : Shape} {text : List Char} (m : frame.Marks shape)
    (h : frame.throughClosing? text = none) : ¬ ∃ i, shape.ClosesAt text i := by
  rintro ⟨i, passed, closing, rest, rfl, -, hclosing, hend⟩
  exact Frame.throughClosing?_ne_none m hclosing hend h

/-- Fields without a place to end, in the place of the plain list that stood first, stand first
again. -/
theorem plain_standsFirst_again (h : plain.StandsFirst before list after) (hne : fields ≠ [])
    (hfields : ¬ ∃ i, plain.ClosesAt fields i) :
    plain.StandsFirst before ("SELECT ".toList ++ fields ++ " FROM".toList) after := by
  have hopening : plain.IsOpening "SELECT ".toList := ⟨"SELECT".toList, ' ', rfl, rfl, rfl⟩
  have hclosing : plain.IsClosing " FROM".toList := ⟨' ', "FROM".toList, rfl, rfl, rfl⟩
  refine plain_marks.standsFirst h.begins hopening hne hclosing h.ends ?_ ?_
  · rintro u v opening' rest rfl hv hbegins hopening' same
    obtain ⟨w, rfl, -⟩ := (plain_opening_beginsApart hopening').eq_append
      (plain_opening_beginsApart hopening) hv same
    -- The opening would stand in the text that was searched before, and no list began there.
    have hopens : plain.OpensAt (u ++ (opening' ++ w) ++ list ++ after) u.length :=
      ⟨u, opening', w ++ list ++ after, by simp, rfl, hbegins, hopening'⟩
    have hle := plain_le_of_opensAt h.isLeast.1 hopens
    have hlen := plain_opening_length hopening'
    simp only [List.length_append] at hle
    omega
  · rintro u v closing' rest rfl hv hclosing' hend'
    intro same
    obtain ⟨w, rfl, rfl⟩ := plain_closing_eq_append hclosing hclosing' hv same
    exact hfields ⟨u.length, u, closing', w, (List.append_assoc _ _ _).symm, rfl, hclosing',
      wordMayEnd_of_append hend'⟩

end Shape

/-- A text that begins with none of the characters of a word, and none of whose endings meets the
word, is not put together by the word and what stands around it. -/
theorem infix_around {c : Char} {tail word before after : List Char} (hc : c ∉ word)
    (htail : ∀ v ∈ tail.tails, v ≠ [] → ¬ v <+: word ∧ ¬ word <+: v)
    (h : c :: tail <:+: before ++ (word ++ after)) :
    c :: tail <:+: before ∨ c :: tail <:+: after := by
  have behind (hheld : c :: tail <:+: word ++ after) : c :: tail <:+: after := by
    obtain hword | hafter | ⟨u, v, same, hu, hv⟩ := List.infix_append_iff.mp hheld
    · exact absurd (hword.subset List.mem_cons_self) hc
    · exact hafter
    · cases u with
      | nil => exact same ▸ hv.isInfix
      | cons d u =>
        obtain ⟨rfl, -⟩ := List.cons_eq_cons.mp same
        exact absurd (hu.subset List.mem_cons_self) hc
  obtain hbefore | hrest | ⟨u, v, same, hu, hv⟩ := List.infix_append_iff.mp h
  · exact .inl hbefore
  · exact .inr (behind hrest)
  · cases u with
    | nil => exact .inr (behind (same ▸ hv.isInfix))
    | cons d u =>
      rw [List.cons_append] at same
      obtain ⟨rfl, rfl⟩ := List.cons_eq_cons.mp same
      by_cases hnil : v = []
      · subst hnil
        rw [List.append_nil]
        exact .inl hu.isInfix
      · obtain ⟨hshort, hlong⟩ := htail v ((List.mem_tails _ _).mpr (List.suffix_append u v)) hnil
        rcases List.prefix_or_prefix_of_prefix hv (List.prefix_append word after) with hle | hle
        · exact absurd hle hshort
        · exact absurd hle hlong

theorem toList_clause (fields : List String) : (clause fields).toList =
    "SELECT ".toList ++ (", ".intercalate fields).toList ++ " FROM".toList := by
  rw [clause, String.toList_append, String.toList_append]

def replaced (sql : String) (fields : List String) : String := (replace? sql fields).getD sql

section Hints

variable {hint : String} (hhint : hint = hintStart ∨ hint = hintEnd)

include hhint

/-- A hint does not come together around the words that a replacement writes. -/
theorem hint_around {word : String} (hword : word = "SELECT " ∨ word = " FROM")
    {before after : List Char} (h : hint.toList <:+: before ++ (word.toList ++ after)) :
    hint.toList <:+: before ∨ hint.toList <:+: after := by
  rcases hhint with rfl | rfl <;> rcases hword with rfl | rfl <;>
    exact infix_around (by decide) (by decide) h

theorem not_holdsHints {text : List Char} (htext : ¬ hint.toList <:+: text) :
    ¬ HoldsHints text := by
  rintro ⟨hstart, hend⟩
  rcases hhint with rfl | rfl
  · exact htext hstart
  · exact htext hend

/-- The replaced text lacks the hint that the statement and the fields lack. -/
theorem not_hint_replaced {before list after fields : List Char}
    (htext : ¬ hint.toList <:+: before ++ list ++ after) (hfields : ¬ hint.toList <:+: fields) :
    ¬ hint.toList <:+: before ++ ("SELECT ".toList ++ fields ++ " FROM".toList) ++ after := by
  intro h
  have hbefore : ¬ hint.toList <:+: before := fun h =>
    htext (h.trans ⟨[], list ++ after, by simp⟩)
  have hafter : ¬ hint.toList <:+: after := fun h =>
    htext (h.trans ⟨before ++ list, [], by simp⟩)
  simp only [List.append_assoc] at h
  rcases hint_around hhint (.inl rfl) h with h | h
  · exact hbefore h
  · rcases hint_around hhint (.inr rfl) h with h | h
    · exact hfields h
    · exact hafter h

variable {sql sql' : String} {first : List String} (htext : ¬ hint.toList <:+: sql.toList)
variable (hfields : ¬ hint.toList <:+: (", ".intercalate first).toList)
variable (hne : ", ".intercalate first ≠ "")
variable (hfrom : ¬ ∃ i, Shape.plain.ClosesAt (", ".intercalate first).toList i)

include htext hfields hne hfrom

/-- Nothing is left of fields that are replaced in their turn. -/
theorem replace?_replace? (h : replace? sql first = some sql') (second : List String) :
    replace? sql' second = replace? sql second := by
  have hstands : (Shape.ofText sql.toList).StandsIn sql.toList := by
    by_contra hnone
    rw [replace?_eq_none_iff.mpr hnone] at h
    cases h
  obtain ⟨before, list, after, hsql, hfirst⟩ := exists_standsFirst_strings hstands
  obtain rfl : before ++ clause first ++ after = sql' :=
    Option.some.inj ((replace?_eq_some hfirst hsql first).symm.trans h)
  have hagain : (Shape.ofText (before ++ clause first ++ after).toList).StandsFirst before.toList
      (clause first).toList after.toList := by
    have hlacks : ¬ hint.toList <:+: before.toList ++ list.toList ++ after.toList := by
      rwa [← String.toList_append, ← String.toList_append, ← hsql]
    have hhints := not_holdsHints hhint (not_hint_replaced hhint hlacks hfields)
    rw [← toList_clause, ← String.toList_append, ← String.toList_append] at hhints
    rw [Shape.ofText, if_neg (not_holdsHints hhint htext)] at hfirst
    rw [Shape.ofText, if_neg hhints, toList_clause]
    exact Shape.plain_standsFirst_again hfirst (mt String.toList_eq_nil_iff.mp hne) hfrom
  rw [replace?_eq_some hagain rfl, replace?_eq_some hfirst hsql]

theorem replaced_replaced (second : List String) :
    replaced (replaced sql first) second = replaced sql second := by
  cases h : replace? sql first with
  | none =>
    rw [replaced, replaced, h]
    rfl
  | some sql' =>
    have hsecond : replace? sql second ≠ none := by
      intro hnone
      rw [replace?_eq_none_iff.mpr (replace?_eq_none_iff.mp hnone)] at h
      cases h
    obtain ⟨sql'', hsome⟩ := Option.ne_none_iff_exists'.mp hsecond
    have hagain := replace?_replace? hhint htext hfields hne hfrom h second
    simp only [replaced, h, hagain, hsome, Option.getD_some]

end Hints

end FieldList

open Workbench FieldList

theorem getD_selectFields? (b : Builder) (fields : List String) :
    (b.selectFields? fields).getD b = b.startWith (replaced b.text fields) := by
  rw [Builder.selectFields?, replaced]
  cases replace? b.text fields <;> rfl

theorem run_selectFields {fields : List String} (hne : fields ≠ []) (w : Workbench) :
    ∃ w', Operation.run (.selectFields fields) w = .ok .itself w' ∧
      w'.builder = w.builder.startWith (replaced w.builder.text fields) := by
  have hrun : Operation.run (.selectFields fields) w =
      (do let selected ← selecting w.builder fields; change fun _ => selected) w := by
    rw [Operation.run, Workbench.selectFields, if_neg (by simpa using hne)]
    rfl
  rw [hrun, ← getD_selectFields?]
  cases hselected : w.builder.selectFields? fields with
  | some selected =>
    rw [bind_of_ok (selecting_of_some hselected w)]
    exact ⟨_, rfl, rfl⟩
  | none =>
    rw [bind_of_ok (selecting_of_none hselected w)]
    exact ⟨_, rfl, rfl⟩

theorem outcome_cloneAsAggregate (aggregate : Option Aggregater) (w : Workbench) :
    outcome (Operation.run (.cloneAsAggregate aggregate)) w =
      (Aggregater.ask aggregate).bind fun definition =>
        if definition.fields.isEmpty then .error .emptyAggregate
        else .ok (.derived
          (w.builder.clone.startWith (replaced w.builder.text definition.fields))) := by
  rw [Operation.run]
  cases hasked : Aggregater.ask aggregate with
  | error e =>
    rw [outcome, cloneAsAggregate, hasked]
    rfl
  | ok definition =>
    change _ = if definition.fields.isEmpty then _ else _
    by_cases hempty : definition.entries = []
    · have hfields : definition.fields.isEmpty = true := by simpa [Aggregate.fields] using hempty
      have hanswer : (MonadExcept.ofExcept (Except.ok definition) : Work Aggregate) w =
          .ok definition w := rfl
      rw [if_pos hfields, outcome, cloneAsAggregate, hasked, bind_of_ok hanswer]
      simp only [hfields]
      rfl
    · have hfields : ¬ definition.fields.isEmpty = true := by simpa [Aggregate.fields] using hempty
      have htotals := getD_selectFields? w.builder.clone definition.fields
      rw [if_neg hfields, outcome]
      cases hselected : w.builder.clone.selectFields? definition.fields with
      | some totals =>
        rw [hselected] at htotals
        rw [cloneAsAggregate_eq hasked hempty (selecting_of_some hselected w)]
        exact congrArg (Except.ok ∘ Reply.derived) htotals
      | none =>
        rw [hselected] at htotals
        rw [cloneAsAggregate_eq hasked hempty (selecting_of_none hselected w)]
        exact congrArg (Except.ok ∘ Reply.derived) htotals

/-- Selecting fields overwrites what was selected before, so selecting the same ones twice is
selecting them once, and a totals query is the same before and after. That holds wherever a hint is
missing, from the statement and from the fields selected first, and those fields end no list. -/
theorem later_selection_overwrites (w : Workbench) (first second : List String) {hint : String}
    (hhint : hint = hintStart ∨ hint = hintEnd) (htext : ¬ hint.toList <:+: w.builder.text.toList)
    (hfields : ¬ hint.toList <:+: (", ".intercalate first).toList)
    (hne : ", ".intercalate first ≠ "")
    (hfrom : ¬ ∃ i, Shape.plain.ClosesAt (", ".intercalate first).toList i)
    (hsecond : second ≠ []) :
    ∃ once twice alone, Operation.run (.selectFields first) w = .ok .itself once ∧
      Operation.run (.selectFields second) once = .ok .itself twice ∧
      Operation.run (.selectFields second) w = .ok .itself alone ∧
      twice.builder = alone.builder ∧
      alone.builder = w.builder.startWith (replaced w.builder.text second) ∧
      (∃ again, Operation.run (.selectFields first) once = .ok .itself again ∧
        again.builder = once.builder) ∧
      ∀ aggregate, outcome (Operation.run (.cloneAsAggregate aggregate)) once =
        outcome (Operation.run (.cloneAsAggregate aggregate)) w := by
  have hfirst : first ≠ [] := by
    rintro rfl
    exact hne rfl
  obtain ⟨once, hrun, honce⟩ := run_selectFields hfirst w
  obtain ⟨twice, hrun', htwice⟩ := run_selectFields hsecond once
  obtain ⟨alone, hrun'', halone⟩ := run_selectFields hsecond w
  obtain ⟨again, hrun''', hagain⟩ := run_selectFields hfirst once
  have overwritten (fields : List String) :
      replaced once.builder.text fields = replaced w.builder.text fields := by
    rw [honce]
    exact replaced_replaced hhint htext hfields hne hfrom fields
  refine ⟨once, twice, alone, hrun, hrun', hrun'', ?_, halone, ⟨again, hrun''', ?_⟩, ?_⟩
  · rw [htwice, halone, overwritten, honce]
    rfl
  · rw [hagain, overwritten, honce]
    rfl
  · intro aggregate
    simp only [outcome_cloneAsAggregate, overwritten]
    rw [honce]
    rfl

/-- A statement with one of the hints, and fields with `FROM` in their names. -/
theorem later_selection_overwrites_of_single_hint :
    let b : Builder :=
      { dialect := Database.postgreSql.dialect
        text := "WITH w AS (SELECT\ta FROM u /* FIELDLIST */) SELECT b FROM w" }
    let w : Workbench := { builder := b, controller := none, serial := 1 }
    ∃ once twice alone,
      Operation.run (.selectFields ["from_day", "max(x) AS fromage"]) w = .ok .itself once ∧
      Operation.run (.selectFields ["1"]) once = .ok .itself twice ∧
      Operation.run (.selectFields ["1"]) w = .ok .itself alone ∧
      twice.builder = alone.builder ∧
      alone.builder.text = "WITH w AS (SELECT 1 FROM u /* FIELDLIST */) SELECT b FROM w" := by
  intro b w
  obtain ⟨once, twice, alone, hrun, hrun', hrun'', same, halone, -⟩ :=
    later_selection_overwrites w ["from_day", "max(x) AS fromage"] ["1"] (.inr rfl)
      (by decide +kernel) (by decide +kernel) (by decide +kernel)
      (Shape.not_closesAt plain_marks (by decide +kernel)) (by decide)
  have hreplaced : replaced b.text ["1"] =
      "WITH w AS (SELECT 1 FROM u /* FIELDLIST */) SELECT b FROM w" := by decide +kernel
  refine ⟨once, twice, alone, hrun, hrun', hrun'', same, ?_⟩
  rw [halone]
  exact hreplaced

end ParamSql
