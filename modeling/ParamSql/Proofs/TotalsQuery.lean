import ParamSql.Proofs.Changes
import ParamSql.Proofs.FieldListSearch

/-!
# Totals queries

A totals query is the statement with an aggregate in place of its field list. It is made of every
statement that has a field list in the plain sense, unless the text holds both hints and they do
not stand around a list: then the rows are queried again, and only a note tells so.
-/

namespace ParamSql

open Workbench FieldList

theorem selectFields?_of_standsFirst {b : Builder} {before list after : String}
    (hfirst : (Shape.ofText b.text.toList).StandsFirst before.toList list.toList after.toList)
    (htext : b.text = before ++ list ++ after) (fields : List String) :
    b.selectFields? fields = some (b.startWith (before ++ clause fields ++ after)) := by
  rw [Builder.selectFields?, replace?_eq_some hfirst htext, Option.map_some]

theorem selectFields?_eq_none {b : Builder} {fields : List String}
    (h : ¬ (Shape.ofText b.text.toList).StandsIn b.text.toList) :
    b.selectFields? fields = none := by
  rw [Builder.selectFields?, replace?_eq_none_iff.2 h, Option.map_none]

theorem selecting_of_some {b selected : Builder} {fields : List String}
    (h : b.selectFields? fields = some selected) (w : Workbench) :
    selecting b fields w = .ok selected w := by
  rw [selecting, h]
  rfl

theorem selecting_of_none {b : Builder} {fields : List String} (h : b.selectFields? fields = none)
    (w : Workbench) :
    selecting b fields w = .ok b { w with events :=
      w.events ++ [.note "No SELECT field list found to replace" none] } := by
  rw [selecting, h]
  rfl

/-- A copy with the aggregate as its fields. -/
theorem cloneAsAggregate_eq {aggregate : Option Aggregater} {definition : Aggregate}
    {w w' : Workbench} {totals : Builder} (hasked : Aggregater.ask aggregate = .ok definition)
    (hne : definition.entries ≠ [])
    (h : selecting w.builder.clone definition.fields w = .ok totals w') :
    cloneAsAggregate aggregate w = .ok (.derived totals) w' := by
  have hfields : definition.fields.isEmpty = false := by simpa [Aggregate.fields] using hne
  have hanswer : (MonadExcept.ofExcept (Aggregater.ask aggregate) : Work Aggregate) w =
      .ok definition w := by rw [hasked]; rfl
  rw [cloneAsAggregate, bind_of_ok hanswer]
  simp only [hfields]
  rw [if_neg Bool.false_ne_true, get_bind, bind_of_ok h]
  rfl

/-- A totals query is made wherever a field list stands in the plain sense: the first list of the
shape that the text calls for gives way to the aggregate, and all else stays. The only exception
are hints that do not stand around a list, with which the copy queries the rows as before. -/
theorem totals_query_made {w : Workbench} {aggregate : Option Aggregater} {definition : Aggregate}
    (hasked : Aggregater.ask aggregate = .ok definition) (hne : definition.entries ≠ [])
    (hplain : Shape.plain.StandsIn w.builder.text.toList) :
    let text := w.builder.text
    let columns := ", ".intercalate (definition.entries.map fun e => e.2 ++ " AS " ++ e.1)
    (∃ before list after : String, text = before ++ list ++ after ∧
        (Shape.ofText text.toList).StandsFirst before.toList list.toList after.toList ∧
        (∃ select fields from', list.toList = select ++ fields ++ from' ∧
          InAnyCase "SELECT" select ∧ InAnyCase "FROM" from') ∧
        cloneAsAggregate aggregate w = .ok (.derived (w.builder.clone.startWith
          (before ++ ("SELECT " ++ columns ++ " FROM") ++ after))) w) ∨
      (HoldsHints text.toList ∧ ¬ Shape.hinted.StandsIn text.toList ∧
        cloneAsAggregate aggregate w = .ok (.derived w.builder.clone) { w with events :=
          w.events ++ [.note "No SELECT field list found to replace" none] }) := by
  intro text columns
  by_cases hstands : (Shape.ofText text.toList).StandsIn text.toList
  · left
    obtain ⟨before, list, after, htext, hfirst⟩ := exists_standsFirst hstands
    have hsplit : text = String.ofList before ++ String.ofList list ++ String.ofList after := by
      rw [← String.toList_inj, htext]
      simp
    rw [← String.toList_ofList (l := before), ← String.toList_ofList (l := list),
      ← String.toList_ofList (l := after)] at hfirst
    refine ⟨.ofList before, .ofList list, .ofList after, hsplit, hfirst,
      Shape.exists_words hfirst.forms, cloneAsAggregate_eq hasked hne ?_⟩
    have hselected := selectFields?_of_standsFirst (b := w.builder.clone) hfirst hsplit
    exact selecting_of_some (hselected _) w
  · right
    have hhints : HoldsHints text.toList := by
      by_contra hnone
      rw [Shape.ofText, if_neg hnone] at hstands
      exact hstands hplain
    have hselected : w.builder.clone.selectFields? definition.fields = none :=
      selectFields?_eq_none hstands
    rw [Shape.ofText, if_pos hhints] at hstands
    exact ⟨hhints, hstands, cloneAsAggregate_eq hasked hne (selecting_of_none hselected w)⟩

/-- A list between hints, which holds a query of its own. -/
theorem totals_query_made_of_hints :
    let b : Builder :=
      { dialect := Database.postgreSql.dialect
        text := "SELECT /* FIELDLIST */ a, (SELECT b FROM u) AS c /* /FIELDLIST */ FROM t" }
    let w : Workbench := { builder := b, controller := none, serial := 1 }
    ∃ before list after : String, b.text = before ++ list ++ after ∧
      Shape.hinted.StandsFirst before.toList list.toList after.toList ∧
      before ++ "SELECT count(*) AS rowcount FROM" ++ after = "SELECT count(*) AS rowcount FROM t" ∧
      cloneAsAggregate none w =
        .ok (.derived (b.clone.startWith "SELECT count(*) AS rowcount FROM t")) w := by
  intro b w
  have hplain : Shape.plain.StandsIn b.text.toList :=
    Shape.plain_standsIn (c := ' ') (d := ' ') [] "SELECT".toList
      "/* FIELDLIST */ a, (SELECT b".toList "FROM".toList " u) AS c /* /FIELDLIST */ FROM t".toList
      (by decide +kernel) rfl rfl (by decide) (by decide) (by decide) rfl (by decide)
  have hshape : Shape.ofText b.text.toList = .hinted := if_pos (by decide +kernel)
  have hdone : replace? b.text Aggregate.totalRowCount.fields =
      some "SELECT count(*) AS rowcount FROM t" := by decide +kernel
  have hdefault : Aggregater.ask none = .ok .totalRowCount := rfl
  obtain ⟨before, list, after, htext, hfirst, -, hrun⟩ | ⟨-, hnone, -⟩ :=
    totals_query_made (w := w) hdefault (by decide) hplain
  · have hreplaced := replace?_eq_some hfirst htext Aggregate.totalRowCount.fields
    have hmade : before ++ "SELECT count(*) AS rowcount FROM" ++ after =
        "SELECT count(*) AS rowcount FROM t" :=
      Option.some.inj (hreplaced.symm.trans hdone)
    rw [hshape] at hfirst
    exact ⟨before, list, after, htext, hfirst, hmade, hmade ▸ hrun⟩
  · rw [← hshape] at hnone
    rw [replace?_eq_none_iff.2 hnone] at hdone
    cases hdone

/-- A word between `SELECT` and the opening hint: the rows are queried again. -/
theorem misplaced_hints_keep_row_query :
    let b : Builder :=
      { dialect := Database.postgreSql.dialect
        text := "SELECT DISTINCT /* FIELDLIST */ a /* /FIELDLIST */ FROM t" }
    let w : Workbench := { builder := b, controller := none, serial := 1 }
    Shape.plain.StandsIn b.text.toList ∧
      ∃ w', cloneAsAggregate none w = .ok (.derived b.clone) w' ∧ b.clone.text = b.text := by
  intro b w
  have hnone : b.clone.selectFields? Aggregate.totalRowCount.fields = none := by
    rw [Builder.selectFields?, Option.map_eq_none_iff]
    decide +kernel
  refine ⟨?_, _, cloneAsAggregate_eq rfl (by decide) (selecting_of_none hnone w), rfl⟩
  exact Shape.plain_standsIn (c := ' ') (d := ' ') [] "SELECT".toList
    "DISTINCT /* FIELDLIST */ a /* /FIELDLIST */".toList "FROM".toList " t".toList
    (by decide +kernel) rfl rfl (by decide) (by decide) (by decide) rfl (by decide)

end ParamSql
