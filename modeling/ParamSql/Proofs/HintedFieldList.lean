import ParamSql.Proofs.FieldListSearch

/-!
# Field lists between hints

What stands between the two hints may hold anything, a `SELECT` with its own `FROM` as well: the
list ends at the first closing hint that a `FROM` follows. The text before it may hold other field
lists, so long as none of them is hinted.
-/

namespace ParamSql
namespace FieldList

open Text

/-- The word occurs in the text, each of its letters in either case. -/
def HoldsInAnyCase (word : String) (text : List Char) : Prop :=
  word.toList.map foldLetter <:+: text.map foldLetter

instance (word : String) (text : List Char) : Decidable (HoldsInAnyCase word text) :=
  inferInstanceAs (Decidable (_ <:+: _))

/-- Somewhere in the text a closing hint stands with the word `FROM` after it. -/
def HoldsClosing (text : List Char) : Prop :=
  ∃ skipped closing rest, text = skipped ++ closing ++ rest ∧ Shape.hinted.IsClosing closing ∧
    wordMayEnd rest = true

theorem not_holdsClosing {text : List Char} (h : Frame.hinted.throughClosing? text = none) :
    ¬ HoldsClosing text := by
  rintro ⟨skipped, closing, rest, rfl, hclosing, hend⟩
  exact Frame.throughClosing?_ne_none hinted_marks hclosing hend h

namespace Shape

variable {before opening list closing after : List Char}

theorem holdsInAnyCase_of_opening {u v : List Char} (h : hinted.IsOpening opening) :
    HoldsInAnyCase hintStart (u ++ opening ++ v) := by
  obtain ⟨select, gap, hint, rfl, -, -, hhint⟩ := h
  rw [HoldsInAnyCase, ← hhint]
  refine List.IsInfix.map _ ⟨u ++ select ++ gap, v, ?_⟩
  simp only [List.append_assoc]

/-- No opening begins in a text without hints that another opening follows. -/
theorem hinted_opening_ne {opening' rest rest' passed u : List Char}
    (hopening : hinted.IsOpening opening) (hopening' : hinted.IsOpening opening')
    (hbefore : ¬ HoldsInAnyCase hintStart (passed ++ u)) (hu : u ≠ []) :
    u ++ (opening ++ rest) ≠ opening' ++ rest' := by
  intro same
  obtain ⟨w, rfl, -⟩ := (hinted_opening_beginsApart hopening').eq_append
    (hinted_opening_beginsApart hopening) hu same
  refine hbefore ?_
  rw [← List.append_assoc]
  exact holdsInAnyCase_of_opening hopening'

/-- No closing begins in a text that holds none and that another closing follows. -/
theorem hinted_closing_ne {closing' rest rest' passed u : List Char}
    (hclosing : hinted.IsClosing closing) (hclosing' : hinted.IsClosing closing')
    (hend' : wordMayEnd rest' = true) (hlist : ¬ HoldsClosing (passed ++ u)) (hu : u ≠ []) :
    u ++ (closing ++ rest) ≠ closing' ++ rest' := by
  intro same
  obtain ⟨w, rfl, rfl⟩ := (hinted_closing_beginsApart hclosing').eq_append
    (hinted_closing_beginsApart hclosing) hu same
  exact hlist ⟨passed, closing', w, (List.append_assoc _ _ _).symm, hclosing',
    wordMayEnd_of_append hend'⟩

theorem hinted_standsFirst (hbegins : wordMayBegin before.getLast? = true)
    (hbefore : ¬ HoldsInAnyCase hintStart before) (hopening : hinted.IsOpening opening)
    (hne : list ≠ []) (hlist : ¬ HoldsClosing list) (hclosing : hinted.IsClosing closing)
    (hend : wordMayEnd after = true) :
    hinted.StandsFirst before (opening ++ list ++ closing) after := by
  refine hinted_marks.standsFirst hbegins hopening hne hclosing hend ?_ ?_
  · rintro u v opening' rest rfl hv - hopening'
    exact hinted_opening_ne hopening hopening' hbefore hv
  · rintro u v closing' rest rfl hv hclosing' hend'
    exact hinted_closing_ne hclosing hclosing' hend' hlist hv

end Shape

def hintedList (select fore list aft from' : String) : String :=
  select ++ fore ++ hintStart ++ list ++ hintEnd ++ aft ++ from'

section Replacement

variable (before select fore list aft from' after : String)

theorem toList_hintedList : (hintedList select fore list aft from').toList =
    select.toList ++ (fore.toList ++ hintStart.toList) ++ list.toList ++
      (hintEnd.toList ++ (aft.toList ++ from'.toList)) := by
  simp [hintedList]

theorem holdsHints_of_hintedList :
    HoldsHints (before ++ hintedList select fore list aft from' ++ after).toList := by
  constructor
  · refine ⟨before.toList ++ select.toList ++ fore.toList,
      list.toList ++ hintEnd.toList ++ aft.toList ++ from'.toList ++ after.toList, ?_⟩
    simp [toList_hintedList]
  · refine ⟨before.toList ++ select.toList ++ fore.toList ++ hintStart.toList ++ list.toList,
      aft.toList ++ from'.toList ++ after.toList, ?_⟩
    simp [toList_hintedList]

/-- A hinted list is replaced whole, whatever it holds but a closing hint with a `FROM`, and
whatever stands before it but an opening hint. -/
theorem hinted_list_replaced
    (hbegins : wordMayBegin before.toList.getLast? = true)
    (hbefore : ¬ HoldsInAnyCase hintStart before.toList)
    (hselect : InAnyCase "SELECT" select.toList) (hfore : AllBlank fore.toList) (hne : list ≠ "")
    (hlist : ¬ HoldsClosing list.toList) (haft : AllBlank aft.toList)
    (hfrom : InAnyCase "FROM" from'.toList) (hend : wordMayEnd after.toList = true) :
    let framed := hintedList select fore list aft from'
    span? (before ++ framed ++ after) = some ⟨before.length, before.length + framed.length⟩ ∧
      ∀ fields, replace? (before ++ framed ++ after) fields =
        some (before ++ ("SELECT " ++ ", ".intercalate fields ++ " FROM") ++ after) := by
  intro framed
  have hopening : Shape.hinted.IsOpening (select.toList ++ (fore.toList ++ hintStart.toList)) :=
    ⟨_, _, _, rfl, hselect, hfore, rfl⟩
  have hclosing : Shape.hinted.IsClosing (hintEnd.toList ++ (aft.toList ++ from'.toList)) :=
    ⟨_, _, _, rfl, rfl, haft, hfrom⟩
  have hfirst : (Shape.ofText (before ++ framed ++ after).toList).StandsFirst before.toList
      framed.toList after.toList := by
    rw [Shape.ofText, if_pos (holdsHints_of_hintedList ..), toList_hintedList]
    have hchars : list.toList ≠ [] := by simpa using hne
    exact Shape.hinted_standsFirst hbegins hbefore hopening hchars hlist hclosing hend
  exact ⟨span?_eq_some hfirst rfl, replace?_eq_some hfirst rfl⟩

end Replacement

/-- A list with a query of its own, after a query that the list is not part of. -/
theorem hinted_list_replaced_of_nested :
    let sql := "WITH w AS (SELECT 1 FROM u) " ++
      hintedList "select" "\n" " id, (SELECT 2 FROM o) AS n " "" "From" ++ " t"
    span? sql = some ⟨28, 98⟩ ∧
      replace? sql ["count(*)"] = some "WITH w AS (SELECT 1 FROM u) SELECT count(*) FROM t" := by
  obtain ⟨hspan, hreplace⟩ :=
    hinted_list_replaced "WITH w AS (SELECT 1 FROM u) " "select" "\n"
      " id, (SELECT 2 FROM o) AS n " "" "From" " t" rfl (by decide +kernel) (by decide +kernel)
      (by decide) (by decide) (not_holdsClosing (by decide +kernel)) (by decide)
      (by decide +kernel) rfl
  exact ⟨hspan, hreplace ["count(*)"]⟩

end FieldList
end ParamSql
