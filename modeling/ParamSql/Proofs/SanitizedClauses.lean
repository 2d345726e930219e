import ParamSql.Proofs.BindingRun
import ParamSql.Proofs.Changes
import ParamSql.Proofs.FieldListShape

/-!
# Sanitized clauses

Of a request with names and directions, only what the sanitizer knows is written. A name is written
when it is in the sanitizer's own list, and of a direction it only matters whether it spells `DESC`.
Two requests that agree in this leave the same statement, whatever else they ask for.
-/

namespace ParamSql

open FieldList (AllBlank)
open Text

/-! ## Directions -/

namespace Text

/-- A text is what is left of it, between blanks. -/
theorem exists_stripChars (text : List Char) : ∃ before after,
    text = before ++ stripChars text ++ after ∧ AllBlank before ∧ AllBlank after := by
  let rest := stripLeft text
  refine ⟨text.takeWhile isBlank, (rest.reverse.takeWhile isBlank).reverse, ?_, ?_, ?_⟩
  · have hrest : rest = stripChars text ++ (rest.reverse.takeWhile isBlank).reverse := by
      have h := congrArg List.reverse (rest.reverse.takeWhile_append_dropWhile (p := isBlank))
      rw [List.reverse_append, List.reverse_reverse] at h
      exact h.symm
    rw [List.append_assoc, ← hrest]
    exact List.takeWhile_append_dropWhile.symm
  · exact fun _ hc => List.mem_takeWhile_imp hc
  · intro c hc
    exact List.mem_takeWhile_imp (List.mem_reverse.mp hc)

/-- The blanks at both ends of a word are removed, and nothing of the word. -/
theorem stripChars_around {before word after : List Char} (hbefore : AllBlank before)
    (hafter : AllBlank after) (hne : word ≠ []) (hword : ∀ c ∈ word, isBlank c = false) :
    stripChars (before ++ word ++ after) = word := by
  have hstrip (front rest : List Char) (hfront : AllBlank front) (w : List Char) (hw : w ≠ [])
      (hchars : ∀ c ∈ w, isBlank c = false) : stripLeft (front ++ (w ++ rest)) = w ++ rest := by
    obtain ⟨c, w, rfl⟩ := List.exists_cons_of_ne_nil hw
    have hc := hchars c List.mem_cons_self
    rw [stripLeft, List.dropWhile_append_of_pos hfront]
    simp [hc]
  have hreversed : AllBlank after.reverse := fun c hc => hafter c (List.mem_reverse.mp hc)
  have hleft := hstrip before after hbefore word hne hword
  have hright := hstrip after.reverse [] hreversed word.reverse (by simpa using hne)
    fun c hc => hword c (List.mem_reverse.mp hc)
  rw [stripChars, List.append_assoc, hleft, List.reverse_append]
  rw [List.append_nil] at hright
  rw [hright, List.reverse_reverse]

theorem capitalLetter_of_isBlank {c : Char} (h : isBlank c = true) : capitalLetter c = c := by
  have special : c ≠ '\u017f' := by
    rintro rfl
    revert h
    decide
  have small : ¬ (c.val ≥ 'a'.val ∧ c.val ≤ 'z'.val) :=
    FieldList.not_between_of_isBlank h 97 122 (by decide)
  rw [capitalLetter, if_neg special]
  exact dif_neg small

end Text

namespace SortList

/-- The direction is `DESC` in small letters or capitals, with any blanks around it. -/
def SpellsDescending (direction : Option String) : Prop :=
  ∃ before word after, (direction.getD "").toList = before ++ word ++ after ∧ AllBlank before ∧
    AllBlank after ∧ word.map capitalLetter = "DESC".toList

theorem isDescending_iff {direction : Option String} :
    isDescending direction = true ↔ SpellsDescending direction := by
  rw [isDescending, beq_iff_eq]
  constructor
  · intro h
    obtain ⟨before, after, htext, hbefore, hafter⟩ := exists_stripChars (direction.getD "").toList
    exact ⟨before, _, after, htext, hbefore, hafter, h⟩
  · rintro ⟨before, word, after, htext, hbefore, hafter, hword⟩
    have hne : word ≠ [] := by
      rintro rfl
      cases hword
    have hchars : ∀ c ∈ word, isBlank c = false := by
      intro c hc
      by_contra hblank
      rw [Bool.not_eq_false] at hblank
      have hletters : ("DESC".toList.all fun d => !isBlank d) = true := by decide
      have hmem : capitalLetter c ∈ "DESC".toList := hword ▸ List.mem_map_of_mem hc
      rw [capitalLetter_of_isBlank hblank] at hmem
      have hletter := List.all_eq_true.mp hletters c hmem
      simp [hblank] at hletter
    rw [htext, stripChars_around hbefore hafter hne hchars, hword]
    rfl

instance : DecidablePred SpellsDescending := fun _ => decidable_of_iff _ isDescending_iff

def writtenEntry (e : String × Option String) : String :=
  e.1 ++ " " ++ if SpellsDescending e.2 then "DESC" else "ASC"

theorem entry_eq (e : String × Option String) : entry e.1 e.2 = writtenEntry e := by
  rw [entry, writtenEntry]
  by_cases h : SpellsDescending e.2
  · rw [if_pos h, if_pos (isDescending_iff.mpr h)]
    rfl
  · rw [if_neg h, if_neg (mt isDescending_iff.mp h)]
    rfl

/-- The field is the same, and its direction comes to the same. -/
def SameEntry (e e' : String × Option String) : Prop :=
  e.1 = e'.1 ∧ (SpellsDescending e.2 ↔ SpellsDescending e'.2)

theorem map_writtenEntry_congr {es es' : List (String × Option String)}
    (h : List.Forall₂ SameEntry es es') : es.map writtenEntry = es'.map writtenEntry := by
  induction h with
  | nil => rfl
  | cons hfirst _ ih =>
    obtain ⟨hfield, hdirection⟩ := hfirst
    rw [List.map_cons, List.map_cons, ih, writtenEntry, writtenEntry, hfield]
    simp only [hdirection]

end SortList

/-! ## What is left of a request -/

namespace Sanitizer

variable {fields : List String} {sortable : Option (List String)} {defaultSort : SortList}

theorem fieldsFor_ofModel (requested : List String) :
    (ofModel fields sortable defaultSort).fieldsFor requested =
      .ok (requested.filter (· ∈ fields)) := by
  cases requested with
  | nil => rfl
  | cons field requested =>
    simp [fieldsFor, ofModel, FieldSanitizer.toSanitizer, FieldSanitizer.keepFields,
      FieldSanitizer.ofModel]

theorem orderFor_ofModel (requested : SortList) :
    ∃ order, (ofModel fields sortable defaultSort).orderFor requested = .ok order ∧
      order.entries =
        let allowed := requested.entries.filter (·.1 ∈ sortable.getD fields)
        if allowed = [] then defaultSort.entries else allowed := by
  let model := FieldSanitizer.ofModel fields sortable defaultSort
  let kept := model.keepOrder requested
  have hkept : kept.entries = requested.entries.filter (·.1 ∈ sortable.getD fields) := rfl
  -- About an empty request the sanitizer is not asked, but would leave nothing of it either.
  have hasked : (ofModel fields sortable defaultSort).keptOrder requested = .ok kept := by
    obtain ⟨entries, hnodup⟩ := requested
    cases entries with
    | nil => rfl
    | cons e rest => rfl
  refine ⟨if kept.isEmpty then defaultSort else kept, ?_, ?_⟩
  · rw [orderFor, hasked]
    change (if kept.isEmpty then .ok defaultSort else .ok kept : Except Failure SortList) = _
    split <;> rfl
  · rw [← hkept, Table.isEmpty]
    cases h : kept.entries with
    | nil => rfl
    | cons e rest => exact h

end Sanitizer

namespace Builder

theorem fieldListText_eq (glue : String) (fields : List String) :
    fieldListText glue fields =
      if fields = [] then glue ++ "*" else ", ".intercalate (fields.map (glue ++ ·)) := by
  cases fields with
  | nil => rfl
  | cons field fields =>
    rw [fieldListText, List.isEmpty_cons, if_neg Bool.false_ne_true, if_neg (List.cons_ne_nil _ _)]
    induction fields generalizing field with
    | nil => simp
    | cons next fields ih =>
      rw [List.map_cons, List.map_cons, String.intercalate_cons_cons, String.intercalate_cons_cons,
        ← List.map_cons, ← ih]
      simp only [String.append_assoc]

theorem orderBy_eq_write (b : Builder) (order : SortList) :
    b.orderBy order =
      if order.entries = [] then b
      else b.write (" ORDER BY " ++ ",".intercalate (order.entries.map SortList.writtenEntry)) := by
  have hclause : order.clause = ",".intercalate (order.entries.map SortList.writtenEntry) := by
    rw [SortList.clause]
    simp only [SortList.entry_eq]
  rw [orderBy, Table.isEmpty, hclause]
  cases order.entries with
  | nil => rfl
  | cons e rest =>
    rw [List.isEmpty_cons, if_neg Bool.false_ne_true, if_neg (List.cons_ne_nil _ _)]
    simp only [add, write, String.append_assoc]
    rfl

variable {b : Builder} {serial : Nat} {fields : List String} {sortable : Option (List String)}
  {defaultSort : SortList}

theorem addSanitizedFieldList_of_model
    (h : b.sanitizer = some ⟨serial, .ofModel fields sortable defaultSort⟩)
    (requested : List String) :
    let allowed := requested.filter (· ∈ fields)
    addSanitizedFieldList requested b = .ok () (b.write (" " ++
      if allowed = [] then b.context.glue ++ "*"
      else ", ".intercalate (allowed.map (b.context.glue ++ ·)))) := by
  rw [addSanitizedFieldList, get_bind, h]
  dsimp only
  rw [Sanitizer.fieldsFor_ofModel, ← fieldListText_eq]
  rfl

theorem orderBySanitized_of_model
    (h : b.sanitizer = some ⟨serial, .ofModel fields sortable defaultSort⟩)
    (requested : SortList) :
    let allowed := requested.entries.filter (·.1 ∈ sortable.getD fields)
    let order := if allowed = [] then defaultSort.entries else allowed
    orderBySanitized requested b = .ok () (if order = [] then b
      else b.write (" ORDER BY " ++ ",".intercalate (order.map SortList.writtenEntry))) := by
  obtain ⟨order, horder, hentries⟩ :=
    @Sanitizer.orderFor_ofModel fields sortable defaultSort requested
  rw [orderBySanitized, get_bind, h]
  dsimp only
  rw [horder, ← hentries, ← orderBy_eq_write]
  rfl

/-- The names that are not allowed have no part in the order, nor has the spelling of directions. -/
theorem orderBySanitized_congr
    (h : b.sanitizer = some ⟨serial, .ofModel fields sortable defaultSort⟩)
    {requested requested' : SortList}
    (hallowed : List.Forall₂ SortList.SameEntry
      (requested.entries.filter (·.1 ∈ sortable.getD fields))
      (requested'.entries.filter (·.1 ∈ sortable.getD fields))) :
    orderBySanitized requested b = orderBySanitized requested' b := by
  rw [orderBySanitized_of_model h, orderBySanitized_of_model h]
  have hwritten := SortList.map_writtenEntry_congr hallowed
  generalize requested.entries.filter (·.1 ∈ sortable.getD fields) = allowed at hallowed hwritten
  generalize requested'.entries.filter (·.1 ∈ sortable.getD fields) = allowed' at hallowed hwritten
  cases hallowed with
  | nil => rfl
  | cons _ _ => simp only [hwritten, reduceCtorEq, if_false]

end Builder

open Builder

/-- Nothing but allowed names reaches the text. A field list has the requested fields that the model
has, and a sort order the requested fields that may be sorted by or else the default ones, each as
often and in the order as given, with one of two directions. So requests that agree in their allowed
part leave the same behind. -/
theorem sanitizer_confines_requests {w : Workbench} {serial : Nat} {fields : List String}
    {sortable : Option (List String)} {defaultSort : SortList}
    (h : w.builder.sanitizer = some ⟨serial, .ofModel fields sortable defaultSort⟩) :
    (∀ requested : List String,
      let allowed := requested.filter (· ∈ fields)
      let glue := w.builder.context.glue
      let list := if allowed = [] then glue ++ "*" else ", ".intercalate (allowed.map (glue ++ ·))
      Operation.run (.addSanitizedFieldList requested) w =
        .ok .itself { w with builder := w.builder.write (" " ++ list) }) ∧
    (∀ requested : SortList,
      let allowed := requested.entries.filter (·.1 ∈ sortable.getD fields)
      let order := if allowed = [] then defaultSort.entries else allowed
      let written := ",".intercalate (order.map SortList.writtenEntry)
      Operation.run (.orderBySanitized requested) w =
        .ok .itself { w with builder :=
          if order = [] then w.builder else w.builder.write (" ORDER BY " ++ written) }) ∧
    (∀ requested requested' : List String,
      requested.filter (· ∈ fields) = requested'.filter (· ∈ fields) →
      Operation.run (.addSanitizedFieldList requested) w =
        Operation.run (.addSanitizedFieldList requested') w) ∧
    ∀ requested requested' : SortList,
      List.Forall₂ SortList.SameEntry (requested.entries.filter (·.1 ∈ sortable.getD fields))
        (requested'.entries.filter (·.1 ∈ sortable.getD fields)) →
      Operation.run (.orderBySanitized requested) w =
        Operation.run (.orderBySanitized requested') w := by
  have hfields (requested : List String) :
      Operation.run (.addSanitizedFieldList requested) w = _ :=
    Workbench.attempt_of_ok (addSanitizedFieldList_of_model h requested)
  have horder (requested : SortList) : Operation.run (.orderBySanitized requested) w = _ :=
    Workbench.attempt_of_ok (orderBySanitized_of_model h requested)
  refine ⟨hfields, horder, ?_, ?_⟩
  · intro requested requested' hallowed
    rw [hfields, hfields, hallowed]
  · intro requested requested' hallowed
    have hsame := (orderBySanitized_congr h hallowed).symm.trans
      (orderBySanitized_of_model h requested)
    exact (horder requested).trans (Workbench.attempt_of_ok hsame).symm

theorem sanitizer_confines_requests_of_unknown_names :
    let model : Sanitizer := .ofModel ["id", "name"] none (.ofList [("id", none)])
    let b : Builder := { dialect := Database.sqlite.dialect, sanitizer := some ⟨0, model⟩ }
    let w : Workbench := { builder := b, controller := none, serial := 1 }
    let plain : SortList := .ofList [("name", some "DESC")]
    let crafted : SortList :=
      .ofList [("name; --", some "DESC"), ("name", some " desc\n"), ("1", some "; --")]
    (∃ w',
      Operation.run (.addSanitizedFieldList ["name", "* --", "id", "name"]) w = .ok .itself w' ∧
        w'.builder.text = "  name,  id,  name") ∧
    ∃ w', Operation.run (.orderBySanitized plain) w = .ok .itself w' ∧
      Operation.run (.orderBySanitized crafted) w = .ok .itself w' ∧
      w'.builder.text = " ORDER BY name DESC" := by
  intro model b w plain crafted
  have hmodel : w.builder.sanitizer =
      some ⟨0, .ofModel ["id", "name"] none (.ofList [("id", none)])⟩ := rfl
  obtain ⟨hfields, horder, -, hsame⟩ := sanitizer_confines_requests hmodel
  refine ⟨⟨_, hfields _, rfl⟩, _, horder plain, (hsame crafted plain ?_).trans (horder plain), ?_⟩
  · have hcrafted : crafted.entries.filter (·.1 ∈ ["id", "name"]) = [("name", some " desc\n")] := by
      decide
    have hplain : plain.entries.filter (·.1 ∈ ["id", "name"]) = [("name", some "DESC")] := by
      decide
    change List.Forall₂ _ (crafted.entries.filter (·.1 ∈ ["id", "name"]))
      (plain.entries.filter (·.1 ∈ ["id", "name"]))
    rw [hcrafted, hplain]
    exact .cons ⟨rfl, by decide⟩ .nil
  · decide

end ParamSql
