import ParamSql.Proofs.BindingRun

/-!
# Every bound value is delivered once

The placeholders that bindings write are found again by the scan, whatever the columns are called:
quotes inside a column are doubled, glue and operators hold nothing a token begins with, and no key
touches a letter before or after it. So rendering fills the slots of the statement in turn, and the
arguments are the bound values in the order of the text.
-/

namespace ParamSql

open Placeholder

namespace Binding

theorem isIdle_of_isGlueChar {c : Char} (h : isGlueChar c = true) : isIdle c = true :=
  isIdle_of_class (p := isGlueChar) (by decide) h

/-- A character of glue that is no letter may stand before a placeholder and after one. -/
theorem opens_and_closes_of_isGlueChar {c : Char} (h : isGlueChar c = true)
    (halpha : c.isAlpha = false) : opens (some c) = true ∧ ∀ rest, closes (c :: rest) = true := by
  have hmem : c ∈ [' ', ',', '(', ')', '=', '<', '>'] := by
    simpa [isGlueChar, halpha] using h
  simp only [List.mem_cons, List.not_mem_nil, or_false] at hmem
  rcases hmem with rfl | rfl | rfl | rfl | rfl | rfl | rfl <;>
    exact ⟨by decide, fun rest => by simp only [closes]; decide⟩

end Binding

namespace Placeholder

theorem reads_slots {names : List (List Char)} {before : Option Char} {rest : List Char}
    {keys : List (List Char)} (hbefore : opens before = true)
    (hkeys : ∀ key ∈ keys, key ∈ names ∧ key ≠ [])
    (hchars : ∀ n ∈ names, ∀ c ∈ n, isNameChar c = true) (hcloses : closes rest = true) :
    Reads names before ((keys.map Piece.slot).intersperse (.verbatim [','])) rest := by
  induction keys generalizing before with
  | nil => exact Reads.nil
  | cons key keys ih =>
    obtain ⟨hkey, hne⟩ := hkeys key List.mem_cons_self
    cases keys with
    | nil => exact Reads.slot hbefore hkey hne hchars hcloses
    | cons next keys =>
      have hrest := @ih (some ',') (by decide) fun k hk => hkeys k (List.mem_cons_of_mem _ hk)
      rw [List.map_cons] at hrest
      rw [List.map_cons, List.map_cons, List.intersperse_cons_cons]
      apply Reads.cons
      · apply Reads.slot hbefore hkey hne hchars
        exact (Binding.opens_and_closes_of_isGlueChar (by decide) (by decide)).2 _
      · apply Reads.cons
        · exact Reads.idle (List.all_eq_true.mp (by decide))
        · exact hrest

end Placeholder

namespace Datum

theorem mem_numbered {key : String} {i : Nat} {values : List Value} {e : String × Value}
    (he : e ∈ numbered key i values) : (∃ j, e.1 = Builder.elementKey key j) ∧ e.2 ∈ values := by
  induction values generalizing i with
  | nil => exact absurd he List.not_mem_nil
  | cons v values ih =>
    rcases List.mem_cons.mp he with rfl | hrest
    · exact ⟨⟨i, rfl⟩, List.mem_cons_self⟩
    · obtain ⟨hkey, hvalue⟩ := ih hrest
      exact ⟨hkey, List.mem_cons_of_mem _ hvalue⟩

theorem map_snd_numbered (key : String) (i : Nat) (values : List Value) :
    (numbered key i values).map Prod.snd = values := by
  induction values generalizing i with
  | nil => rfl
  | cons v values ih => rw [numbered, List.map_cons, ih]

def values : Datum → List Value
  | scalar value => [value]
  | list values => values

theorem map_snd_shown (data : Datum) (key : String) :
    (data.shown key).map Prod.snd = data.values := by
  cases data with
  | scalar v => rfl
  | list vs => exact map_snd_numbered key 1 vs

/-- What gets a placeholder is what is bound to a value other than null. -/
theorem filter_entries {data : Datum} (h : data.IsBound) (key : String) :
    (data.entries key).filter (fun e => !e.2.isNull) = data.shown key := by
  have hkeep {v : Value} (hv : v ≠ .null) : (!v.isNull) = true := by
    rw [Bool.not_eq_true', ← Bool.not_eq_true, Value.isNull_iff]
    exact hv
  cases data with
  | scalar v =>
    apply List.filter_eq_self.mpr
    intro e he
    rw [List.mem_singleton.mp he]
    exact hkeep h
  | list vs =>
    rw [entries, List.filter_cons_of_neg (by simp [Value.isNull])]
    apply List.filter_eq_self.mpr
    intro e he
    apply hkeep
    intro hnull
    have hmem := (mem_numbered he).2
    rw [hnull] at hmem
    exact h.2 hmem

end Datum

namespace Binding

variable {x : Binding}

theorem isWord_of_mem_elementKey {key : String} (hkey : ∀ c ∈ key.toList, Text.isWord c = true)
    (i : Nat) : ∀ c ∈ (Builder.elementKey key i).toList, Text.isWord c = true := by
  intro c hc
  simp only [Builder.elementKey, String.toList_append, String.toList_ofList, List.mem_append] at hc
  rcases hc with (hc | hc) | hc
  · exact hkey c hc
  · obtain rfl : c = '_' := by simpa using hc
    decide
  · have hdigit := Nat.isDigit_of_mem_toDigits (by decide) (by decide) hc
    apply Text.isWord_of_key
    simp [Char.isAlphanum, hdigit]

theorem shown_key_isWord (hx : x.Admissible) {e : String × Value} (he : e ∈ x.shown) :
    e.1.toList ≠ [] ∧ ∀ c ∈ e.1.toList, Text.isWord c = true := by
  have hword : ∀ c ∈ x.key.toList, Text.isWord c = true := fun c hc =>
    Text.isWord_of_key (hx.key_chars c hc)
  have hne : x.key.toList ≠ [] := fun hnil => hx.key_ne (String.toList_eq_nil_iff.mp hnil)
  unfold shown at he
  cases hdata : x.data with
  | scalar v =>
    rw [hdata] at he
    rw [List.mem_singleton.mp he]
    exact ⟨hne, hword⟩
  | list vs =>
    rw [hdata] at he
    obtain ⟨⟨j, hj⟩, _⟩ := Datum.mem_numbered he
    rw [hj]
    constructor
    · simp [Builder.elementKey]
    · exact isWord_of_mem_elementKey hword j

/-- Glue, operator and the parentheses around a list hold nothing a token begins with. -/
theorem isIdle_of_mem_opening (hx : x.Admissible) :
    ∀ c ∈ (x.data.opening x.operator).toList, isIdle c = true := by
  have hoperator : ∀ c ∈ x.operator.toList, isIdle c = true := fun c hc =>
    isIdle_of_isGlueChar (hx.operator_chars c hc)
  cases x.data with
  | scalar v => exact hoperator
  | list vs =>
    intro c hc
    rw [Datum.opening, String.toList_append] at hc
    rcases List.mem_append.mp hc with hc | hc
    · exact isIdle_of_mem_beforeList hoperator c hc
    · obtain rfl : c = '(' := by simpa using hc
      decide

theorem opens_opening (hx : x.Admissible) {before : Option Char} (hbefore : opens before = true) :
    opens ((x.data.opening x.operator).toList.getLast?.or before) = true := by
  cases x.data with
  | scalar v =>
    rw [Datum.opening]
    cases hlast : x.operator.toList.getLast? with
    | none => rwa [Option.none_or]
    | some c =>
      have hmem := List.mem_of_getLast? hlast
      rw [Option.some_or]
      exact (opens_and_closes_of_isGlueChar (hx.operator_chars c hmem)
        (hx.operator_last c hlast)).1
  | list vs =>
    have hlast : ((Datum.list vs).opening x.operator).toList.getLast? = some '(' := by
      simp [Datum.opening]
    rw [hlast, Option.some_or]
    decide

theorem closes_closing (data : Datum) {rest : List Char} (h : closes rest = true) :
    closes (data.closing.toList ++ rest) = true := by
  cases data with
  | scalar v => exact h
  | list vs =>
    have hparen : isGlueChar ')' = true := by decide
    have hchars : (Datum.list vs).closing.toList = [')'] := by simp [Datum.closing]
    rw [hchars]
    exact (opens_and_closes_of_isGlueChar hparen (by decide)).2 rest

theorem closes_spelled_pieces (db : Database) (hx : x.Admissible) (rest : List Char) :
    closes (spelled (x.pieces db.dialect) ++ rest) = true := by
  have hchars := hx.glue_chars
  have hhead := hx.glue_head
  rw [pieces, List.cons_append, List.cons_append, spelled_cons, spelled_cons, Piece.write,
    Piece.write, List.append_assoc, List.append_assoc]
  cases hglue : x.glue.toList with
  | nil => exact closes_quoteChars db _ _
  | cons c glue =>
    rw [hglue] at hchars hhead
    exact (opens_and_closes_of_isGlueChar (hchars c List.mem_cons_self) (hhead c rfl)).2 _

/-- The scan finds the placeholders of a binding wherever it is written. -/
theorem reads_pieces (db : Database) (hx : x.Admissible) {names : List (List Char)}
    (hkeys : ∀ e ∈ x.shown, e.1.toList ∈ names)
    (hchars : ∀ n ∈ names, ∀ c ∈ n, isNameChar c = true) {before : Option Char} {rest : List Char}
    (hcloses : closes rest = true) : Reads names before (x.pieces db.dialect) rest := by
  have hslots : ∀ key ∈ x.shown.map (fun e => e.1.toList), key ∈ names ∧ key ≠ [] := by
    intro key hkey
    obtain ⟨e, he, rfl⟩ := List.mem_map.mp hkey
    exact ⟨hkeys e he, (shown_key_isWord hx he).1⟩
  have hclosing : ∀ c ∈ x.data.closing.toList, isIdle c = true := by
    cases x.data with
    | scalar v => exact fun c hc => absurd hc List.not_mem_nil
    | list vs => exact List.all_eq_true.mp (by decide : ")".toList.all isIdle = true)
  have hlist : x.shown.map (fun e => Piece.slot e.1.toList) =
      (x.shown.map fun e => e.1.toList).map Piece.slot := by
    rw [List.map_map]
    rfl
  rw [pieces, hlist, List.cons_append, List.cons_append, List.cons_append, List.nil_append]
  apply Reads.cons
  · exact Reads.idle fun c hc => isIdle_of_isGlueChar (hx.glue_chars c hc)
  apply Reads.cons
  · exact Reads.verbatim (passes_quoteChars db hx.column_chars)
  apply Reads.cons
  · exact Reads.idle (isIdle_of_mem_opening hx)
  · have hopens := opens_opening hx
      (opens_quoteChars db x.column.toList (x.glue.toList.getLast?.or before))
    apply Reads.append
    · apply reads_slots hopens hslots hchars
      rw [spelled_verbatim]
      exact closes_closing x.data hcloses
    · exact Reads.idle hclosing

theorem reads_flatMap_pieces (db : Database) {xs : List Binding} (hxs : ∀ x ∈ xs, x.Admissible)
    {names : List (List Char)} (hkeys : ∀ x ∈ xs, ∀ e ∈ x.shown, e.1.toList ∈ names)
    (hchars : ∀ n ∈ names, ∀ c ∈ n, isNameChar c = true) (before : Option Char) :
    Reads names before (xs.flatMap fun x => x.pieces db.dialect) [] := by
  induction xs generalizing before with
  | nil => exact Reads.nil
  | cons x xs ih =>
    have hcloses : closes (spelled (xs.flatMap fun x => x.pieces db.dialect) ++ []) = true := by
      cases xs with
      | nil => rfl
      | cons y ys =>
        have hy := closes_spelled_pieces db (hxs y (by simp))
          (spelled (ys.flatMap fun x => x.pieces db.dialect))
        rwa [List.append_nil, List.flatMap_cons, spelled_append]
    rw [List.flatMap_cons]
    apply Reads.append
    · exact reads_pieces db (hxs x List.mem_cons_self) (hkeys x List.mem_cons_self) hchars hcloses
    · exact ih (fun y hy => hxs y (List.mem_cons_of_mem _ hy))
        (fun y hy => hkeys y (List.mem_cons_of_mem _ hy)) _

/-- What is bound in the course of bindings with keys of their own is bound in the end. -/
theorem entries_of_gains {b b' : Builder} {pieces : List Piece} {es : List (String × Value)}
    (h : Gains b b' pieces es) (hempty : b.params = ∅) (hnodup : (es.map Prod.fst).Nodup) :
    b'.params.entries = es := by
  rw [h.params_eq, hempty,
    Table.entries_insertAll_of_disjoint hnodup fun _ _ => Table.not_mem_empty _]
  rfl

theorem filter_flatMap_entries {xs : List Binding} (hxs : ∀ x ∈ xs, x.Admissible) :
    (xs.flatMap entries).filter (fun e => !e.2.isNull) = xs.flatMap shown := by
  rw [List.filter_flatMap]
  apply List.flatMap_congr
  intro x hx
  exact Datum.filter_entries (hxs x hx).data_bound x.key

theorem slots_intersperse (keys : List (List Char)) :
    slots ((keys.map Piece.slot).intersperse (.verbatim [','])) = keys := by
  induction keys with
  | nil => rfl
  | cons key keys ih =>
    cases keys with
    | nil => rfl
    | cons next keys =>
      rw [List.map_cons] at ih
      rw [List.map_cons, List.map_cons, List.intersperse_cons_cons]
      exact congrArg (key :: ·) ih

theorem slots_pieces (x : Binding) (d : Dialect) :
    slots (x.pieces d) = x.shown.map fun e => e.1.toList := by
  have hslots := slots_intersperse (x.shown.map fun e => e.1.toList)
  rw [List.map_map] at hslots
  rw [pieces, slots_append, slots_append]
  exact (List.append_nil _).trans hslots

theorem slots_flatMap_pieces (xs : List Binding) (d : Dialect) :
    slots (xs.flatMap fun x => x.pieces d) = (xs.flatMap shown).map fun e => e.1.toList := by
  induction xs with
  | nil => rfl
  | cons x xs ih =>
    rw [List.flatMap_cons, slots_append, slots_pieces, ih, List.flatMap_cons, List.map_append]

end Binding

def writtenPieces (d : Dialect) (start : String) (xs : List Binding) : List Piece :=
  .verbatim start.toList :: xs.flatMap fun x => x.pieces d

section Written

variable {db : Database} {start : String} {xs : List Binding} {parameters : Table Value}

theorem slots_writtenPieces (d : Dialect) (start : String) (xs : List Binding) :
    slots (writtenPieces d start xs) = (xs.flatMap Binding.shown).map fun e => e.1.toList :=
  Binding.slots_flatMap_pieces xs d

theorem boundNames_of_entries (hxs : ∀ x ∈ xs, x.Admissible)
    (hentries : parameters.entries = xs.flatMap Binding.entries) :
    (boundNames parameters).map String.toList = slots (writtenPieces db.dialect start xs) := by
  rw [slots_writtenPieces, ← Binding.filter_flatMap_entries hxs, ← hentries]
  exact List.map_map

theorem nodup_slots_writtenPieces (hxs : ∀ x ∈ xs, x.Admissible)
    (hkeys : ((xs.flatMap Binding.entries).map Prod.fst).Nodup) :
    (slots (writtenPieces db.dialect start xs)).Nodup := by
  have hshown : ((xs.flatMap Binding.shown).map Prod.fst).Nodup := by
    rw [← Binding.filter_flatMap_entries hxs]
    exact hkeys.sublist (List.filter_sublist.map _)
  have hmap := hshown.map fun _ _ => String.toList_inj.mp
  rw [List.map_map] at hmap
  rwa [slots_writtenPieces]

theorem reads_writtenPieces (hstart : ∀ ch ∈ start.toList, isIdle ch = true)
    (hxs : ∀ x ∈ xs, x.Admissible) :
    Reads (slots (writtenPieces db.dialect start xs)) none (writtenPieces db.dialect start xs)
      [] := by
  apply Reads.cons
  · exact Reads.idle hstart
  · apply Binding.reads_flatMap_pieces db hxs
    · intro x hx e he
      rw [slots_writtenPieces]
      exact List.mem_map.mpr ⟨e, List.mem_flatMap.mpr ⟨x, hx, he⟩, rfl⟩
    · intro name hname ch hch
      rw [slots_writtenPieces] at hname
      obtain ⟨e, he, rfl⟩ := List.mem_map.mp hname
      obtain ⟨x, hx, hex⟩ := List.mem_flatMap.mp he
      have hword := (Binding.shown_key_isWord (hxs x hx) hex).2 ch hch
      rw [isNameChar, hword, Bool.true_or, Bool.true_or]

theorem map_valueOf_slots (hxs : ∀ x ∈ xs, x.Admissible)
    (hentries : parameters.entries = xs.flatMap Binding.entries) :
    (slots (writtenPieces db.dialect start xs)).map (valueOf parameters) =
      xs.flatMap fun x => x.data.values := by
  have hvalues : (xs.flatMap fun x => x.data.values) = (xs.flatMap Binding.shown).map Prod.snd := by
    rw [List.map_flatMap]
    apply List.flatMap_congr
    intro x _
    exact (Datum.map_snd_shown x.data x.key).symm
  rw [hvalues, slots_writtenPieces, List.map_map]
  apply List.map_congr_left
  intro e he
  rw [← Binding.filter_flatMap_entries hxs, ← hentries] at he
  have hget := Table.get?_eq_some_iff.mpr (List.mem_of_mem_filter he)
  rw [Function.comp_apply, valueOf, String.ofList_toList, hget, Option.getD_some]

end Written

/-- Every value that bindings bind is sent to the driver once, in the order of the text. -/
theorem bound_values_delivered (db : Database) (hdb : db ≠ .sqlite) (c : Configuration)
    (hdialect : c.dialect = db.dialect) (w : Workbench) (hfresh : w.builder = c.builder)
    (start : String) (hstart : ∀ ch ∈ start.toList, isIdle ch = true) (xs : List Binding)
    (hxs : ∀ x ∈ xs, x.Admissible) (hkeys : ((xs.flatMap Binding.entries).map Prod.fst).Nodup) :
    let pieces := writtenPieces db.dialect start xs
    let values := xs.flatMap fun x => x.data.values
    let marks := (List.range' 1 values.length).map (turnMark db.dialect.positionalStyle)
    (slots pieces).length = values.length ∧
    ∃ w', performAll (.startWith start :: xs.flatMap Binding.operations) w = .ok () w' ∧
      Operation.statement.run w' =
        .ok (.text (String.ofList (fill pieces ((slots pieces).map namedMark)))) w' ∧
      ∃ w'', Operation.render.run w' = .ok (.text (String.ofList (fill pieces marks))) w'' ∧
        Operation.args.run w'' = .ok (.values (some values)) w'' := by
  intro pieces values marks
  obtain ⟨dialect, source, sanitizer⟩ := c
  obtain rfl : dialect = db.dialect := hdialect
  let fresh : Builder := Configuration.builder ⟨db.dialect, source, sanitizer⟩
  let w₀ : Workbench := { w with builder := fresh.startWith start }
  have hbegin : Operation.run (.startWith start) w = .ok .itself w₀ := by
    change EStateM.Result.ok Reply.itself { w with builder := w.builder.startWith start } = _
    rw [hfresh]
  obtain ⟨w', hrun, hgains⟩ := Binding.performAll_flatMap hxs w₀
  have hdialect' : w'.builder.dialect = db.dialect := hgains.dialect_eq
  have htext : w'.builder.text.toList = spelled pieces := hgains.text_eq
  have hentries := Binding.entries_of_gains hgains rfl hkeys
  have hvalues : (slots pieces).map (valueOf w'.builder.params) = values :=
    map_valueOf_slots hxs hentries
  have hlength : (slots pieces).length = values.length := by rw [← hvalues, List.length_map]
  have hnames : (boundNames w'.builder.params).map String.toList = slots pieces :=
    boundNames_of_entries hxs hentries
  have hpositional := Database.positional hdb
  -- The bound names are the keys of the slots, so the scan finds the slots and nothing else.
  have hconvert := convert_of_reads htext (by rw [hnames]; exact reads_writtenPieces hstart hxs)
    (nodup_slots_writtenPieces hxs hkeys) hpositional.2
  rw [hvalues, hlength] at hconvert
  obtain ⟨w'', hrender, hbuilder⟩ := Operation.run_render w'
  have hrendering := @Builder.rendering_eq_convert w'.builder (by rw [hdialect', hpositional.1])
  rw [hdialect', hconvert] at hrendering
  refine ⟨hlength, w', ?_, ?_, w'', ?_, ?_⟩
  · rw [performAll_cons_ok hbegin, hrun]
  · rw [fill_map, ← spelled, ← htext, String.ofList_toList]
    rfl
  · rw [hrender, hrendering]
  · rw [Operation.run_args, hbuilder, Builder.render, hrendering]

theorem bound_values_delivered_of_quoted_column :
    let xs : List Binding :=
      [⟨" WHERE ", " <> ", "a\" = :ids_1", "ids", .list [.int 1, .int 2]⟩,
        ⟨" AND(", "=", "b", "ids_10", .scalar (.text "x")⟩]
    let c : Configuration := ⟨Database.postgreSql.dialect, none, none⟩
    let w : Workbench := { builder := c.builder, controller := none, serial := 0 }
    (∀ x ∈ xs, x.Admissible) ∧ ((xs.flatMap Binding.entries).map Prod.fst).Nodup ∧
      ∃ w', performAll (.startWith "DELETE FROM t" :: xs.flatMap Binding.operations) w =
          .ok () w' ∧
        Operation.statement.run w' = .ok (.text
          "DELETE FROM t WHERE \"a\"\" = :ids_1\" NOT IN (:ids_1,:ids_2) AND(\"b\"=:ids_10") w' ∧
        ∃ w'', Operation.render.run w' = .ok (.text
            "DELETE FROM t WHERE \"a\"\" = :ids_1\" NOT IN ($1,$2) AND(\"b\"=$3") w'' ∧
          Operation.args.run w'' = .ok (.values (some [.int 1, .int 2, .text "x"])) w'' := by
  intro xs c w
  have hxs : ∀ x ∈ xs, x.Admissible := by
    intro x hx
    simp only [xs, List.mem_cons, List.not_mem_nil, or_false] at hx
    rcases hx with rfl | rfl
    · exact ⟨List.all_eq_true.mp (by decide), by simp, List.all_eq_true.mp (by decide), by simp,
        by decide, by decide, List.all_eq_true.mp (by decide), by simp [Datum.IsBound]⟩
    · exact ⟨List.all_eq_true.mp (by decide), by simp, List.all_eq_true.mp (by decide), by simp,
        by decide, by decide, List.all_eq_true.mp (by decide), by simp [Datum.IsBound]⟩
  have hkeys : ((xs.flatMap Binding.entries).map Prod.fst).Nodup := by decide
  have h := (bound_values_delivered .postgreSql (by decide) c rfl w rfl "DELETE FROM t"
    (List.all_eq_true.mp (by decide)) xs hxs hkeys).2
  refine ⟨hxs, hkeys, ?_⟩
  have hnamed : String.ofList (fill (writtenPieces Database.postgreSql.dialect "DELETE FROM t" xs)
      ((slots (writtenPieces Database.postgreSql.dialect "DELETE FROM t" xs)).map namedMark)) =
        "DELETE FROM t WHERE \"a\"\" = :ids_1\" NOT IN (:ids_1,:ids_2) AND(\"b\"=:ids_10" := by
    decide +kernel
  have hnumbered : String.ofList
      (fill (writtenPieces Database.postgreSql.dialect "DELETE FROM t" xs)
        ((List.range' 1 (xs.flatMap fun x => x.data.values).length).map
          (turnMark Database.postgreSql.dialect.positionalStyle))) =
        "DELETE FROM t WHERE \"a\"\" = :ids_1\" NOT IN ($1,$2) AND(\"b\"=$3" := by
    decide +kernel
  rw [hnamed, hnumbered] at h
  exact h

end ParamSql
