import ParamSql.Configuration
import ParamSql.Proofs.Pieces

/-!
# Runs of bindings

A statement is begun with a text and continued by bindings, each with its own glue and operator, a
column, a key and the data for the key. Whatever the columns are called, every value bound so is
sent to the driver exactly once and in the order of the text.
-/

namespace ParamSql

open Placeholder

inductive Datum where
  | scalar (value : Value)
  | list (values : List Value)

/-- A binding with all that is set for it beforehand. -/
structure Binding where
  glue : String
  operator : String
  column : String
  key : String
  data : Datum

def performAll : List Operation → Work Unit
  | [] => pure ()
  | operation :: rest => do
    let _ ← operation.run
    performAll rest

namespace Datum

/-- Data without null among the values, of which there is at least one. -/
def IsBound : Datum → Prop
  | scalar value => value ≠ .null
  | list values => values ≠ [] ∧ .null ∉ values

def bind (key : String) : Datum → Operation
  | scalar value => .setParam key value
  | list values => .setParamSet key (some (.ok values))

def assign (key : String) (b : Builder) : Datum → Builder
  | scalar value => b.setParam key value
  | list values => b.setParamSet key (some values)

/-- The elements of a list under the keys they are bound to, the first under the given number. -/
def numbered (key : String) : Nat → List Value → List (String × Value)
  | _, [] => []
  | i, v :: rest => (Builder.elementKey key i, v) :: numbered key (i + 1) rest

def shown (key : String) : Datum → List (String × Value)
  | scalar value => [(key, value)]
  | list values => numbered key 1 values

def entries (key : String) : Datum → List (String × Value)
  | scalar value => [(key, value)]
  | list values => (key, .null) :: numbered key 1 values

/-- What is written between the column and the first placeholder. -/
def opening (operator : String) : Datum → String
  | scalar _ => operator
  | list _ => Operator.beforeList operator ++ "("

/-- What is written after the last placeholder. -/
def closing : Datum → String
  | scalar _ => ""
  | list _ => ")"

end Datum

namespace Binding

variable (x : Binding)

def operations : List Operation :=
  [.setGlue x.glue, .setOperator x.operator, x.data.bind x.key, .mustAdd x.key x.column]

def shown : List (String × Value) := x.data.shown x.key

def entries : List (String × Value) := x.data.entries x.key

def pieces (d : Dialect) : List Piece :=
  [.verbatim x.glue.toList, .verbatim (d.quoteChars x.column.toList),
      .verbatim (x.data.opening x.operator).toList] ++
    ((x.shown.map fun e => Piece.slot e.1.toList).intersperse (.verbatim [',']) ++
      [.verbatim x.data.closing.toList])

def prepare (b : Builder) : Builder :=
  x.data.assign x.key ((b.setGlue x.glue).setOperator x.operator)

def isGlueChar (c : Char) : Bool := c.isAlpha || [' ', ',', '(', ')', '=', '<', '>'].contains c

/-- Glue and operator that touch neither the key before nor the key after them, a column that can be
quoted, a key that is a word, and data to be sent. -/
structure Admissible : Prop where
  glue_chars : ∀ c ∈ x.glue.toList, isGlueChar c = true
  glue_head : ∀ c ∈ x.glue.toList.head?, c.isAlpha = false
  operator_chars : ∀ c ∈ x.operator.toList, isGlueChar c = true
  operator_last : ∀ c ∈ x.operator.toList.getLast?, c.isAlpha = false
  column_chars : '\\' ∉ x.column.toList
  key_ne : x.key ≠ ""
  key_chars : ∀ c ∈ x.key.toList, (c.isAlphanum || c == '_') = true
  data_bound : x.data.IsBound

end Binding

/-- What a builder gains by a run: pieces of text, and bindings. -/
structure Gains (b b' : Builder) (pieces : List Piece) (entries : List (String × Value)) :
    Prop where
  text_eq : b'.text.toList = b.text.toList ++ spelled pieces
  params_eq : b'.params = b.params.insertAll entries
  dialect_eq : b'.dialect = b.dialect

namespace Gains

theorem refl (b : Builder) : Gains b b [] [] := ⟨(List.append_nil _).symm, rfl, rfl⟩

theorem trans {b b' b'' : Builder} {ps qs : List Piece} {es fs : List (String × Value)}
    (first : Gains b b' ps es) (last : Gains b' b'' qs fs) :
    Gains b b'' (ps ++ qs) (es ++ fs) := by
  constructor
  · rw [last.text_eq, first.text_eq, spelled_append, List.append_assoc]
  · rw [last.params_eq, first.params_eq, Table.insertAll, Table.insertAll, Table.insertAll,
      List.foldl_append]
  · rw [last.dialect_eq, first.dialect_eq]

end Gains

theorem performAll_cons_ok {operation : Operation} {reply : Reply} {w w' : Workbench}
    (h : operation.run w = .ok reply w') (rest : List Operation) :
    performAll (operation :: rest) w = performAll rest w' := by
  change (operation.run >>= fun _ => performAll rest) w = performAll rest w'
  simp only [bind, EStateM.bind, h]

theorem performAll_append {xs : List Operation} (ys : List Operation) {w w' : Workbench}
    (h : performAll xs w = .ok () w') : performAll (xs ++ ys) w = performAll ys w' := by
  induction xs generalizing w with
  | nil =>
    cases h
    rfl
  | cons operation xs ih =>
    cases hrun : operation.run w with
    | ok reply w₁ =>
      rw [performAll_cons_ok hrun] at h
      rw [List.cons_append, performAll_cons_ok hrun, ih h]
    | error e w₁ =>
      change (operation.run >>= fun _ => performAll xs) w = .ok () w' at h
      simp [bind, EStateM.bind, hrun] at h

namespace Builder

theorem bindElements_eq (b : Builder) (key : String) (i : Nat) (values : List Value) :
    (b.bindElements key i values).text = b.text ∧
      (b.bindElements key i values).dialect = b.dialect ∧
      (b.bindElements key i values).context = b.context ∧
      (b.bindElements key i values).params = b.params.insertAll (Datum.numbered key i values) := by
  induction values generalizing b i with
  | nil => exact ⟨rfl, rfl, rfl, rfl⟩
  | cons v values ih =>
    obtain ⟨htext, hdialect, hcontext, hparams⟩ := ih (b.setParam (elementKey key i) v) (i + 1)
    exact ⟨htext, hdialect, hcontext, hparams⟩

def written (b : Builder) (column key : String) : Builder :=
  if decide (key ∈ b.sets) && !(b.elements key).isEmpty then
    b.writeElements column key (b.elements key)
  else b.writeScalar column key

theorem written_of_not_mem_sets {b : Builder} {column key : String} (hset : key ∉ b.sets)
    (hnull : b.param key ≠ .null) :
    b.written column key =
      b.write (b.context.glue ++ b.quote column ++ b.context.operator ++ ":" ++ key) := by
  have hisNull : (b.param key).isNull = false := by
    cases h : (b.param key).isNull with
    | false => rfl
    | true => exact absurd ((Value.isNull_iff _).mp h) hnull
  rw [written, decide_eq_false hset, Bool.false_and, if_neg Bool.false_ne_true, writeScalar,
    hisNull, Bool.false_and, if_neg Bool.false_ne_true]

theorem elements_of_set {b : Builder} {key : String} {values : List Value}
    (h : b.sets.get? key = some (some values)) : b.elements key = values := by
  simp [elements, paramSet, h]

theorem written_of_mem_sets {b : Builder} {column key : String} {values : List Value}
    (hset : b.sets.get? key = some (some values)) (hne : values ≠ []) :
    b.written column key = b.writeElements column key values := by
  have hmem : key ∈ b.sets := Table.mem_of_get? hset
  simp [written, elements_of_set hset, hmem, hne]

/-- A key without elements is written like a scalar, be it in the sets or not. -/
theorem written_of_elements_eq_nil {b : Builder} {key : String} (h : b.elements key = [])
    (column : String) : b.written column key = b.writeScalar column key := by
  simp [written, h]

theorem isParamASet_of_bound {b : Builder} {key : String} (h : key ∈ b.params) :
    isParamASet key b = .ok (decide (key ∈ b.sets)) b := by
  change (if key ∈ b.params then (pure (decide (key ∈ b.sets)) : Build Bool) else _) b = _
  rw [if_pos h]
  rfl

theorem writeParam_of_bound {b : Builder} {key : String} (h : key ∈ b.params) (column : String) :
    writeParam column key b = .ok () (b.written column key) := by
  simp only [writeParam, bind, EStateM.bind, isParamASet_of_bound h]
  rfl

/-- Nobody is asked about a bound key, nor about any key when there is no data source. -/
theorem pull_eq_self {b : Builder} {key : String} (h : key ∈ b.params ∨ b.dataSource = none) :
    pull key b = .ok () b := by
  have hcond : (b.dataSource.isNone || decide (key ∈ b.params)) = true := by
    simpa [or_comm] using h
  change (if (b.dataSource.isNone || decide (key ∈ b.params)) = true then
    (pure () : Build Unit) else _) b = _
  rw [if_pos hcond]
  rfl

theorem mustAdd_of_mem {b : Builder} {key : String} (h : key ∈ b.params) (column : String) :
    mustAdd key column b = .ok () (b.written column key) := by
  simp only [mustAdd, bind, EStateM.bind, pull_eq_self (.inl h), writeParam_of_bound h]

end Builder

/-- An operator that is not spelled with an exclamation mark is in standard spelling. -/
theorem Operator.normalize_of_not_mem {operator : String} (h : '!' ∉ operator.toList) :
    Operator.normalize operator = operator := by
  rw [Operator.normalize, Text.replaceAll_of_not_mem _ _ h, String.ofList_toList]

theorem Workbench.attempt_of_ok {change : Build Unit} {w : Workbench} {b : Builder}
    (h : change w.builder = .ok () b) :
    Workbench.attempt change w = .ok .itself { w with builder := b } := by
  simp only [Workbench.attempt, bind, EStateM.bind, Workbench.build, h]
  rfl

theorem run_mustAdd_of_mem {w : Workbench} {key : String} (h : key ∈ w.builder.params)
    (column : String) :
    Operation.run (.mustAdd key column) w =
      .ok .itself { w with builder := w.builder.written column key } :=
  Workbench.attempt_of_ok (Builder.mustAdd_of_mem h column)

theorem spelled_slots (keys : List String) :
    spelled ((keys.map fun key => Piece.slot key.toList).intersperse (.verbatim [','])) =
      (",".intercalate (keys.map fun key => ":" ++ key)).toList := by
  induction keys with
  | nil => rfl
  | cons key keys ih =>
    cases keys with
    | nil => simp [spelled, Piece.write, namedMark]
    | cons next keys =>
      rw [List.map_cons, List.map_cons] at ih
      rw [List.map_cons, List.map_cons, List.intersperse_cons_cons, spelled_cons, spelled_cons, ih]
      simp [String.intercalate_cons_cons, Piece.write, namedMark]

theorem elementPlaceholders_eq (key : String) (values : List Value) :
    Builder.elementPlaceholders key values.length =
      ",".intercalate (((Datum.numbered key 1 values).map Prod.fst).map fun k => ":" ++ k) := by
  have hkeys (i : Nat) : (Datum.numbered key (i + 1) values).map Prod.fst =
      (List.range' i values.length).map fun j => Builder.elementKey key (j + 1) := by
    induction values generalizing i with
    | nil => rfl
    | cons v values ih =>
      rw [Datum.numbered, List.map_cons, ih, List.length_cons, List.range'_succ, List.map_cons]
  rw [Builder.elementPlaceholders, hkeys 0, List.map_map, List.range_eq_range']
  rfl

namespace Binding

variable {x : Binding}

theorem Admissible.normalize_operator (hx : x.Admissible) :
    Operator.normalize x.operator = x.operator := by
  apply Operator.normalize_of_not_mem
  intro hmem
  have h := hx.operator_chars _ hmem
  simp [isGlueChar] at h

theorem spelled_pieces (x : Binding) (d : Dialect) :
    spelled (x.pieces d) = (x.glue ++ d.quote x.column ++ x.data.opening x.operator ++
      ",".intercalate ((x.shown.map Prod.fst).map fun key => ":" ++ key) ++
        x.data.closing).toList := by
  have hslots := spelled_slots (x.shown.map Prod.fst)
  rw [List.map_map] at hslots
  simp only [pieces, spelled_append, spelled_cons, spelled_nil, Piece.write, Dialect.quote,
    String.toList_append, String.toList_ofList, List.append_assoc, List.append_nil]
  rw [← hslots]
  rfl

theorem key_mem_prepare (x : Binding) (b : Builder) : x.key ∈ (x.prepare b).params := by
  unfold prepare Datum.assign
  split
  · exact Table.mem_insert_self _ _ _
  · exact Table.mem_insert_self _ _ _

theorem text_prepare (x : Binding) (b : Builder) : (x.prepare b).text = b.text := by
  unfold prepare Datum.assign
  split <;> rfl

theorem dialect_prepare (x : Binding) (b : Builder) : (x.prepare b).dialect = b.dialect := by
  unfold prepare Datum.assign
  split <;> rfl

theorem context_prepare (hx : x.Admissible) (b : Builder) :
    (x.prepare b).context = ⟨x.glue, x.operator, b.context.nullMode⟩ := by
  rw [← hx.normalize_operator]
  unfold prepare Datum.assign
  split <;> rfl

/-- The written binding adds its pieces to the text, and its entries are bound. -/
theorem gains_written (hx : x.Admissible) (b : Builder) :
    Gains b ((x.prepare b).written x.column x.key) (x.pieces b.dialect) x.entries := by
  -- The key is bound and not null, or it has elements, so the mode plays no part.
  have hcontext := context_prepare hx b
  have hbound := hx.data_bound
  cases hdata : x.data with
  | scalar v =>
    rw [hdata] at hbound
    have hprepare : x.prepare b = ((b.setGlue x.glue).setOperator x.operator).setParam x.key v := by
      rw [prepare, hdata]
      rfl
    have hparam : (x.prepare b).param x.key = v := by
      rw [hprepare, Builder.param, Builder.setParam, Table.get?_insert_self]
      rfl
    have hset : x.key ∉ (x.prepare b).sets := by
      rw [hprepare]
      simp [Builder.setParam]
    rw [Builder.written_of_not_mem_sets hset (by rwa [hparam]), hcontext]
    constructor
    · rw [spelled_pieces, ← String.toList_append, Builder.write, text_prepare, Builder.quote,
        dialect_prepare]
      simp [hdata, shown, Datum.shown, Datum.opening, Datum.closing, String.append_assoc]
    · rw [hprepare, entries, hdata]
      rfl
    · exact dialect_prepare x b
  | list vs =>
    rw [hdata] at hbound
    have hprepare : x.prepare b =
        ((b.setGlue x.glue).setOperator x.operator).setParamSet x.key (some vs) := by
      rw [prepare, hdata]
      rfl
    have hset : (x.prepare b).sets.get? x.key = some (some vs) := by
      rw [hprepare, Builder.setParamSet, Table.get?_insert_self]
    obtain ⟨htext, hdialect, _, hparams⟩ := (x.prepare b).bindElements_eq x.key 1 vs
    rw [Builder.written_of_mem_sets hset hbound.1, Builder.writeElements, hcontext,
      elementPlaceholders_eq]
    constructor
    · rw [spelled_pieces, ← String.toList_append, Builder.write, htext, text_prepare, Builder.quote,
        dialect_prepare]
      simp [hdata, shown, Datum.shown, Datum.opening, Datum.closing, String.append_assoc]
    · change ((x.prepare b).bindElements x.key 1 vs).params = _
      rw [hparams, hprepare, entries, hdata]
      rfl
    · exact hdialect.trans (dialect_prepare x b)

theorem run_bind (data : Datum) (key : String) (w : Workbench) :
    (data.bind key).run w = .ok .itself { w with builder := data.assign key w.builder } := by
  cases data with
  | scalar v => rfl
  | list vs => exact Workbench.attempt_of_ok (Builder.takeSet_of_ok rfl w.builder)

theorem performAll_operations (hx : x.Admissible) (w : Workbench) :
    ∃ w', performAll x.operations w = .ok () w' ∧
      Gains w.builder w'.builder (x.pieces w.builder.dialect) x.entries := by
  let b := (w.builder.setGlue x.glue).setOperator x.operator
  have hglue : Operation.run (.setGlue x.glue) w =
      .ok .itself { w with builder := w.builder.setGlue x.glue } := rfl
  have hoperator : Operation.run (.setOperator x.operator)
      { w with builder := w.builder.setGlue x.glue } = .ok .itself { w with builder := b } := rfl
  have hbind := run_bind x.data x.key { w with builder := b }
  have hmust := @run_mustAdd_of_mem { w with builder := x.prepare w.builder } x.key
    (key_mem_prepare x w.builder) x.column
  refine ⟨{ w with builder := (x.prepare w.builder).written x.column x.key }, ?_,
    gains_written hx w.builder⟩
  rw [operations, performAll_cons_ok hglue, performAll_cons_ok hoperator, performAll_cons_ok hbind]
  exact performAll_cons_ok hmust []

theorem performAll_flatMap {xs : List Binding} (hxs : ∀ x ∈ xs, x.Admissible) (w : Workbench) :
    ∃ w', performAll (xs.flatMap operations) w = .ok () w' ∧
      Gains w.builder w'.builder (xs.flatMap fun x => x.pieces w.builder.dialect)
        (xs.flatMap entries) := by
  induction xs generalizing w with
  | nil => exact ⟨w, rfl, Gains.refl _⟩
  | cons x xs ih =>
    obtain ⟨w₁, hrun, hgains⟩ := performAll_operations (hxs x List.mem_cons_self) w
    obtain ⟨w₂, hrest, hmore⟩ := ih (fun y hy => hxs y (List.mem_cons_of_mem _ hy)) w₁
    rw [hgains.dialect_eq] at hmore
    refine ⟨w₂, ?_, hgains.trans hmore⟩
    rw [List.flatMap_cons, performAll_append _ hrun, hrest]

end Binding
end ParamSql
