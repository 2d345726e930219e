import ParamSql.Builder.Rendering
import ParamSql.Proofs.ElementKeys
import ParamSql.Proofs.Entries
import ParamSql.Proofs.SettledKeys

/-!
# Written placeholders

Writing a key for a column appends a placeholder for its scalar, one for each element of its list,
or a test for null and no placeholder. Which of these it is, and what the names in the text are
bound to afterwards, is the same for all operations that write a key.

Where an absent value is tested for null, only elements that are null themselves get a placeholder
that stands for null. The arguments by name have every placeholder that is bound, except that of a
key with an empty or absent list, which is written like a scalar.
-/

namespace ParamSql

def Operation.written? : Operation → Option (String × String)
  | appendParam key _ => some (key, key)
  | mustAdd key column | addIfDefined key column => some (column, key)
  | _ => none

namespace Builder

def elementKeys (key : String) (count : Nat) : List String :=
  (List.range count).map fun i => elementKey key (i + 1)

/-- What is appended for a column, the names of the placeholders in it, and how they are bound. -/
inductive Writes (column key : String) (b b' : Builder) : List String → Prop
  | nothing (mode : b.context.nullMode = true) (null : b'.param key = .null)
      (no_test : Operator.nullTest? b.context.operator = none) (text_eq : b'.text = b.text) :
      Writes column key b b' []
  | nullTest (mode : b.context.nullMode = true) (null : b'.param key = .null) {test : String}
      (test_eq : Operator.nullTest? b.context.operator = some test)
      (text_eq : b'.text = b.text ++ (b.context.glue ++ b.quote column ++ test)) :
      Writes column key b b' []
  | scalar
      (text_eq : b'.text = b.text ++
        (b.context.glue ++ b.quote column ++ b.context.operator ++ ":" ++ key))
      (elements_eq : key ∈ b'.params → b'.elements key = [])
      (not_null : b.context.nullMode = true → b'.param key ≠ .null) :
      Writes column key b b' [key]
  | elements {values : List Value}
      (text_eq : b'.text = b.text ++
        (b.context.glue ++ b.quote column ++ Operator.beforeList b.context.operator ++ "(" ++
          ",".intercalate ((elementKeys key values.length).map (":" ++ ·)) ++ ")"))
      (set_eq : b'.sets.get? key = some (some values)) (nonempty : values ≠ [])
      (bound : ∀ i v, values[i]? = some v → b'.binding (elementKey key (i + 1)) = (some v, none)) :
      Writes column key b b' (elementKeys key values.length)

variable {b b' : Builder} {column key : String} {names : List String}

/-- What is bound beforehand has no part in the text. -/
theorem Writes.of_bound {params : Table Value} {sets : Table (Option (List Value))}
    (h : Writes column key { b with params, sets } b' names) : Writes column key b b' names := by
  cases h with
  | nothing hmode hnull htest htext => exact .nothing hmode hnull htest htext
  | nullTest hmode hnull htest htext => exact .nullTest hmode hnull htest htext
  | scalar htext helements hnull => exact .scalar htext helements hnull
  | elements htext hset hne hbound => exact .elements htext hset hne hbound

theorem set_of_elements {values : List Value} (h : b.elements key = values) (hne : values ≠ []) :
    b.sets.get? key = some (some values) := by
  subst h
  unfold elements paramSet at *
  cases hset : b.sets.get? key with
  | none => simp [hset] at hne
  | some list => cases list <;> simp_all

theorem elementPlaceholders_eq_intercalate (key : String) (count : Nat) :
    elementPlaceholders key count = ",".intercalate ((elementKeys key count).map (":" ++ ·)) := by
  simp [elementPlaceholders, elementKeys, Function.comp_def]

theorem writes_writeScalar (h : key ∈ b.params → b.elements key = []) (column : String) :
    ∃ names, Writes column key b (b.writeScalar column key) names := by
  unfold writeScalar
  split
  · next htested =>
    obtain ⟨hnull, hmode⟩ : b.param key = .null ∧ b.context.nullMode = true := by
      simpa using htested
    split
    · next htest => exact ⟨_, .nullTest hmode hnull htest rfl⟩
    · next htest => exact ⟨_, .nothing hmode hnull htest rfl⟩
  · next htested =>
    refine ⟨_, .scalar rfl h ?_⟩
    intro hmode hnull
    exact htested (by simp [hmode, show b.param key = .null from hnull])

theorem writes_written {values : List Value} (hset : b.sets.get? key = some (some values))
    (hne : values ≠ []) (column : String) :
    Writes column key b (b.written column key) (elementKeys key values.length) := by
  obtain ⟨helement, hother⟩ := bindsElements_written hset column
  have hkey := hother key fun i _ => (elementKey_ne key (1 + i)).symm
  have hwritten : b.written column key = b.writeElements column key values :=
    written_of_mem_sets hset hne
  refine .elements ?_ ((congrArg Prod.snd hkey).trans hset) hne ?_
  · obtain ⟨htext, hdialect, hcontext, -⟩ := b.bindElements_eq key 1 values
    rw [hwritten, writeElements, write, htext, elementPlaceholders_eq_intercalate]
  · intro i v hv
    rw [Nat.add_comm]
    exact helement i v hv

theorem writes_afterWriting (b : Builder) (column key : String) :
    ∃ names, Writes column key b (b.afterWriting column key) names := by
  unfold afterWriting
  split
  · next hbound =>
    by_cases hne : b.elements key = []
    · rw [written_of_elements_eq_nil hne]
      exact writes_writeScalar (fun _ => hne) column
    · exact ⟨_, writes_written (set_of_elements rfl hne) hne column⟩
  · next hbound => exact writes_writeScalar (fun h => absurd h hbound) column

theorem writes_appendParam {value : Value} (h : appendParam key value b = .ok () b') :
    ∃ names, Writes key key b b' names := by
  rw [appendParam_eq] at h
  cases h
  obtain ⟨names, hwrites⟩ := (b.setParam key value).writes_afterWriting key key
  exact ⟨names, hwrites.of_bound⟩

theorem writes_mustAdd (h : mustAdd key column b = .ok () b') :
    ∃ names, Writes column key b b' names := by
  obtain ⟨_, b₁, hpull, hwrite⟩ := bind_eq_ok h
  have hpulled := pulled_of_pull hpull
  rw [writeParam_of_settled hpulled.settles] at hwrite
  cases hwrite
  obtain ⟨names, hwrites⟩ := b₁.writes_afterWriting column key
  cases hpulled with
  | settled => exact ⟨names, hwrites⟩
  | scalar value => exact ⟨names, hwrites.of_bound⟩
  | list values => exact ⟨names, hwrites.of_bound⟩

/-- No data source, or none that defines the key. -/
def Lacks (b : Builder) (key : String) : Prop :=
  ∀ source, b.dataSource = some source → source.value.isDefined key = .ok false

theorem lacks_of_ask (h : ask (·.isDefined key) false b = .ok false b') : b.Lacks key := by
  intro source hsource
  simp only [ask, get_bind, hsource] at h
  cases hdefined : source.value.isDefined key with
  | error e =>
    rw [hdefined] at h
    cases h
  | ok isDefined =>
    rw [hdefined] at h
    cases h
    rfl

theorem writes_addIfDefined (h : addIfDefined key column b = .ok () b') :
    (b.Lacks key ∧ b' = b) ∨ ∃ names, Writes column key b b' names := by
  obtain ⟨isDefined, b₁, hasked, h⟩ := bind_eq_ok h
  obtain rfl := (looks_ask _ _).of_ok hasked
  cases isDefined with
  | true => exact Or.inr (writes_mustAdd h)
  | false =>
    cases h
    exact Or.inl ⟨lacks_of_ask hasked, rfl⟩

end Builder

theorem Workbench.change_of_attempt {change : Build Unit} {w w' : Workbench} {reply : Reply}
    (h : attempt change w = .ok reply w') : change w.builder = .ok () w'.builder := by
  obtain ⟨_, w₁, hbuild, hreply⟩ := bind_eq_ok h
  cases hreply
  unfold build at hbuild
  cases hchange : change w.builder with
  | ok _ b =>
    rw [hchange] at hbuild
    cases hbuild
    rfl
  | error e b =>
    rw [hchange] at hbuild
    cases hbuild

open Builder

/-- The operation is for keys that the data source defines, and passes over this one. -/
def Operation.PassesOver (operation : Operation) (column key : String) (b : Builder) : Prop :=
  operation = .addIfDefined key column ∧ b.Lacks key

theorem Operation.writes_of_run {operation : Operation} {column key : String}
    (hwritten : operation.written? = some (column, key)) {w w' : Workbench} {reply : Reply}
    (hrun : operation.run w = .ok reply w') :
    (operation.PassesOver column key w.builder ∧ w'.builder = w.builder) ∨
      ∃ names, Writes column key w.builder w'.builder names := by
  cases operation with
  | appendParam key value =>
    cases hwritten
    exact Or.inr (writes_appendParam (Workbench.change_of_attempt hrun))
  | mustAdd key column =>
    cases hwritten
    exact Or.inr (writes_mustAdd (Workbench.change_of_attempt hrun))
  | addIfDefined key column =>
    cases hwritten
    rcases writes_addIfDefined (Workbench.change_of_attempt hrun) with ⟨hlacks, hsame⟩ | hwrites
    · exact Or.inl ⟨⟨rfl, hlacks⟩, hsame⟩
    · exact Or.inr hwrites
  | _ => cases hwritten

namespace Builder

variable {b b' : Builder} {column key name : String} {names : List String}

theorem mem_elementKeys {count : Nat} :
    name ∈ elementKeys key count ↔ ∃ i < count, name = elementKey key (i + 1) := by
  simp [elementKeys, eq_comm]

/-- A name is that of the key without elements, or that of one of its elements. -/
theorem Writes.name_cases (h : Writes column key b b' names) (hname : name ∈ names) :
    (name = key ∧ (key ∈ b'.params → b'.elements key = []) ∧
        (b.context.nullMode = true → b'.param key ≠ .null)) ∨
      ∃ i v, name = elementKey key (i + 1) ∧ (b'.elements key)[i]? = some v ∧
        b'.binding name = (some v, none) := by
  cases h with
  | nothing => cases hname
  | nullTest => cases hname
  | scalar _ helements hnull => exact Or.inl ⟨List.mem_singleton.mp hname, helements, hnull⟩
  | @elements values _ hset _ hbound =>
    obtain ⟨i, hi, rfl⟩ := mem_elementKeys.mp hname
    have hvalue : values[i]? = some values[i] := List.getElem?_eq_getElem hi
    refine Or.inr ⟨i, values[i], rfl, ?_, hbound i _ hvalue⟩
    rw [elements_of_set hset, hvalue]

/-- In null mode a written name is bound, and rendering knows it unless it is that of an element
which is null. -/
theorem Writes.bound_in_nullMode (h : Writes column key b b' names)
    (hmode : b.context.nullMode = true) (hname : name ∈ names) :
    name ∈ b'.params ∧
      (name ∈ Placeholder.boundNames b'.params ↔
        ∀ i, name = elementKey key (i + 1) → (b'.elements key)[i]? ≠ some .null) := by
  rcases h.name_cases hname with ⟨rfl, -, hpresent⟩ | ⟨i, v, rfl, hvalue, hbound⟩
  · have hvalue : ∃ v, b'.params.get? name = some v ∧ v ≠ .null := by
      have hparam := hpresent hmode
      unfold param at hparam
      cases hget : b'.params.get? name with
      | none => simp [hget] at hparam
      | some v => exact ⟨v, rfl, by simpa [hget] using hparam⟩
    obtain ⟨v, hget, hne⟩ := hvalue
    refine ⟨Table.mem_of_get? hget,
      iff_of_true (Placeholder.mem_boundNames.mpr ⟨v, hget, hne⟩) ?_⟩
    exact fun i hi => absurd hi.symm (elementKey_ne name (i + 1))
  · have hget : b'.params.get? (elementKey key (i + 1)) = some v := congrArg Prod.fst hbound
    refine ⟨Table.mem_of_get? hget, ?_⟩
    rw [Placeholder.mem_boundNames]
    constructor
    · rintro ⟨u, hu, hne⟩ j hj
      obtain rfl : i = j := by simpa [elementKey_inj] using hj
      simp_all
    · intro helements
      exact ⟨v, hget, fun hv => helements i rfl (hv ▸ hvalue)⟩

theorem get?_namedArgs (b : Builder) (name : String) :
    b.namedArgs.get? name = if name ∈ b.sets then none else b.params.get? name := by
  have hlookup := Table.lookup_filter_key b.params.entries (fun key => decide (key ∉ b.sets)) name
  refine hlookup.trans ?_
  by_cases h : name ∈ b.sets <;> simp [h, Table.get?]

/-- A written name that is bound is among the named arguments, unless it is that of a key with an
empty or absent list. -/
theorem Writes.named (h : Writes column key b b' names) (hname : name ∈ names) {v : Value}
    (hv : b'.params.get? name = some v) :
    (b'.namedArgs.get? name = some v ↔ name ∉ b'.sets) ∧
      (name ∈ b'.sets →
        name = key ∧ b'.elements key = [] ∧ (b.context.nullMode = true → v ≠ .null)) := by
  refine ⟨by simp [get?_namedArgs, hv], ?_⟩
  intro hset
  rcases h.name_cases hname with ⟨rfl, helements, hpresent⟩ | ⟨i, u, rfl, -, hbound⟩
  · refine ⟨rfl, helements (Table.mem_of_get? hv), ?_⟩
    simpa [param, hv] using hpresent
  · have hnone : b'.sets.get? (elementKey key (i + 1)) = none := congrArg Prod.snd hbound
    exact absurd hset (Table.get?_eq_none.mp hnone)

end Builder

/-- Where an absent value is tested for null, every placeholder that an operation writes is bound.
Rendering finds them all but those of elements that are null themselves. -/
theorem placeholders_in_null_mode {operation : Operation} {column key : String}
    (hwritten : operation.written? = some (column, key)) {w w' : Workbench} {reply : Reply}
    (hmode : w.builder.context.nullMode = true) (hrun : operation.run w = .ok reply w') :
    (operation.PassesOver column key w.builder ∧ w'.builder = w.builder) ∨
      ∃ names, Writes column key w.builder w'.builder names ∧
        ∀ name ∈ names, name ∈ w'.builder.params ∧
          (name ∈ Placeholder.boundNames w'.builder.params ↔
            ∀ i, name = elementKey key (i + 1) →
              (w'.builder.elements key)[i]? ≠ some .null) := by
  rcases Operation.writes_of_run hwritten hrun with hpassed | ⟨names, hwrites⟩
  · exact Or.inl hpassed
  · exact Or.inr ⟨names, hwrites, fun name hname => hwrites.bound_in_nullMode hmode hname⟩

theorem placeholders_in_null_mode_of_pulled_list :
    let source : DataSource := .ofTable (.ofList [("id", .collection .list [.int 7, .null])])
    let b : Builder :=
      { dialect := Database.mySql.dialect, dataSource := some ⟨0, source⟩, text := "SELECT * FROM t"
        context := { glue := " WHERE ", operator := " <> ", nullMode := true } }
    let w : Workbench := { builder := b, controller := none, serial := 1 }
    ∃ w' names, Operation.run (.addIfDefined "id" "i d") w = .ok .itself w' ∧
      w'.builder.text = "SELECT * FROM t WHERE \x60i d\x60 NOT IN (:id_1,:id_2)" ∧
      Writes "i d" "id" b w'.builder names ∧ ∀ name ∈ names, name ∈ w'.builder.params := by
  intro source b w
  obtain ⟨w', hrun⟩ : ∃ w', Operation.run (.addIfDefined "id" "i d") w = .ok .itself w' :=
    ⟨_, rfl⟩
  rcases placeholders_in_null_mode (w := w) rfl rfl hrun with
    ⟨⟨-, hlacks⟩, -⟩ | ⟨names, hwrites, hbound⟩
  · cases hlacks _ rfl
  · cases hrun
    exact ⟨_, names, rfl, by decide +kernel, hwrites, fun name hname => (hbound name hname).1⟩

/-- An element that is null is written as a placeholder all the same, and rendering leaves it in the
text. -/
theorem null_element_left_by_rendering :
    let w : Workbench :=
      { builder := { dialect := Database.postgreSql.dialect }, controller := none, serial := 1 }
    let operations : List Operation :=
      [.startWith "SELECT * FROM t", .startWhere, .setParamSet "id" (some (.ok [.null]))]
    ∃ w₁ w₂, performAll operations w = .ok () w₁ ∧ w₁.builder.context.nullMode = true ∧
      Operation.run (.mustAdd "id" "id") w₁ = .ok .itself w₂ ∧
      Writes "id" "id" w₁.builder w₂.builder ["id_1"] ∧
      w₂.builder.params.get? "id_1" = some .null ∧
      w₂.builder.rendering.text = "SELECT * FROM t WHERE \"id\" IN (:id_1)" ∧
      w₂.builder.rendering.args.length = 0 := by
  intro w operations
  refine ⟨_, _, rfl, rfl, rfl, ?_, rfl, ?_, ?_⟩
  · exact writes_written rfl (List.cons_ne_nil .null []) "id"
  · decide +kernel
  · decide +kernel

/-- Every placeholder that an operation writes and that is bound is among the arguments by name,
with its value. The only exception is the placeholder of a key with an empty or absent list, which
is written outside null mode, and inside when a value has been put past the tables' bookkeeping. -/
theorem named_arguments_of_placeholders {operation : Operation} {column key : String}
    (hwritten : operation.written? = some (column, key)) {w w' : Workbench} {reply : Reply}
    (hrun : operation.run w = .ok reply w') :
    (operation.PassesOver column key w.builder ∧ w'.builder = w.builder) ∨
      ∃ names, Writes column key w.builder w'.builder names ∧
        ∀ name ∈ names, ∀ v, w'.builder.params.get? name = some v →
          (w'.builder.namedArgs.get? name = some v ↔ name ∉ w'.builder.sets) ∧
            (name ∈ w'.builder.sets → name = key ∧ w'.builder.elements key = [] ∧
              (w.builder.context.nullMode = true → v ≠ .null)) := by
  rcases Operation.writes_of_run hwritten hrun with hpassed | ⟨names, hwrites⟩
  · exact Or.inl hpassed
  · exact Or.inr ⟨names, hwrites, fun name hname v hv => hwrites.named hname hv⟩

theorem named_arguments_of_placeholders_of_list :
    let b : Builder :=
      { dialect := Database.sqlite.dialect, text := "DELETE FROM t WHERE"
        params := .ofList [("id", .null)], sets := .ofList [("id", some [.int 7, .null])] }
    let w : Workbench := { builder := b, controller := none, serial := 1 }
    ∃ w' names, Operation.run (.mustAdd "id" "id") w = .ok .itself w' ∧
      w'.builder.text = "DELETE FROM t WHERE \"id\" IN (:id_1,:id_2)" ∧
      Writes "id" "id" b w'.builder names ∧
      ∀ name ∈ names, ∀ v, w'.builder.params.get? name = some v →
        w'.builder.namedArgs.get? name = some v := by
  intro b w
  obtain ⟨w', hrun⟩ : ∃ w', Operation.run (.mustAdd "id" "id") w = .ok .itself w' := ⟨_, rfl⟩
  rcases named_arguments_of_placeholders (w := w) rfl hrun with
    ⟨⟨hconditional, -⟩, -⟩ | ⟨names, hwrites, hnamed⟩
  · cases hconditional
  · cases hrun
    refine ⟨_, names, rfl, by decide +kernel, hwrites, ?_⟩
    intro name hname v hv
    obtain ⟨hnamed, hset⟩ := hnamed name hname v hv
    refine hnamed.mpr fun hmem => ?_
    obtain ⟨-, helements, -⟩ := hset hmem
    cases helements

/-- An empty list is written like a scalar, and yet it is no argument. -/
theorem empty_list_without_argument :
    let w : Workbench :=
      { builder := { dialect := Database.sqlite.dialect }, controller := none, serial := 1 }
    let operations : List Operation :=
      [.startWith "UPDATE t SET", .setParamSet "tags" (some (.ok []))]
    ∃ w₁ w₂, performAll operations w = .ok () w₁ ∧
      w₁.builder.dialect.supportsNamedParameters = true ∧
      Operation.run (.mustAdd "tags" "tags") w₁ = .ok .itself w₂ ∧
      w₂.builder.text = "UPDATE t SET \"tags\"=:tags" ∧
      Writes "tags" "tags" w₁.builder w₂.builder ["tags"] ∧
      w₂.builder.params.get? "tags" = some .null ∧ w₂.builder.namedArgs.get? "tags" = none := by
  intro w operations
  refine ⟨_, _, rfl, rfl, rfl, by decide +kernel, ?_, rfl, rfl⟩
  exact .scalar (by decide +kernel) (fun _ => rfl) (fun h => absurd h (by decide))

end ParamSql
