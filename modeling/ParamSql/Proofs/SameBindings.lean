import ParamSql.Proofs.InStep
import ParamSql.Proofs.PositionalRendering

/-!
# What depends on bindings

What a table of parameters does to a statement depends on which names are bound to which values.
The order in which they were bound does not show, and neither do names bound to null or the empty
name: at every colon the longest name that fits is unique, and arguments follow the text.
-/

namespace ParamSql
namespace Placeholder

/-- The two tables bind the same names to the same values, nulls and the empty name apart. -/
def BindAlike (parameters parameters' : Table Value) : Prop :=
  ∀ key ≠ "", ∀ value ≠ .null,
    parameters.get? key = some value ↔ parameters'.get? key = some value

section Congruence

variable {parameters parameters' : Table Value}

theorem lexemes_congr {sought sought' : Sought}
    (h : ∀ text, sought'.nameLength? text = sought.nameLength? text) (before : Option Char)
    (text : List Char) : lexemes sought' before text = lexemes sought before text := by
  have hnext (before : Option Char) (first : Char) (rest : List Char) :
      Lexeme.next sought' before first rest = Lexeme.next sought before first rest := by
    rw [Lexeme.next, Lexeme.next, h]
  fun_induction lexemes sought before text with
  | case1 => rw [lexemes_nil]
  | case2 before first rest l ih => rw [lexemes_cons, hnext, ih]

theorem BindAlike.mem_boundNames_iff (h : BindAlike parameters parameters') {name : String}
    (hname : name ≠ "") : name ∈ boundNames parameters ↔ name ∈ boundNames parameters' := by
  rw [mem_boundNames, mem_boundNames]
  refine exists_congr fun v => and_congr_left fun hv => h name hname v hv

theorem BindAlike.boundLexemes_eq (h : BindAlike parameters parameters') (sql : String) :
    boundLexemes sql parameters' = boundLexemes sql parameters := by
  have hmem (names : List String) (name : List Char) :
      name ∈ names.map String.toList ↔ String.ofList name ∈ names := by
    constructor
    · intro hname
      obtain ⟨n, hn, rfl⟩ := List.mem_map.mp hname
      rwa [String.ofList_toList]
    · intro hname
      exact List.mem_map.mpr ⟨_, hname, String.toList_ofList⟩
  refine lexemes_congr (fun text => Sought.nameLength?_congr fun name => ?_) _ _
  refine and_congr_left fun hfits => ?_
  -- A name that fits is not empty.
  have hne : String.ofList name ≠ "" := by
    intro hempty
    exact (fits_iff.mp hfits).1 (by simpa using congrArg String.toList hempty)
  rw [hmem, hmem]
  exact (h.mem_boundNames_iff hne).symm

theorem BindAlike.valueOf_eq (h : BindAlike parameters parameters') {sql : String}
    {name : List Char} (hname : name ∈ uses (boundLexemes sql parameters)) :
    valueOf parameters' name = valueOf parameters name := by
  rw [uses_boundLexemes] at hname
  obtain ⟨o, ho, rfl⟩ := List.mem_map.mp hname
  obtain ⟨v, hv, hnull⟩ := get?_of_mem_boundPlaceholders ho
  have hne : o.name ≠ "" := by
    intro hempty
    exact (standsAt_of_mem_findAll ho).2.1.named (by rw [hempty]; rfl)
  rw [valueOf, valueOf, String.ofList_toList, hv, (h o.name hne v hnull).mp hv]

theorem convert_congr (h : BindAlike parameters parameters') (sql : String) (style : MarkerStyle) :
    convert sql parameters' style = convert sql parameters style := by
  rw [convert_eq_ofLexemes, convert_eq_ofLexemes, h.boundLexemes_eq]
  cases style with
  | namedColon => rfl
  | questionMark =>
    rw [Rendering.ofLexemes, Rendering.ofLexemes]
    exact congrArg (Rendering.mk _) (List.map_congr_left fun name hname => h.valueOf_eq hname)
  | numeric =>
    rw [Rendering.ofLexemes, Rendering.ofLexemes]
    refine congrArg (Rendering.mk _) (List.map_congr_left fun name hname => ?_)
    exact h.valueOf_eq (List.mem_eraseDups.mp hname)

end Congruence

end Placeholder

namespace Builder

namespace Aside

/-- For the given keys, what is related holds the same bindings, and stays related when one of them
is bound on both sides, also past the sets or by its list alone. -/
structure Tabular (keys : String → Prop) (Q : Aside → Aside → Prop) : Prop where
  binding_eq : ∀ {a a'}, Q a a' → ∀ {key}, keys key → a'.binding key = a.binding key
  bind : ∀ {a a'}, Q a a' → ∀ {key}, keys key → ∀ value,
    Q { a with params := a.params.insert key value, sets := a.sets.erase key }
      { a' with params := a'.params.insert key value, sets := a'.sets.erase key }
  put : ∀ {a a'}, Q a a' → ∀ {key}, keys key → ∀ value,
    Q { a with params := a.params.insert key value }
      { a' with params := a'.params.insert key value }
  list : ∀ {a a'}, Q a a' → ∀ {key}, keys key → ∀ values,
    Q { a with sets := a.sets.insert key values } { a' with sets := a'.sets.insert key values }

/-- What is related holds the same bindings for all keys, and stays related when the statement is
dropped or rendered as well. -/
structure Whole (Q : Aside → Aside → Prop) : Prop extends Tabular (fun _ => True) Q where
  reset : ∀ {a a'}, Q a a' →
    Q { a with params := ∅, sets := ∅, args := [] } { a' with params := ∅, sets := ∅, args := [] }
  render : ∀ {a a'}, Q a a' → ∀ args, Q { a with args } { a' with args }

end Aside

namespace Alike

variable {Q : Aside → Aside → Prop} {b b' : Builder} (h : Alike Q b b')

section OneKey

variable {keys : String → Prop} (hQ : Aside.Tabular keys Q) {key : String} (hkey : keys key)

include h hQ hkey

theorem get?_params : b'.params.get? key = b.params.get? key :=
  congrArg Prod.fst (hQ.binding_eq h.aside hkey)

theorem get?_sets : b'.sets.get? key = b.sets.get? key :=
  congrArg Prod.snd (hQ.binding_eq h.aside hkey)

theorem mem_params : key ∈ b'.params ↔ key ∈ b.params := by
  rw [← Table.isSome_get?, ← Table.isSome_get?, h.get?_params hQ hkey]

theorem mem_sets : key ∈ b'.sets ↔ key ∈ b.sets := by
  rw [← Table.isSome_get?, ← Table.isSome_get?, h.get?_sets hQ hkey]

theorem param_eq : b'.param key = b.param key := by
  rw [param, param, h.get?_params hQ hkey]

theorem paramSet_eq : b'.paramSet key = b.paramSet key := by
  rw [paramSet, paramSet, h.get?_sets hQ hkey]

theorem elements_eq : b'.elements key = b.elements key := by
  rw [elements, elements, h.paramSet_eq hQ hkey]

theorem setParam (value : Value) : Alike Q (b.setParam key value) (b'.setParam key value) :=
  ⟨h.dialect_eq, h.dataSource_eq, h.sanitizer_eq, h.text_eq, h.context_eq,
    hQ.bind h.aside hkey value⟩

theorem putParam (value : Value) : Alike Q (b.putParam key value) (b'.putParam key value) :=
  ⟨h.dialect_eq, h.dataSource_eq, h.sanitizer_eq, h.text_eq, h.context_eq,
    hQ.put h.aside hkey value⟩

theorem list (values : Option (List Value)) :
    Alike Q { b with sets := b.sets.insert key values }
      { b' with sets := b'.sets.insert key values } :=
  ⟨h.dialect_eq, h.dataSource_eq, h.sanitizer_eq, h.text_eq, h.context_eq,
    hQ.list h.aside hkey values⟩

theorem appendToSet (value : Value) :
    Alike Q (b.appendToSet key value) (b'.appendToSet key value) := by
  rw [Builder.appendToSet, Builder.appendToSet, h.paramSet_eq hQ hkey]
  split
  · exact h.list hQ hkey _
  · exact h

theorem writeScalar (column : String) :
    Alike Q (b.writeScalar column key) (b'.writeScalar column key) := by
  rw [Builder.writeScalar, Builder.writeScalar, h.context_eq, h.quote_eq, h.param_eq hQ hkey]
  split
  · split
    · exact h.write _
    · exact h
  · exact h.write _

end OneKey

section Elements

variable {keys : String → Prop} (hQ : Aside.Tabular keys Q) {key : String}
variable (hkeys : ∀ i, keys (elementKey key i))

include h hQ hkeys

theorem bindElements (i : Nat) (values : List Value) :
    Alike Q (b.bindElements key i values) (b'.bindElements key i values) := by
  induction values generalizing b b' i with
  | nil => exact h
  | cons value values ih => exact ih (h.setParam hQ (hkeys i) value) (i + 1)

theorem writeElements (column : String) (values : List Value) :
    Alike Q (b.writeElements column key values) (b'.writeElements column key values) := by
  rw [Builder.writeElements, Builder.writeElements, h.context_eq, h.quote_eq]
  exact (h.bindElements hQ hkeys 1 values).write _

end Elements

section AllKeys

variable (hQ : Aside.Whole Q)

include h hQ

theorem size_params : b'.params.size = b.params.size := by
  have hkeys : b'.params.keys.Perm b.params.keys :=
    (List.perm_ext_iff_of_nodup b'.params.keys_nodup b.params.keys_nodup).mpr
      fun _ => h.mem_params hQ.toTabular trivial
  have hlength := hkeys.length_eq
  rwa [Table.keys, Table.keys, List.length_map, List.length_map] at hlength

theorem uniqueKey_eq (key : String) : b'.uniqueKey key = b.uniqueKey key := by
  have hmem (name : String) : name ∈ b'.params ↔ name ∈ b.params :=
    h.mem_params hQ.toTabular trivial
  simp only [uniqueKey, h.size_params hQ, hmem]

theorem reset : Alike Q b.reset b'.reset :=
  ⟨h.dialect_eq, h.dataSource_eq, h.sanitizer_eq, rfl, rfl, hQ.reset h.aside⟩

theorem convertsPlaceholders_eq : b'.convertsPlaceholders = b.convertsPlaceholders := by
  have hempty : b'.params.isEmpty = b.params.isEmpty := by
    rw [Bool.eq_iff_iff, Table.isEmpty_iff, Table.isEmpty_iff]
    exact forall_congr' fun key => by rw [h.get?_params hQ.toTabular trivial]
  rw [convertsPlaceholders, convertsPlaceholders, hempty, h.dialect_eq]

theorem rendering_eq : b'.rendering = b.rendering := by
  have hbind : Placeholder.BindAlike b.params b'.params := fun key _ value _ => by
    rw [h.get?_params hQ.toTabular trivial]
  rw [rendering, rendering, h.convertsPlaceholders_eq hQ, h.text_eq, h.dialect_eq,
    Placeholder.convert_congr hbind]

theorem render : Alike Q b.render b'.render := by
  rw [Builder.render, Builder.render, h.rendering_eq hQ]
  exact ⟨h.dialect_eq, h.dataSource_eq, h.sanitizer_eq, h.text_eq, h.context_eq,
    hQ.render h.aside _⟩

end AllKeys

end Alike

end Builder

/-! ## Looking at bindings -/

section Looking

open Builder Workbench

variable {Q : Builder.Aside → Builder.Aside → Prop}

theorem inStep_ask {α : Type} (question : DataSource → Except Failure α) (otherwise : α) :
    InStep (Builder.Alike Q) Eq (ask question otherwise) (ask question otherwise) := by
  refine .get_bind fun b b' h => ?_
  rw [h.dataSource_eq]
  cases b.dataSource with
  | none => exact .pure rfl
  | some source => exact .ofExcept _

section OneKey

variable {keys : String → Prop} (hQ : Builder.Aside.Tabular keys Q) {key : String}
variable (hkey : keys key)

include hQ hkey

theorem inStep_isParamASet :
    InStep (Builder.Alike Q) Eq (isParamASet key) (isParamASet key) := by
  refine .get_bind fun b b' h => ?_
  simp only [h.mem_params hQ hkey, h.mem_sets hQ hkey]
  split
  · exact .pure rfl
  · exact inStep_ask _ _

theorem inStep_setParam (value : Value) :
    InStep (Builder.Alike Q) Eq (modify (·.setParam key value)) (modify (·.setParam key value)) :=
  .modifying fun _ _ h => h.setParam hQ hkey value

theorem inStep_takeSet (given : Option Sequence) :
    InStep (Builder.Alike Q) Eq (takeSet key given) (takeSet key given) := by
  refine (InStep.modifying fun _ _ h => h.putParam hQ hkey .null).andThen fun _ => ?_
  refine (InStep.ofExcept _).andThen fun values => ?_
  exact .modifying fun _ _ h => h.list hQ hkey values

theorem inStep_pull : InStep (Builder.Alike Q) Eq (pull key) (pull key) := by
  refine .get_bind fun b b' h => ?_
  simp only [h.mem_params hQ hkey, h.dataSource_eq]
  split
  · exact .pure rfl
  · refine (inStep_ask _ _).andThen fun isList => ?_
    split
    · refine (inStep_ask _ _).andThen fun given => ?_
      exact inStep_takeSet hQ hkey given
    · refine (inStep_ask _ _).andThen fun value => ?_
      exact inStep_setParam hQ hkey value

theorem inStep_hasEmptyValue (empties : List String) :
    InStep (Builder.Alike Q) Eq (hasEmptyValue key empties) (hasEmptyValue key empties) := by
  refine (inStep_isParamASet hQ hkey).andThen fun isSet => ?_
  refine .get_bind fun b b' h => ?_
  rw [h.elements_eq hQ hkey, h.param_eq hQ hkey]
  split
  · exact .pure rfl
  · split <;> exact .pure rfl

theorem inStep_setDefault (empties : List String) (value : Value) :
    InStep (Builder.Alike Q) Eq (setDefault empties key value) (setDefault empties key value) := by
  refine (inStep_pull hQ hkey).andThen fun _ => ?_
  refine (inStep_hasEmptyValue hQ hkey empties).andThen fun isEmpty => ?_
  split
  · exact inStep_setParam hQ hkey value
  · exact .pure rfl

variable (hkeys : ∀ i, keys (elementKey key i))

include hkeys

theorem inStep_writeParam (column : String) :
    InStep (Builder.Alike Q) Eq (writeParam column key) (writeParam column key) := by
  refine (inStep_isParamASet hQ hkey).andThen fun isSet => ?_
  refine .modifying fun b b' h => ?_
  rw [h.elements_eq hQ hkey]
  split
  · exact h.writeElements hQ hkeys column _
  · exact h.writeScalar hQ hkey column

theorem inStep_appendParam (value : Value) :
    InStep (Builder.Alike Q) Eq (appendParam key value) (appendParam key value) :=
  (inStep_setParam hQ hkey value).andThen fun _ => inStep_writeParam hQ hkey hkeys key

theorem inStep_mustAdd (column : String) :
    InStep (Builder.Alike Q) Eq (mustAdd key column) (mustAdd key column) :=
  (inStep_pull hQ hkey).andThen fun _ => inStep_writeParam hQ hkey hkeys column

theorem inStep_addIfDefined (column : String) :
    InStep (Builder.Alike Q) Eq (addIfDefined key column) (addIfDefined key column) := by
  refine (inStep_ask _ _).andThen fun isDefined => ?_
  split
  · exact inStep_mustAdd hQ hkey hkeys column
  · exact .pure rfl

end OneKey

theorem inStep_render (hQ : Builder.Aside.Whole Q) :
    InStep (Workbench.Alike (Builder.Alike Q)) Eq Workbench.render Workbench.render := by
  refine .get_bind fun w w' hw => ?_
  have hconverts := hw.builder.convertsPlaceholders_eq hQ
  have hrendering := hw.builder.rendering_eq hQ
  have hnote : conversionNote w'.builder = conversionNote w.builder := by
    rw [conversionNote, conversionNote, hrendering, hw.builder.dialect_eq]
  refine (InStep.modifyBuilder fun _ _ h => h.render hQ).andThen fun _ => ?_
  dsimp only
  rw [hconverts, hrendering, hnote]
  split
  · exact (InStep.record _).andThen fun _ => .pure rfl
  · exact .pure rfl

end Looking

inductive Reply.Alike (R : Builder → Builder → Prop) : Reply → Reply → Prop
  | same (reply : Reply) : Alike R reply reply
  | derived {b b' : Builder} (h : R b b') : Alike R (.derived b) (.derived b')

namespace Operation

/-- The operation looks at the bindings of the given keys alone, and binds no other ones. A key
that is written may have a list, whose elements are bound under keys of their own. -/
def Within (keys : String → Prop) : Operation → Prop
  | setParam key _ | setParamSet key _ | putParam key _ | appendToSet key _ | isParamASet key
  | param key | paramSet key | setIfNull key _ | setIfEmpty key _ => keys key
  | appendParam key _ | mustAdd key _ | addIfDefined key _ =>
    keys key ∧ ∀ i, keys (Builder.elementKey key i)
  | operation => operation.ignoresParams = true

/-- Whether the reply tells more than which keys are bound to what: the order of a table, the
arguments of the last rendering, or the parts of a copy. -/
def showsTables : Operation → Bool
  | args | namedArgs | clone | cloneAsAggregate _ | cloneForTotals _ _ => true
  | _ => false

end Operation

section Operations

open Builder Workbench

variable {Q : Builder.Aside → Builder.Aside → Prop}

/-- An operation on some keys goes on in step where these are bound to the same. -/
theorem inStep_within {keys : String → Prop} (hQ : Builder.Aside.Tabular keys Q)
    {operation : Operation} (h : operation.Within keys) :
    InStep (Workbench.Alike (Builder.Alike Q)) Eq operation.run operation.run := by
  cases operation with
  | setParam key value => exact .change fun _ _ hb => hb.setParam hQ h value
  | setParamSet key values => exact .attempt (inStep_takeSet hQ h values)
  | putParam key value =>
    exact (InStep.modifyBuilder fun _ _ hb => hb.putParam hQ h value).andThen fun _ => .pure rfl
  | appendToSet key value =>
    exact (InStep.modifyBuilder fun _ _ hb => hb.appendToSet hQ h value).andThen fun _ => .pure rfl
  | isParamASet key => exact (inStep_isParamASet hQ h).build.andThen fun _ => .pure rfl
  | param key =>
    exact .answer (fun b => .value (b.param key))
      fun _ _ hb => congrArg Reply.value (hb.param_eq hQ h).symm
  | paramSet key =>
    exact .answer (fun b => .values (b.paramSet key))
      fun _ _ hb => congrArg Reply.values (hb.paramSet_eq hQ h).symm
  | setIfNull key value => exact .attempt (inStep_setDefault hQ h _ value)
  | setIfEmpty key value => exact .attempt (inStep_setDefault hQ h _ value)
  | appendParam key value => exact .attempt (inStep_appendParam hQ h.1 h.2 value)
  | mustAdd key column => exact .attempt (inStep_mustAdd hQ h.1 h.2 column)
  | addIfDefined key column => exact .attempt (inStep_addIfDefined hQ h.1 h.2 column)
  | _ => exact inStep_of_ignoresParams h

/-- The copies are related as what they are made of is. -/
theorem inStep_cloneAsAggregate (T : Builder.Aside → Builder.Aside → Prop)
    (hclone : ∀ {b b'}, Builder.Alike Q b b' → T b.clone.aside b'.clone.aside)
    (aggregate : Option Aggregater) :
    InStep (Workbench.Alike (Builder.Alike Q)) (Reply.Alike (Builder.Alike T))
      (Workbench.cloneAsAggregate aggregate) (Workbench.cloneAsAggregate aggregate) := by
  refine (InStep.ofExcept _).andThen fun definition => ?_
  dsimp only
  split
  · exact .throw _
  · refine .get_bind fun w w' hw => ?_
    have hcopies : Builder.Alike T w.builder.clone w'.builder.clone :=
      ⟨hw.builder.dialect_eq, hw.builder.dataSource_eq, hw.builder.sanitizer_eq,
        hw.builder.text_eq, hw.builder.context_eq, hclone hw.builder⟩
    exact (inStep_selecting hcopies _).bind fun _ _ h => .pure (.derived h)

theorem inStep_cloneForTotals (T : Builder.Aside → Builder.Aside → Prop)
    (hclone : ∀ {b b'}, Builder.Alike Q b b' → T b.clone.aside b'.clone.aside)
    (pager : Option Pager) (aggregate : Option Aggregater) :
    InStep (Workbench.Alike (Builder.Alike Q)) (Reply.Alike (Builder.Alike T))
      (Workbench.cloneForTotals pager aggregate) (Workbench.cloneForTotals pager aggregate) := by
  unfold Workbench.cloneForTotals
  split
  · refine (InStep.ofExcept _).andThen fun isWanted => ?_
    split
    · exact inStep_cloneAsAggregate T hclone aggregate
    · exact .pure (.same _)
  · exact .pure (.same _)

/-- Every operation that is not about transactions goes on in step where the bindings are the same.
The replies are the same as well, unless they tell more than the bindings. -/
theorem inStep_operation (hQ : Builder.Aside.Whole Q) {operation : Operation}
    (h : operation.turn? = none) :
    InStep (Workbench.Alike (Builder.Alike Q))
      (fun reply reply' => operation.showsTables = false → reply = reply')
      operation.run operation.run := by
  have same (hchange : InStep (Workbench.Alike (Builder.Alike Q)) Eq operation.run operation.run) :
      InStep (Workbench.Alike (Builder.Alike Q))
        (fun reply reply' => operation.showsTables = false → reply = reply')
        operation.run operation.run :=
    hchange.mono fun _ _ heq _ => heq
  have shown (hshows : operation.showsTables = true)
      (hchange : InStep (Workbench.Alike (Builder.Alike Q)) (fun _ _ => True) operation.run
        operation.run) :
      InStep (Workbench.Alike (Builder.Alike Q))
        (fun reply reply' => operation.showsTables = false → reply = reply')
        operation.run operation.run :=
    hchange.mono fun _ _ _ hnot => absurd hshows (by rw [hnot]; exact Bool.false_ne_true)
  by_cases hwithin : operation.Within fun _ => True
  · exact same (inStep_within hQ.toTabular hwithin)
  cases operation with
  | reset => exact same (.change fun _ _ hb => hb.reset hQ)
  | uniqueKey key =>
    exact same (.answer (fun b => .text (b.uniqueKey key))
      fun _ _ hb => congrArg Reply.text (hb.uniqueKey_eq hQ key).symm)
  | render => exact same (inStep_render hQ)
  | args => exact shown rfl (.answer (fun b => .values (some b.args)) fun _ _ _ => trivial)
  | namedArgs => exact shown rfl (.answer (fun b => .table b.namedArgs) fun _ _ _ => trivial)
  | clone => exact shown rfl (.answer (fun b => .derived b.clone) fun _ _ _ => trivial)
  | cloneAsAggregate aggregate =>
    exact shown rfl ((inStep_cloneAsAggregate (fun _ _ => True) (fun _ => trivial) aggregate).mono
      fun _ _ _ => trivial)
  | cloneForTotals pager aggregate =>
    exact shown rfl ((inStep_cloneForTotals (fun _ _ => True) (fun _ => trivial) pager
      aggregate).mono fun _ _ _ => trivial)
  | beginTransaction => cases h
  | commitTransaction => cases h
  | rollbackTransaction => cases h
  | _ => exact absurd (by simp [Operation.Within, Operation.ignoresParams]) hwithin

end Operations
end ParamSql
