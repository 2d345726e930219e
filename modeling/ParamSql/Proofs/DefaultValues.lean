import ParamSql.Proofs.ElementKeys
import ParamSql.Proofs.SettledKeys
import ParamSql.Proofs.TableAgreement

/-!
# Default values

The data for a key is what is bound to it, or else what the data source has for it. A default is
bound only where this is nothing, and what there is otherwise is bound itself. Either way the key is
bound from then on, so that neither another default nor another data source makes a difference.
-/

namespace ParamSql

/-- The data for a key: a scalar, or a list, which may be absent. -/
inductive KeyData where
  | scalar (value : Value)
  | list (values : Option (List Value))

namespace KeyData

def binding : KeyData → Option Value × Option (Option (List Value))
  | scalar value => (some value, none)
  | list values => (some .null, some values)

def assign (key : String) (b : Builder) : KeyData → Builder
  | scalar value => b.setParam key value
  | list values => b.setParamSet key values

/-- Whether the data is nothing, or one of the given texts. -/
def isGap (empties : List String) : KeyData → Bool
  | scalar .null => true
  | scalar (.text s) => decide (s ∈ empties)
  | scalar _ => false
  | list values => (values.getD []).isEmpty

def filled (empties : List String) (value : Value) (data : KeyData) : KeyData :=
  if data.isGap empties then .scalar value else data

/-- A default that is something itself leaves no gap. -/
theorem isGap_filled {empties : List String} {value : Value} (hnull : value ≠ .null)
    (htexts : ∀ text ∈ empties, value ≠ .text text) (data : KeyData) :
    (data.filled empties value).isGap empties = false := by
  unfold filled
  split
  · cases value with
    | null => exact absurd rfl hnull
    | text s => exact decide_eq_false fun hs => htexts s hs rfl
    | _ => rfl
  · next h => exact Bool.not_eq_true _ ▸ h

end KeyData

namespace DataSource

/-- The values that the source has for a key, once they have been gone through. -/
def elementsFor (source : DataSource) (key : String) : Except Failure (Option (List Value)) :=
  source.values key >>= Sequence.elements?

def dataFor (source : DataSource) (key : String) : Except Failure KeyData := do
  if ← source.isListValued key then
    return .list (← source.elementsFor key)
  else
    return .scalar (← source.value key)

/-- The source answers every question about every key, and no list of values breaks off. -/
structure NeverFails (source : DataSource) : Prop where
  isDefined : ∀ key, ∃ answer, source.isDefined key = .ok answer
  isListValued : ∀ key, ∃ answer, source.isListValued key = .ok answer
  value : ∀ key, ∃ answer, source.value key = .ok answer
  values : ∀ key, ∃ values, source.elementsFor key = .ok values

theorem neverFails_ofTable (data : Table Value) : (ofTable data).NeverFails where
  isDefined _ := ⟨_, rfl⟩
  isListValued _ := ⟨_, rfl⟩
  value _ := ⟨_, rfl⟩
  values key := by
    refine ⟨(data.get? key).bind listOf, ?_⟩
    change Sequence.elements? (((data.get? key).bind listOf).map .ok) = _
    cases (data.get? key).bind listOf <;> rfl

variable {source : DataSource} {key : String} {data : KeyData}

theorem dataFor_of_list {values : Option (List Value)} (hlist : source.isListValued key = .ok true)
    (hvalues : source.elementsFor key = .ok values) : source.dataFor key = .ok (.list values) := by
  rw [dataFor, hlist, hvalues]
  rfl

theorem dataFor_of_scalar {value : Value} (hlist : source.isListValued key = .ok false)
    (hvalue : source.value key = .ok value) : source.dataFor key = .ok (.scalar value) := by
  rw [dataFor, hlist, hvalue]
  rfl

theorem NeverFails.exists_dataFor (h : source.NeverFails) (key : String) :
    ∃ data, source.dataFor key = .ok data := by
  obtain ⟨isList, hlist⟩ := h.isListValued key
  cases isList with
  | true =>
    obtain ⟨values, hvalues⟩ := h.values key
    exact ⟨.list values, dataFor_of_list hlist hvalues⟩
  | false =>
    obtain ⟨value, hvalue⟩ := h.value key
    exact ⟨.scalar value, dataFor_of_scalar hlist hvalue⟩

/-- What is had from the source is had from one of its two answers. -/
theorem of_dataFor_eq_ok (h : source.dataFor key = .ok data) :
    (∃ values, source.isListValued key = .ok true ∧ source.elementsFor key = .ok values ∧
      data = .list values) ∨
    ∃ value, source.isListValued key = .ok false ∧ source.value key = .ok value ∧
      data = .scalar value := by
  rw [dataFor] at h
  cases hlist : source.isListValued key with
  | error e =>
    rw [hlist] at h
    cases h
  | ok isList =>
    rw [hlist] at h
    cases isList with
    | true =>
      cases hvalues : source.elementsFor key with
      | error e =>
        rw [hvalues] at h
        cases h
      | ok values =>
        rw [hvalues] at h
        exact .inl ⟨values, rfl, rfl, (Except.ok.inj h).symm⟩
    | false =>
      cases hvalue : source.value key with
      | error e =>
        rw [hvalue] at h
        cases h
      | ok value =>
        rw [hvalue] at h
        exact .inr ⟨value, rfl, rfl, (Except.ok.inj h).symm⟩

end DataSource

namespace Builder

def boundData (b : Builder) (key : String) : KeyData :=
  match b.sets.get? key with
  | some values => .list values
  | none => .scalar (b.param key)

/-- The data for a key: what is bound to it, or else what the data source has for it. -/
def dataFor (b : Builder) (key : String) : Except Failure KeyData :=
  if key ∈ b.params then .ok (b.boundData key)
  else
    match b.dataSource with
    | some source => source.value.dataFor key
    | none => .ok (.scalar .null)

/-- No key but the one is bound anew, none of the others moves, and nothing else changes. -/
structure OnlyBinds (key : String) (b b' : Builder) : Prop where
  params_eq : b'.params.erase key = b.params.erase key
  sets_eq : b'.sets.erase key = b.sets.erase key
  rest_eq : b' = { b with params := b'.params, sets := b'.sets }

variable {b b' : Builder} {key : String} {data : KeyData}

namespace OnlyBinds

theorem refl (b : Builder) : OnlyBinds key b b := ⟨rfl, rfl, rfl⟩

theorem trans {b'' : Builder} (first : OnlyBinds key b b') (last : OnlyBinds key b' b'') :
    OnlyBinds key b b'' where
  params_eq := last.params_eq.trans first.params_eq
  sets_eq := last.sets_eq.trans first.sets_eq
  rest_eq := last.rest_eq.trans (by rw [first.rest_eq])

theorem setParam (b : Builder) (key : String) (value : Value) :
    OnlyBinds key b (b.setParam key value) :=
  ⟨Table.erase_insert _ _ _, Table.erase_erase _ _, rfl⟩

theorem setParamSet (b : Builder) (key : String) (values : Option (List Value)) :
    OnlyBinds key b (b.setParamSet key values) :=
  ⟨Table.erase_insert _ _ _, Table.erase_insert _ _ _, rfl⟩

theorem of_pulled (h : Pulled b key b') : OnlyBinds key b b' := by
  cases h with
  | settled _ => exact .refl b
  | scalar value => exact .setParam b key value
  | list values => exact .setParamSet b key values

theorem binding_eq (h : OnlyBinds key b b') {k : String} (hk : k ≠ key) :
    b'.binding k = b.binding k := by
  have hparams := congrArg (·.get? k) h.params_eq
  have hsets := congrArg (·.get? k) h.sets_eq
  simp only [Table.get?_erase, if_neg hk] at hparams hsets
  rw [binding_def, binding_def, hparams, hsets]

end OnlyBinds

theorem TablesAgree.of_pulled (h : b.TablesAgree) (hpulled : Pulled b key b') :
    b'.TablesAgree := by
  cases hpulled with
  | settled _ => exact h
  | scalar value => exact h.setParam key value
  | list values => exact h.setParamSet key values

/-! ## The data for a key -/

theorem dataFor_of_mem (h : key ∈ b.params) : b.dataFor key = .ok (b.boundData key) := if_pos h

theorem boundData_setParam (b : Builder) (key : String) (value : Value) :
    (b.setParam key value).boundData key = .scalar value := by
  simp [boundData, setParam, param, Table.get?_erase]

theorem boundData_setParamSet (b : Builder) (key : String) (values : Option (List Value)) :
    (b.setParamSet key values).boundData key = .list values := by
  simp [boundData, setParamSet]

theorem dataFor_assign (data : KeyData) (b : Builder) (key : String) :
    (data.assign key b).dataFor key = .ok data := by
  cases data with
  | scalar value =>
    exact (dataFor_of_mem (Table.mem_insert_self _ _ _)).trans
      (congrArg _ (b.boundData_setParam key value))
  | list values =>
    exact (dataFor_of_mem (Table.mem_insert_self _ _ _)).trans
      (congrArg _ (b.boundData_setParamSet key values))

theorem dataFor_of_unbound (hsource : b.dataSource = none) (hbound : key ∉ b.params) :
    b.dataFor key = .ok (.scalar .null) := by
  rw [dataFor, if_neg hbound, hsource]

theorem exists_dataFor (h : ∀ source, b.dataSource = some source → source.value.NeverFails)
    (key : String) : ∃ data, b.dataFor key = .ok data := by
  by_cases hbound : key ∈ b.params
  · exact ⟨_, dataFor_of_mem hbound⟩
  · cases hsource : b.dataSource with
    | none => exact ⟨_, dataFor_of_unbound hsource hbound⟩
    | some source =>
      rw [dataFor, if_neg hbound, hsource]
      exact (h source hsource).exists_dataFor key

theorem binding_of_mem (hagree : b.TablesAgree) (h : key ∈ b.params) :
    b.binding key = (b.boundData key).binding := by
  obtain ⟨value, hvalue⟩ := Table.exists_get? h
  rw [binding_def, boundData, hvalue]
  cases hset : b.sets.get? key with
  | none =>
    rw [param, hvalue]
    rfl
  | some values =>
    have hnull := hagree key (Table.mem_of_get? hset)
    rw [← hvalue, hnull]
    rfl

/-! ## Filling gaps -/

theorem pull_of_scalar {value : Value} {source : Installed DataSource} (hbound : key ∉ b.params)
    (hsource : b.dataSource = some source) (hlist : source.value.isListValued key = .ok false)
    (hvalue : source.value.value key = .ok value) :
    pull key b = .ok () (b.setParam key value) := by
  have hlisted : ask (·.isListValued key) false b = .ok false b := ask_of_ok hsource hlist false
  have hasked : ask (·.value key) .null b = .ok value b := ask_of_ok hsource hvalue _
  rw [pull_of_unbound hbound hsource, bind_of_ok hlisted, if_neg Bool.false_ne_true,
    bind_of_ok hasked]
  rfl

theorem pull_of_source {source : Installed DataSource} (hbound : key ∉ b.params)
    (hsource : b.dataSource = some source) (h : source.value.dataFor key = .ok data) :
    pull key b = .ok () (data.assign key b) := by
  obtain ⟨values, hlist, hvalues, rfl⟩ | ⟨value, hlist, hvalue, rfl⟩ :=
    DataSource.of_dataFor_eq_ok h
  · cases hgiven : source.value.values key with
    | error e =>
      rw [DataSource.elementsFor, hgiven] at hvalues
      cases hvalues
    | ok given =>
      rw [DataSource.elementsFor, hgiven] at hvalues
      exact pull_of_list hbound hsource hlist hgiven hvalues
  · exact pull_of_scalar hbound hsource hlist hvalue

theorem pull_of_dataFor (h : b.dataFor key = .ok data) :
    ∃ b', pull key b = .ok () b' ∧ b'.dataFor key = .ok data := by
  by_cases hsettled : b.Settled key
  · exact ⟨b, pull_eq_self hsettled, h⟩
  · obtain ⟨hbound, hsource⟩ := not_or.mp hsettled
    obtain ⟨source, hsource⟩ := Option.ne_none_iff_exists'.mp hsource
    rw [dataFor, if_neg hbound, hsource] at h
    exact ⟨_, pull_of_source hbound hsource h, dataFor_assign data b key⟩

theorem hasEmptyValue_of_mem (h : key ∈ b.params) (empties : List String) :
    hasEmptyValue key empties b = .ok ((b.boundData key).isGap empties) b := by
  rw [hasEmptyValue, bind_of_ok (isParamASet_of_bound h), get_bind, boundData]
  cases hset : b.sets.get? key with
  | none =>
    have hmem : key ∉ b.sets := Table.get?_eq_none.mp hset
    rw [if_neg (by simpa using hmem)]
    cases b.param key <;> rfl
  | some values =>
    have hmem : key ∈ b.sets := Table.mem_of_get? hset
    rw [if_pos (decide_eq_true hmem), elements, paramSet, hset]
    rfl

theorem hasEmptyValue_of_dataFor (hsettled : b.Settled key) (h : b.dataFor key = .ok data)
    (empties : List String) : hasEmptyValue key empties b = .ok (data.isGap empties) b := by
  by_cases hbound : key ∈ b.params
  · rw [dataFor_of_mem hbound] at h
    obtain rfl := Except.ok.inj h
    exact hasEmptyValue_of_mem hbound empties
  · rw [dataFor_of_unbound (hsettled.resolve_left hbound) hbound] at h
    obtain rfl := Except.ok.inj h
    have hparam : b.param key = .null := by rw [param, Table.get?_eq_none.mpr hbound]; rfl
    rw [hasEmptyValue, bind_of_ok (isParamASet_of_settled hsettled), get_bind,
      decide_eq_false hbound, Bool.false_and, if_neg Bool.false_ne_true, hparam]
    rfl

/-- A bound key whose data leaves no gap keeps it, whatever the default. -/
theorem setDefault_of_mem {empties : List String} (h : key ∈ b.params)
    (hgap : (b.boundData key).isGap empties = false) (value : Value) :
    setDefault empties key value b = .ok () b := by
  rw [setDefault, bind_of_ok (pull_eq_self (.inl h)), bind_of_ok (hasEmptyValue_of_mem h empties),
    hgap]
  rfl

/-- After a default has been offered, the key is bound to its data, with the default in a gap. -/
theorem setDefault_of_dataFor (hagree : b.TablesAgree) (h : b.dataFor key = .ok data)
    (empties : List String) (value : Value) :
    ∃ b' : Builder, setDefault empties key value b = .ok () b' ∧ key ∈ b'.params ∧
      b'.boundData key = data.filled empties value ∧ b'.TablesAgree ∧ OnlyBinds key b b' := by
  obtain ⟨b₁, hpull, hdata⟩ := pull_of_dataFor h
  have hpulled : Pulled b key b₁ := pulled_of_pull hpull
  have hagree₁ : b₁.TablesAgree := hagree.of_pulled hpulled
  have honly : OnlyBinds key b b₁ := .of_pulled hpulled
  have hempty := hasEmptyValue_of_dataFor hpulled.settles hdata empties
  rw [setDefault, bind_of_ok hpull, bind_of_ok hempty, KeyData.filled]
  cases hgap : data.isGap empties with
  | true =>
    exact ⟨b₁.setParam key value, rfl, Table.mem_insert_self _ _ _,
      b₁.boundData_setParam key value, hagree₁.setParam key value,
      honly.trans (.setParam b₁ key value)⟩
  | false =>
    -- A settled key without a gap is bound, as there is nothing for one that is not.
    have hbound : key ∈ b₁.params := by
      by_contra hbound
      rw [dataFor_of_unbound (hpulled.settles.resolve_left hbound) hbound] at hdata
      cases hdata
      cases hgap
    rw [dataFor_of_mem hbound] at hdata
    exact ⟨b₁, rfl, hbound, Except.ok.inj hdata, hagree₁, honly⟩

/-! ## Other data sources -/

theorem bindElements_dataSource (b : Builder) (source : Option (Installed DataSource))
    (key : String) (i : Nat) (values : List Value) :
    ({ b with dataSource := source } : Builder).bindElements key i values =
      { b.bindElements key i values with dataSource := source } := by
  induction values generalizing b i with
  | nil => rfl
  | cons value values ih => exact ih (b.setParam (elementKey key i) value) (i + 1)

theorem writeScalar_dataSource (b : Builder) (source : Option (Installed DataSource))
    (column key : String) :
    ({ b with dataSource := source } : Builder).writeScalar column key =
      { b.writeScalar column key with dataSource := source } := by
  change (if (b.param key).isNull && b.context.nullMode then _ else _) = _
  rw [writeScalar]
  split
  · cases Operator.nullTest? b.context.operator <;> rfl
  · rfl

/-- The data source has no part in the writing of a bound key. -/
theorem written_dataSource (b : Builder) (source : Option (Installed DataSource))
    (column key : String) :
    ({ b with dataSource := source } : Builder).written column key =
      { b.written column key with dataSource := source } := by
  change (if decide (key ∈ b.sets) && !(b.elements key).isEmpty then
      ({ b with dataSource := source } : Builder).writeElements column key (b.elements key)
    else _) = _
  rw [written]
  split
  · rw [writeElements, bindElements_dataSource]
    rfl
  · exact b.writeScalar_dataSource source column key

end Builder

/-- What a default may stand in for: null, or the empty text and a zero as well. -/
inductive Gap where
  | null
  | empty
  deriving DecidableEq, Repr

namespace Gap

def texts : Gap → List String
  | null => []
  | empty => ["", "0"]

def fill : Gap → String → Value → Operation
  | null => .setIfNull
  | empty => .setIfEmpty

theorem run_fill (gap : Gap) (key : String) (value : Value) :
    (gap.fill key value).run = Workbench.attempt (Builder.setDefault gap.texts key value) := by
  cases gap <;> rfl

end Gap

open Builder

/-- Defaults fill gaps and nothing else. Once a default has been offered for a key, the key is bound
to its data, or to the default where the data is nothing. Unless the default is nothing itself, no
other default and no data source, not even one that fails, makes a difference to the key. -/
theorem defaults_fill_gaps {w : Workbench} (hagree : w.builder.TablesAgree)
    (hsource : ∀ source, w.builder.dataSource = some source → source.value.NeverFails)
    (gap : Gap) (key : String) {value : Value} (hvalue : value ≠ .null) :
    ∃ (data : KeyData) (b : Builder), w.builder.dataFor key = .ok data ∧
      (gap.fill key value).run w = .ok .itself { w with builder := b } ∧
      b.binding key = (if data.isGap gap.texts then (some value, none) else data.binding) ∧
      OnlyBinds key w.builder b ∧
      ((∀ text ∈ gap.texts, value ≠ .text text) →
        ∀ (other : Value) (source : Option (Installed DataSource)),
          (gap.fill key other).run { w with builder := { b with dataSource := source } } =
            .ok .itself { w with builder := { b with dataSource := source } }) ∧
      ∀ column, ∃ b' : Builder, ∀ source : Option (Installed DataSource),
        Operation.run (.mustAdd key column) { w with builder := { b with dataSource := source } } =
          .ok .itself { w with builder := { b' with dataSource := source } } := by
  obtain ⟨data, hdata⟩ := exists_dataFor hsource key
  obtain ⟨b, hrun, hbound, hfilled, hagrees, honly⟩ :=
    setDefault_of_dataFor hagree hdata gap.texts value
  refine ⟨data, b, hdata, ?_, ?_, honly, ?_, ?_⟩
  · rw [gap.run_fill]
    exact Workbench.attempt_of_ok hrun
  · rw [binding_of_mem hagrees hbound, hfilled, KeyData.filled]
    split <;> rfl
  · intro htexts other source
    let b' : Builder := { b with dataSource := source }
    have hgap : (b'.boundData key).isGap gap.texts = false :=
      (congrArg (KeyData.isGap gap.texts) hfilled).trans (data.isGap_filled hvalue htexts)
    rw [gap.run_fill]
    exact Workbench.attempt_of_ok (setDefault_of_mem (b := b') hbound hgap other)
  · intro column
    refine ⟨b.written column key, fun source => ?_⟩
    refine (run_mustAdd_of_mem (w := { w with builder := { b with dataSource := source } }) hbound
      column).trans ?_
    rw [written_dataSource]

theorem defaults_fill_gaps_of_zero :
    let source : DataSource := .ofTable (.ofList [("n", .text "0")])
    let failing : DataSource := .ofAnswers ⟨[], [], ∅, ∅, ["n"]⟩
    let b : Builder :=
      { dialect := Database.sqlite.dialect, dataSource := some ⟨0, source⟩
        params := .ofList [("m", .null)], sets := .ofList [("m", some [.int 1])] }
    let w : Workbench := { builder := b, controller := none, serial := 2 }
    b.TablesAgree ∧ source.NeverFails ∧
      ∃ b' : Builder,
        Operation.run (.setIfEmpty "n" (.int 5)) w = .ok .itself { w with builder := b' } ∧
        b'.binding "n" = (some (.int 5), none) ∧
        b'.binding "m" = (some .null, some (some [.int 1])) ∧
        Operation.run (.setIfEmpty "n" (.int 6))
            { w with builder := { b' with dataSource := some ⟨1, failing⟩ } } =
          .ok .itself { w with builder := { b' with dataSource := some ⟨1, failing⟩ } } := by
  intro source failing b w
  have hagree : b.TablesAgree := by
    intro key hkey
    obtain rfl : key = "m" := by simpa [b] using hkey
    rfl
  have hsource : source.NeverFails := DataSource.neverFails_ofTable _
  have hsources : ∀ s, w.builder.dataSource = some s → s.value.NeverFails := by
    intro s hs
    obtain rfl := Option.some.inj hs
    exact hsource
  obtain ⟨data, b', hdata, hrun, hbinding, honly, hagain, -⟩ :=
    defaults_fill_gaps (w := w) hagree hsources .empty "n" (show Value.int 5 ≠ .null by simp)
  obtain rfl : KeyData.scalar (.text "0") = data := Except.ok.inj hdata
  exact ⟨hagree, hsource, b', hrun, hbinding, honly.binding_eq (by decide),
    hagain (by simp) (.int 6) (some ⟨1, failing⟩)⟩

end ParamSql
