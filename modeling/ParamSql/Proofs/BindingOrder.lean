import ParamSql.Proofs.BindingRun
import ParamSql.Proofs.SameBindings

/-!
# The order of binding

Parameters may be bound in any order, and at any time before or after the text is written. The
tables then differ in the order of their entries at most, and neither what is written from there on
nor what is rendered depends on it.
-/

namespace ParamSql

theorem Table.lookup_of_perm {α : Type} {xs ys : List (String × α)}
    (nodup : (xs.map Prod.fst).Nodup) (h : xs.Perm ys) (key : String) :
    ys.lookup key = xs.lookup key := by
  have same : get? ⟨ys, (h.map Prod.fst).nodup nodup⟩ key = get? ⟨xs, nodup⟩ key := by
    refine Option.ext fun value => ?_
    rw [get?_eq_some_iff, get?_eq_some_iff]
    exact h.symm.mem_iff
  exact same

theorem Placeholder.BindAlike.rendering_eq {parameters parameters' : Table Value}
    (h : BindAlike parameters parameters') (b : Builder) :
    { b with params := parameters' }.rendering = { b with params := parameters }.rendering := by
  cases hdialect : b.dialect.supportsNamedParameters with
  | true => simp [Builder.rendering, Builder.convertsPlaceholders, hdialect]
  | false =>
    have hconvert (table : Table Value) : { b with params := table }.rendering =
        convert b.text table b.dialect.positionalStyle := Builder.rendering_eq_convert hdialect
    rw [hconvert, hconvert, convert_congr h]

namespace Builder.Aside

/-- The second holds the bindings of the first, with the given scalars bound over them. Of pairs
with the same key the first one counts. -/
def Binds (pairs : List (String × Value)) (a a' : Aside) : Prop :=
  ∀ key, a'.binding key =
    match pairs.lookup key with
    | some value => (some value, none)
    | none => a.binding key

namespace Binds

variable {pairs pairs' : List (String × Value)} {a a' a'' : Aside}

theorem refl (a : Aside) : Binds [] a a := fun _ => rfl

theorem across (h : Binds pairs a a') (h' : Binds pairs' a a'')
    (hsame : ∀ key, pairs'.lookup key = pairs.lookup key) : Binds [] a' a'' := by
  intro key
  rw [h' key, hsame key]
  exact (h key).symm

theorem cons (h : Binds pairs a a') (key : String) (value : Value) :
    Binds ((key, value) :: pairs) a
      { a' with params := a'.params.insert key value, sets := a'.sets.erase key } := by
  intro k
  rw [binding, Table.get?_insert, Table.get?_erase, Table.lookup_cons_if]
  by_cases hk : k = key
  · rw [if_pos hk, if_pos hk, if_pos hk]
  · rw [if_neg hk, if_neg hk, if_neg hk]
    exact h k

/-- What changes the binding of a key that none of the pairs has can be done on both sides. -/
theorem rebind (h : Binds pairs a a') {key : String} (hfresh : pairs.lookup key = none)
    {f : Aside → Aside}
    {g : Option Value × Option (Option (List Value)) → Option Value × Option (Option (List Value))}
    (hf : ∀ a k, (f a).binding k = if k = key then g (a.binding k) else a.binding k) :
    Binds pairs (f a) (f a') := by
  intro k
  rw [hf, hf, h k]
  by_cases hk : k = key
  · rw [if_pos hk, if_pos hk, hk, hfresh]
  · rw [if_neg hk, if_neg hk]

end Binds

theorem tabular_binds {keys : String → Prop} {pairs : List (String × Value)}
    (h : ∀ e ∈ pairs, ¬ keys e.1) : Tabular keys (Binds pairs) := by
  have fresh {key : String} (hkey : keys key) : pairs.lookup key = none := by
    rw [← Option.not_isSome_iff_eq_none, Table.lookup_isSome, List.mem_map]
    rintro ⟨e, he, rfl⟩
    exact h e he hkey
  constructor
  case binding_eq =>
    intro a a' hbinds key hkey
    rw [hbinds key, fresh hkey]
  case bind =>
    intro a a' hbinds key hkey value
    refine hbinds.rebind (fresh hkey)
      (f := fun a => { a with params := a.params.insert key value, sets := a.sets.erase key })
      (g := fun _ => (some value, none)) fun a k => ?_
    rw [binding, Table.get?_insert, Table.get?_erase]
    split <;> rfl
  case put =>
    intro a a' hbinds key hkey value
    refine hbinds.rebind (fresh hkey) (f := fun a => { a with params := a.params.insert key value })
      (g := fun old => (some value, old.2)) fun a k => ?_
    rw [binding, Table.get?_insert]
    split <;> rfl
  case list =>
    intro a a' hbinds key hkey values
    refine hbinds.rebind (fresh hkey) (f := fun a => { a with sets := a.sets.insert key values })
      (g := fun old => (old.1, some values)) fun a k => ?_
    rw [binding, Table.get?_insert]
    split <;> rfl

/-- With nothing bound over them the bindings are the same, be they entered in another order. -/
theorem whole_binds_nil : Whole (Binds []) where
  toTabular := tabular_binds fun _ he => absurd he List.not_mem_nil
  reset _ _ := rfl
  render h _ := h

end Builder.Aside

/-! ## Runs that bind -/

def Operation.binding? : Operation → Option (String × Value)
  | setParam key value => some (key, value)
  | _ => none

def bindings (operations : List Operation) : List (String × Value) :=
  operations.filterMap Operation.binding?

def besides (operations : List Operation) : List Operation :=
  operations.filter (·.binding?.isNone)

theorem Operation.eq_setParam {operation : Operation} {e : String × Value}
    (h : operation.binding? = some e) : operation = .setParam e.1 e.2 := by
  cases operation with
  | setParam key value => cases h; rfl
  | _ => cases h

open Builder.Aside (Binds tabular_binds whole_binds_nil)

/-- Operations on other keys do not notice what is bound between them: without the bindings they
end in the same way, and then only these are missing. -/
theorem performAll_besides {keys : String → Prop} {pairs : List (String × Value)}
    (hpairs : ∀ e ∈ pairs, ¬ keys e.1) {operations : List Operation}
    (hbound : ∀ e ∈ bindings operations, ¬ keys e.1)
    (hwithin : ∀ operation ∈ besides operations, operation.Within keys) {w w' : Workbench}
    (hw : Workbench.Alike (Builder.Alike (Binds pairs)) w w') :
    (∃ u u', performAll (besides operations) w = .ok () u ∧ performAll operations w' = .ok () u' ∧
        Workbench.Alike (Builder.Alike (Binds ((bindings operations).reverse ++ pairs))) u u') ∨
      ∃ e u u', performAll (besides operations) w = .error e u ∧
        performAll operations w' = .error e u' := by
  induction operations generalizing pairs w w' with
  | nil => exact .inl ⟨w, w', rfl, rfl, hw⟩
  | cons operation rest ih =>
    cases hbinding : operation.binding? with
    | some e =>
      -- This step is made in the second run alone.
      have hbindings : bindings (operation :: rest) = e :: bindings rest := by
        rw [bindings, List.filterMap_cons_some hbinding, bindings]
      have hbesides : besides (operation :: rest) = besides rest := by
        rw [besides, List.filter_cons_of_neg (by simp [hbinding]), besides]
      rw [hbindings] at hbound ⊢
      rw [hbesides] at hwithin ⊢
      have hall : ∀ x ∈ e :: pairs, ¬ keys x.1 :=
        List.forall_mem_cons.mpr ⟨hbound e List.mem_cons_self, hpairs⟩
      have hstep : Workbench.Alike (Builder.Alike (Binds (e :: pairs))) w
          { w' with builder := w'.builder.setParam e.1 e.2 } :=
        ⟨⟨hw.builder.dialect_eq, hw.builder.dataSource_eq, hw.builder.sanitizer_eq,
          hw.builder.text_eq, hw.builder.context_eq, hw.builder.aside.cons e.1 e.2⟩,
          hw.events_eq, hw.serial_eq⟩
      rw [List.reverse_cons, List.append_assoc, List.singleton_append,
        Operation.eq_setParam hbinding]
      exact ih hall (fun x hx => hbound x (List.mem_cons_of_mem _ hx)) hwithin hstep
    | none =>
      have hbindings : bindings (operation :: rest) = bindings rest := by
        rw [bindings, List.filterMap_cons_none hbinding, bindings]
      have hbesides : besides (operation :: rest) = operation :: besides rest := by
        rw [besides, List.filter_cons_of_pos (by simp [hbinding]), besides]
      rw [hbindings] at hbound ⊢
      rw [hbesides] at hwithin ⊢
      obtain ⟨hfirst, hrest⟩ := List.forall_mem_cons.mp hwithin
      obtain ⟨a, a', t, t', hrun, hrun', -, ht⟩ | ⟨e, t, t', hrun, hrun', -⟩ :=
        (inStep_within (tabular_binds hpairs) hfirst).runs hw
      · rw [performAll_cons_ok hrun, performAll_cons_ok hrun']
        exact ih hpairs hbound hrest ht
      · exact .inr ⟨e, t, t', bind_of_error hrun _, bind_of_error hrun' _⟩

theorem InStep.performAll {R : Workbench → Workbench → Prop} {operations : List Operation}
    (h : ∀ operation ∈ operations, ∃ S, InStep R S operation.run operation.run) :
    InStep R Eq (ParamSql.performAll operations) (ParamSql.performAll operations) := by
  induction operations with
  | nil => exact .pure rfl
  | cons operation rest ih =>
    obtain ⟨S, hfirst⟩ := h operation List.mem_cons_self
    exact hfirst.bind fun _ _ _ => ih fun o ho => h o (List.mem_cons_of_mem _ ho)

def rendered : Work (Reply × Reply) := do
  let text ← Operation.render.run
  let args ← Operation.args.run
  pure (text, args)

theorem outcome_rendered (w : Workbench) : outcome rendered w =
    .ok (.text w.builder.rendering.text, .values (some w.builder.rendering.args)) := by
  obtain ⟨w', hrender, hw'⟩ := Operation.run_render w
  rw [rendered, outcome, bind_of_ok hrender, bind_of_ok (Operation.run_args w'), hw']
  rfl

def renderedAfter (operations rest : List Operation) : Work (Reply × Reply) := do
  performAll operations
  performAll rest
  rendered

theorem outcome_rendered_of_binds {u u' : Workbench}
    (hu : Workbench.Alike (Builder.Alike (Binds [])) u u') {rest : List Operation}
    (hrest : ∀ operation ∈ rest, operation.turn? = none) :
    outcome (performAll rest >>= fun _ => rendered) u =
      outcome (performAll rest >>= fun _ => rendered) u' := by
  have hgoOn : InStep (Workbench.Alike (Builder.Alike (Binds []))) Eq (performAll rest)
      (performAll rest) :=
    .performAll fun operation ho => ⟨_, inStep_operation whole_binds_nil (hrest operation ho)⟩
  refine hgoOn.outcome_bind hu fun _ _ v v' _ hv => ?_
  rw [outcome_rendered, outcome_rendered, hv.builder.rendering_eq whole_binds_nil]

/-- Two runs that bind the same scalars to distinct keys, each at its own time, and beside that do
the same with other keys, end with the same bindings or fail for the same reason. -/
theorem performAll_reordered {operations operations' : List Operation}
    (hdistinct : ((bindings operations).map Prod.fst).Nodup)
    (hperm : (bindings operations).Perm (bindings operations'))
    (hbesides : besides operations = besides operations')
    (hwithin : ∀ operation ∈ besides operations,
      operation.Within (· ∉ (bindings operations).map Prod.fst)) (w : Workbench) :
    (∃ u u', performAll operations w = .ok () u ∧ performAll operations' w = .ok () u' ∧
        Workbench.Alike (Builder.Alike (Binds [])) u u') ∨
      ∃ e u u', performAll operations w = .error e u ∧ performAll operations' w = .error e u' := by
  have hbound : ∀ e ∈ bindings operations, ¬ e.1 ∉ (bindings operations).map Prod.fst :=
    fun e he hnot => hnot (List.mem_map_of_mem he)
  have hnone : ∀ e ∈ ([] : List (String × Value)), ¬ e.1 ∉ (bindings operations).map Prod.fst :=
    fun _ he => absurd he List.not_mem_nil
  have hstart : Workbench.Alike (Builder.Alike (Binds [])) w w :=
    ⟨⟨rfl, rfl, rfl, rfl, rfl, .refl _⟩, rfl, rfl⟩
  -- Both runs are compared with the one that binds nothing.
  have hfirst := performAll_besides hnone hbound hwithin hstart
  have hsecond := performAll_besides hnone (fun e he => hbound e (hperm.mem_iff.mpr he))
    (fun o ho => hwithin o (hbesides ▸ ho)) hstart
  rw [← hbesides] at hsecond
  rw [List.append_nil] at hfirst hsecond
  obtain ⟨v, u, hplain, hrun, hu⟩ | ⟨e, v, u, hplain, hrun⟩ := hfirst
  · rw [hplain] at hsecond
    obtain ⟨v', u', hv, hrun', hu'⟩ | ⟨e', v', u', hv, -⟩ := hsecond
    · cases hv
      have hlookup := Table.lookup_of_perm
        (((List.reverse_perm (bindings operations)).map Prod.fst).nodup_iff.mpr hdistinct)
        ((List.reverse_perm _).trans (hperm.trans (List.reverse_perm _).symm))
      have hbuilder : Builder.Alike (Binds []) u.builder u'.builder :=
        hu.builder.across hu'.builder (hu.builder.aside.across hu'.builder.aside hlookup)
      exact .inl ⟨u, u', hrun, hrun', hbuilder, hu'.events_eq.trans hu.events_eq.symm,
        hu'.serial_eq.trans hu.serial_eq.symm⟩
    · cases hv
  · rw [hplain] at hsecond
    obtain ⟨v', u', hv, -, -⟩ | ⟨e', v', u', hv, hrun'⟩ := hsecond
    · cases hv
    · cases hv
      exact .inr ⟨e, u, u', hrun, hrun'⟩

/-- The order of binding does not show in what is rendered: neither in how any text is converted
with tables that bind the same names to the same values, nor in what comes of two runs that bind
the same scalars to distinct keys, each at its own time, and beside that do the same with other
keys, whatever is done then. -/
theorem binding_order_does_not_show {parameters parameters' : Table Value}
    (hsame : Placeholder.BindAlike parameters parameters') (w : Workbench)
    (operations operations' rest : List Operation)
    (hdistinct : ((bindings operations).map Prod.fst).Nodup)
    (hperm : (bindings operations).Perm (bindings operations'))
    (hbesides : besides operations = besides operations')
    (hwithin : ∀ operation ∈ besides operations,
      operation.Within (· ∉ (bindings operations).map Prod.fst))
    (hrest : ∀ operation ∈ rest, operation.turn? = none) :
    (∀ sql style, Placeholder.convert sql parameters' style =
      Placeholder.convert sql parameters style) ∧
    (∀ b : Builder, { b with params := parameters' }.rendering =
      { b with params := parameters }.rendering) ∧
    outcome (renderedAfter operations rest) w = outcome (renderedAfter operations' rest) w := by
  refine ⟨fun sql style => Placeholder.convert_congr hsame sql style, hsame.rendering_eq, ?_⟩
  rw [renderedAfter, outcome, renderedAfter, outcome]
  obtain ⟨u, u', hrun, hrun', hu⟩ | ⟨e, u, u', hrun, hrun'⟩ :=
    performAll_reordered hdistinct hperm hbesides hwithin w
  · rw [bind_of_ok hrun, bind_of_ok hrun']
    exact outcome_rendered_of_binds hu hrest
  · rw [bind_of_error hrun, bind_of_error hrun']

/-- Keys that begin like one another, of which one is first needed after all are bound. -/
theorem binding_order_does_not_show_of_prefixes :
    let parameters : Table Value := .ofList [("a", .int 1), ("ab", .int 2)]
    let parameters' : Table Value :=
      .ofList [("n", .null), ("ab", .int 2), ("", .int 0), ("a", .int 1)]
    let w : Workbench :=
      { builder := { dialect := Database.postgreSql.dialect }, controller := none, serial := 0 }
    let text := ":ab, :a, :ab, :n"
    let operations : List Operation :=
      [.setParam "ab" (.int 2), .startWith "x = :ab", .setParam "abc" (.int 3),
        .appendParam "c" (.int 4), .setParam "a" (.int 1), .add "AND y = :a AND"]
    let operations' : List Operation :=
      [.setParam "a" (.int 1), .setParam "abc" (.int 3), .setParam "ab" (.int 2),
        .startWith "x = :ab", .appendParam "c" (.int 4), .add "AND y = :a AND"]
    let rest : List Operation := [.mustAdd "abc" "z"]
    (Placeholder.convert text parameters' .numeric).text = "$1, $2, $1, :n" ∧
      (Placeholder.convert text parameters .numeric).text = "$1, $2, $1, :n" ∧
      { w.builder with text, params := parameters' }.rendering =
        { w.builder with text, params := parameters }.rendering ∧
      outcome (renderedAfter operations rest) w = outcome (renderedAfter operations' rest) w := by
  intro parameters parameters' w text operations operations' rest
  have hsame : Placeholder.BindAlike parameters parameters' := by
    intro key hkey value hvalue
    have hnone : (Table.empty : Table Value).get? key = none := rfl
    simp only [parameters, parameters', Table.ofList, Table.insertAll_cons, Table.insertAll_nil,
      Table.get?_insert, if_neg hkey, hnone]
    by_cases hn : key = "n"
    · simp [hn, hvalue.symm]
    · by_cases ha : key = "a"
      · simp [ha]
      · simp [hn, ha]
  have helement (i : Nat) : Builder.elementKey "c" i ∉ ["ab", "abc", "a"] := by
    intro hmem
    have hlow : '_' ∈ (Builder.elementKey "c" i).toList := by simp [Builder.elementKey]
    rcases List.mem_cons.mp hmem with h | hmem
    · exact absurd (h ▸ hlow) (by decide)
    · rcases List.mem_pair.mp hmem with h | h <;> exact absurd (h ▸ hlow) (by decide)
  have hwithin : ∀ operation ∈ besides operations,
      operation.Within (· ∉ (bindings operations).map Prod.fst) :=
    List.forall_mem_cons.mpr ⟨rfl, List.forall_mem_cons.mpr
      ⟨⟨by decide, helement⟩, List.forall_mem_singleton.mpr rfl⟩⟩
  obtain ⟨hconvert, hrendering, houtcome⟩ := binding_order_does_not_show hsame w operations
    operations' rest (by decide) (List.reverse_perm (bindings operations)).symm rfl hwithin
    (by decide)
  have htext : (Placeholder.convert text parameters .numeric).text = "$1, $2, $1, :n" := by
    decide +kernel
  exact ⟨(congrArg Placeholder.Rendering.text (hconvert _ _)).trans htext, htext,
    hrendering { w.builder with text }, houtcome⟩

end ParamSql
