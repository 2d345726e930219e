import ParamSql.Proofs.BindingRun
import ParamSql.Proofs.Bindings
import ParamSql.Proofs.Changes

/-!
# The keys of elements

Writing a list binds each of its elements under a key made from the key of the list and the number
of the element. The elements have keys of their own, none of them that of the list, and apart from
these every binding stays. No other care is taken: a key that was bound before and happens to be
that of an element now stands for the element, also where it has been written already.
-/

namespace ParamSql
namespace Builder

theorem elementKey_inj {key : String} {i j : Nat} :
    elementKey key i = elementKey key j ↔ i = j := by
  refine ⟨fun h => ?_, fun h => h ▸ rfl⟩
  have hlists := congrArg String.toList h
  simpa [elementKey, Text.decimal_inj] using hlists

theorem elementKey_ne (key : String) (i : Nat) : elementKey key i ≠ key := by
  intro h
  have hlength := congrArg String.length h
  have hline : "_".length = 1 := rfl
  simp only [elementKey, String.length_append] at hlength
  omega

theorem Rewritten.binding_eq {b b' : Builder} (h : Rewritten b b') (k : String) :
    b'.binding k = b.binding k := by
  obtain ⟨text, rfl⟩ := h
  rfl

/-- The elements are bound under their keys, the first under the given number, and nothing else is
bound anew. -/
structure BindsElements (key : String) (i : Nat) (values : List Value) (b b' : Builder) : Prop where
  element : ∀ j v, values[j]? = some v → b'.binding (elementKey key (i + j)) = (some v, none)
  other : ∀ k, (∀ j < values.length, k ≠ elementKey key (i + j)) → b'.binding k = b.binding k

theorem bindsElements (b : Builder) (key : String) (i : Nat) (values : List Value) :
    BindsElements key i values b (b.bindElements key i values) := by
  induction values generalizing b i with
  | nil => exact ⟨fun j v hv => absurd hv (by simp), fun _ _ => rfl⟩
  | cons value values ih =>
    obtain ⟨helement, hother⟩ := ih (b.setParam (elementKey key i) value) (i + 1)
    refine ⟨?_, ?_⟩
    · intro j v hv
      cases j with
      | zero =>
        cases hv
        refine (hother (elementKey key i) ?_).trans ?_
        -- The elements after the first have other numbers, and so other keys.
        · intro j _ h
          have hij := elementKey_inj.mp h
          omega
        · rw [binding_setParam, if_pos rfl]
      | succ j =>
        have hj := helement j v hv
        rwa [show i + 1 + j = i + (j + 1) by omega] at hj
    · intro k hk
      refine (hother k ?_).trans ?_
      · intro j hj h
        refine hk (j + 1) (Nat.succ_lt_succ hj) ?_
        rw [h, show i + 1 + j = i + (j + 1) by omega]
      · have hfirst : k ≠ elementKey key i := hk 0 (Nat.succ_pos _)
        rw [binding_setParam, if_neg hfirst]

/-- The data for a key is a list of values, which is bound or will be had from the data source. -/
def HasList (b : Builder) (key : String) (values : List Value) : Prop :=
  (key ∈ b.params ∧ b.sets.get? key = some (some values)) ∨
    (key ∉ b.params ∧ ∃ source, b.dataSource = some source ∧
      source.value.isListValued key = .ok true ∧ source.value.values key = .ok (some (.ok values)))

theorem bindsElements_written {b : Builder} {key : String} {values : List Value}
    (h : b.sets.get? key = some (some values)) (column : String) :
    BindsElements key 1 values b (b.written column key) := by
  by_cases hne : values = []
  · subst hne
    rw [written_of_elements_eq_nil (elements_of_set h)]
    exact ⟨fun j v hv => absurd hv (by simp),
      fun k _ => (b.rewritten_writeScalar column key).binding_eq k⟩
  · rw [written_of_mem_sets h hne]
    obtain ⟨helement, hother⟩ := b.bindsElements key 1 values
    exact ⟨helement, hother⟩

theorem ask_of_ok {α : Type} {b : Builder} {source : Installed DataSource}
    (hsource : b.dataSource = some source) {question : DataSource → Except Failure α} {answer : α}
    (h : question source.value = .ok answer) (otherwise : α) :
    ask question otherwise b = .ok answer b := by
  simp only [ask, get_bind, hsource, h]
  rfl

theorem pull_of_unbound {b : Builder} {key : String} {source : Installed DataSource}
    (hbound : key ∉ b.params) (hsource : b.dataSource = some source) :
    pull key b =
      (ask (·.isListValued key) false >>= fun isList =>
        if isList then ask (·.values key) none >>= takeSet key
        else ask (·.value key) .null >>= fun value => modify (·.setParam key value)) b := by
  have hcond : (b.dataSource.isNone || decide (key ∈ b.params)) = false := by
    simp [hsource, hbound]
  rw [pull, get_bind, hcond, if_neg Bool.false_ne_true]

theorem pull_of_list {b : Builder} {key : String} {given : Option Sequence}
    {values : Option (List Value)} {source : Installed DataSource} (hbound : key ∉ b.params)
    (hsource : b.dataSource = some source) (hlist : source.value.isListValued key = .ok true)
    (hgiven : source.value.values key = .ok given)
    (hvalues : Sequence.elements? given = .ok values) :
    pull key b = .ok () (b.setParamSet key values) := by
  have hlisted : ask (·.isListValued key) false b = .ok true b := ask_of_ok hsource hlist false
  have hasked : ask (·.values key) none b = .ok given b := ask_of_ok hsource hgiven none
  rw [pull_of_unbound hbound hsource, bind_of_ok hlisted, if_pos rfl, bind_of_ok hasked]
  exact takeSet_of_ok hvalues b

/-- Whichever way the list comes, it is bound when it is written. -/
theorem mustAdd_of_hasList {b : Builder} {key : String} {values : List Value}
    (h : b.HasList key values) (column : String) :
    ∃ b₁ : Builder, b₁.sets.get? key = some (some values) ∧
      (∀ k ≠ key, b₁.binding k = b.binding k) ∧
        mustAdd key column b = .ok () (b₁.written column key) := by
  rcases h with ⟨hbound, hset⟩ | ⟨hbound, source, hsource, hlist, hvalues⟩
  · exact ⟨b, hset, fun _ _ => rfl, mustAdd_of_mem hbound column⟩
  · refine ⟨b.setParamSet key (some values), Table.get?_insert_self _ _ _, ?_, ?_⟩
    · intro k hk
      rw [binding_setParamSet, if_neg hk]
    · have hmem : key ∈ (b.setParamSet key (some values)).params :=
        Table.mem_insert_self _ _ _
      have hpull := pull_of_list hbound hsource hlist hvalues rfl
      exact (bind_of_ok hpull _).trans (writeParam_of_bound hmem column)

theorem addIfDefined_of_defined {b : Builder} {source : Installed DataSource} {key : String}
    (hsource : b.dataSource = some source) (hdefined : source.value.isDefined key = .ok true)
    (column : String) : addIfDefined key column b = mustAdd key column b := by
  have hasked : ask (·.isDefined key) false b = .ok true b := ask_of_ok hsource hdefined false
  rw [addIfDefined, bind_of_ok hasked, if_pos rfl]

end Builder

open Builder

/-- Writing a list binds each element under the key of its number, whatever was bound there before.
Of the other keys, none but that of the list is bound anew. -/
theorem writing_a_list_binds_elements {w : Workbench} {key : String} {values : List Value}
    (h : w.builder.HasList key values) (column : String) :
    ∃ b : Builder, Operation.run (.mustAdd key column) w = .ok .itself { w with builder := b } ∧
      (∀ source, w.builder.dataSource = some source → source.value.isDefined key = .ok true →
        Operation.run (.addIfDefined key column) w = .ok .itself { w with builder := b }) ∧
      b.sets.get? key = some (some values) ∧
      (∀ i v, values[i]? = some v → b.binding (elementKey key (i + 1)) = (some v, none)) ∧
      ∀ k ≠ key, (∀ i < values.length, k ≠ elementKey key (i + 1)) →
        b.binding k = w.builder.binding k := by
  obtain ⟨b₁, hset, hothers, hrun⟩ := mustAdd_of_hasList h column
  obtain ⟨helement, hother⟩ := bindsElements_written hset column
  simp only [Nat.add_comm 1] at helement hother
  refine ⟨b₁.written column key, Workbench.attempt_of_ok hrun, ?_, ?_, helement, ?_⟩
  · intro source hsource hdefined
    exact Workbench.attempt_of_ok ((addIfDefined_of_defined hsource hdefined column).trans hrun)
  · have hkey := hother key fun i _ => (elementKey_ne key (i + 1)).symm
    exact (congrArg Prod.snd hkey).trans hset
  · intro k hk helements
    exact (hother k helements).trans (hothers k hk)

theorem writing_a_list_binds_elements_of_pulled :
    let source : DataSource := .ofTable (.ofList [("id", .collection .list [.int 7, .int 8])])
    let b : Builder :=
      { dialect := Database.mySql.dialect, dataSource := some ⟨0, source⟩
        params := .ofList [("id_1", .int 5), ("id_3", .int 6)] }
    let w : Workbench := { builder := b, controller := none, serial := 1 }
    b.HasList "id" [.int 7, .int 8] ∧
      ∃ b' : Builder, Operation.run (.addIfDefined "id" "i d") w =
          .ok .itself { w with builder := b' } ∧
        b'.binding "id_2" = (some (.int 8), none) ∧ b'.binding "id_3" = (some (.int 6), none) := by
  intro source b w
  have hlist : b.HasList "id" [.int 7, .int 8] :=
    Or.inr ⟨by decide, ⟨0, source⟩, rfl, rfl, rfl⟩
  obtain ⟨b', -, hrun, -, helement, hother⟩ :=
    writing_a_list_binds_elements (w := w) hlist "i d"
  refine ⟨hlist, b', hrun _ rfl rfl, helement 1 _ rfl, ?_⟩
  refine hother "id_3" (by decide) ?_
  decide

/-- A placeholder that stands for the value of its key may come to stand for an element, even for
one from a data source, which is not asked about bound keys. -/
theorem element_takes_over_bound_key :
    let source : DataSource := .ofTable (.ofList [("id", .collection .list [.int 7, .int 8])])
    let b : Builder :=
      { dialect := Database.postgreSql.dialect, dataSource := some ⟨0, source⟩ }
    let w : Workbench := { builder := b, controller := none, serial := 1 }
    let operations : List Operation :=
      [.startWith "SELECT * FROM t", .startWhere, .setParam "id_1" (.int 5), .mustAdd "id_1" "a",
        .setGlue " AND "]
    ∃ w₁ w₂, performAll operations w = .ok () w₁ ∧ w₁.builder.HasList "id" [.int 7, .int 8] ∧
      Operation.run (.mustAdd "id" "id") w₁ = .ok .itself w₂ ∧
      w₂.builder.text = "SELECT * FROM t WHERE \"a\"=:id_1 AND \"id\" IN (:id_1,:id_2)" ∧
      w₁.builder.binding "id_1" = (some (.int 5), none) ∧
      w₂.builder.binding "id_1" = (some (.int 7), none) := by
  intro source b w operations
  refine ⟨_, _, rfl, Or.inr ⟨by decide, ⟨0, source⟩, rfl, rfl, rfl⟩, rfl, ?_, rfl, rfl⟩
  decide +kernel

end ParamSql
