import ParamSql.Proofs.ElementKeys

/-!
# Settled keys

A key is settled when nobody is asked about it any more: it is bound, or the builder has no data
source. Pulling a key settles it or fails. A pull that fails has only looked at the builder, unless
it was going through the values of a list. What is done with a settled key cannot fail.
-/

namespace ParamSql
namespace Builder

/-- Nobody is asked about the key any more. -/
def Settled (b : Builder) (key : String) : Prop := key ∈ b.params ∨ b.dataSource = none

inductive Pulled (b : Builder) (key : String) : Builder → Prop
  | settled (h : b.Settled key) : Pulled b key b
  | scalar (value : Value) : Pulled b key (b.setParam key value)
  | list (values : Option (List Value)) : Pulled b key (b.setParamSet key values)

variable {b b' : Builder} {key : String}

theorem settled_setParam (b : Builder) (key : String) (value : Value) :
    (b.setParam key value).Settled key :=
  Or.inl (Table.mem_insert_self _ _ _)

theorem settled_setParamSet (b : Builder) (key : String) (values : Option (List Value)) :
    (b.setParamSet key values).Settled key :=
  Or.inl (Table.mem_insert_self _ _ _)

theorem Pulled.settles (h : Pulled b key b') : b'.Settled key := by
  cases h with
  | settled h => exact h
  | scalar value => exact settled_setParam b key value
  | list values => exact settled_setParamSet b key values

theorem of_takeSet_eq_ok {given : Option Sequence} (h : takeSet key given b = .ok () b') :
    ∃ values, Sequence.elements? given = .ok values ∧ b' = b.setParamSet key values := by
  cases hvalues : Sequence.elements? given with
  | ok values =>
    rw [takeSet_of_ok hvalues] at h
    cases h
    exact ⟨values, rfl, rfl⟩
  | error e =>
    rw [takeSet_of_error hvalues] at h
    cases h

theorem pulled_of_pull (h : pull key b = .ok () b') : Pulled b key b' := by
  rw [pull, get_bind] at h
  split at h
  · next hsettled =>
    cases h
    refine .settled ?_
    simpa [Settled, or_comm] using hsettled
  · obtain ⟨isList, b₁, hasked, h⟩ := bind_eq_ok h
    obtain rfl := (looks_ask _ _).of_ok hasked
    split at h
    · obtain ⟨given, b₂, hasked, h⟩ := bind_eq_ok h
      obtain rfl := (looks_ask _ _).of_ok hasked
      obtain ⟨values, -, rfl⟩ := of_takeSet_eq_ok h
      exact .list values
    · obtain ⟨value, b₂, hasked, h⟩ := bind_eq_ok h
      obtain rfl := (looks_ask _ _).of_ok hasked
      cases h
      exact .scalar value

/-- The data source has a list for the unbound key, but going through its values breaks off. -/
def BreaksOff (b : Builder) (key : String) (e : Failure) : Prop :=
  key ∉ b.params ∧ ∃ source given, b.dataSource = some source ∧
    source.value.isListValued key = .ok true ∧ source.value.values key = .ok given ∧
      Sequence.elements? given = .error e

/-- A key that is not bound has no elements, whatever the sets hold. -/
theorem isParamASet_of_settled (h : b.Settled key) :
    isParamASet key b = .ok (decide (key ∈ b.params) && decide (key ∈ b.sets)) b := by
  by_cases hbound : key ∈ b.params
  · rw [isParamASet_of_bound hbound, decide_eq_true hbound, Bool.true_and]
  · have hsource : b.dataSource = none := h.resolve_left hbound
    rw [isParamASet, get_bind, if_neg hbound, decide_eq_false hbound, Bool.false_and, ask, get_bind,
      hsource]
    rfl

/-- The builder with a settled key written for a column, whether it is bound or not. -/
def afterWriting (b : Builder) (column key : String) : Builder :=
  if key ∈ b.params then b.written column key else b.writeScalar column key

theorem writeParam_of_settled (h : b.Settled key) (column : String) :
    writeParam column key b = .ok () (b.afterWriting column key) := by
  by_cases hbound : key ∈ b.params
  · rw [writeParam_of_bound hbound, afterWriting, if_pos hbound]
  · have hset : isParamASet key b = .ok false b := by
      rw [isParamASet_of_settled h, decide_eq_false hbound, Bool.false_and]
    rw [writeParam, bind_of_ok hset, afterWriting, if_neg hbound]
    rfl

theorem appendParam_eq (b : Builder) (key : String) (value : Value) :
    appendParam key value b = .ok () ((b.setParam key value).afterWriting key key) := by
  have hbind : (modify (·.setParam key value) : Build Unit) b = .ok () (b.setParam key value) := rfl
  rw [appendParam, bind_of_ok hbind, writeParam_of_settled (settled_setParam b key value)]

end Builder
end ParamSql
