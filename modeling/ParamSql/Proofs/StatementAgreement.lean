import ParamSql.Builder.Expression
import ParamSql.Configuration
import ParamSql.Proofs.BindingOrder

/-!
# What a statement does not depend on

Two builders agree when they hold the same statement, with the same tables, and will write on in the
same way. Nothing is asked of the nesting of their transactions, and of the arguments of the last
rendering only when these are to be looked at. Every request that is not about a transaction leaves
them in agreement and is answered alike, and rendering makes their arguments the same.
-/

namespace ParamSql
namespace Builder

namespace Aside

/-- The same tables, with the keys in the same order, and on demand the same arguments of the last
rendering. -/
structure Same (withArgs : Bool) (a a' : Aside) : Prop where
  params_eq : a'.params = a.params
  sets_eq : a'.sets = a.sets
  args_eq : withArgs = true → a'.args = a.args

theorem whole_same (withArgs : Bool) : Whole (Same withArgs) where
  binding_eq h key _ := by rw [binding, binding, h.params_eq, h.sets_eq]
  bind h key _ value := ⟨by rw [h.params_eq], by rw [h.sets_eq], h.args_eq⟩
  put h key _ value := ⟨by rw [h.params_eq], h.sets_eq, h.args_eq⟩
  list h key _ values := ⟨h.params_eq, by rw [h.sets_eq], h.args_eq⟩
  reset _ := ⟨rfl, rfl, fun _ => rfl⟩
  render h args := ⟨h.params_eq, h.sets_eq, fun _ => rfl⟩

end Aside

theorem Alike.eq {b b' : Builder} (h : Alike Eq b b') : b = b' := by
  have haside := h.aside
  cases b
  cases b'
  obtain ⟨rfl, rfl, rfl, rfl, rfl, -⟩ := h
  cases haside
  rfl

/-- Two builders agree: dialect, collaborators, text, context and tables are the same, and on demand
the arguments of the last rendering. -/
abbrev Agree (withArgs : Bool) : Builder → Builder → Prop := Alike (Aside.Same withArgs)

namespace Agree

variable {withArgs : Bool} {b b' other other' : Builder}

theorem refl (b : Builder) : Agree withArgs b b :=
  ⟨rfl, rfl, rfl, rfl, rfl, rfl, rfl, fun _ => rfl⟩

theorem symm (h : Agree withArgs b b') : Agree withArgs b' b :=
  ⟨h.dialect_eq.symm, h.dataSource_eq.symm, h.sanitizer_eq.symm, h.text_eq.symm,
    h.context_eq.symm, h.aside.params_eq.symm, h.aside.sets_eq.symm,
    fun hargs => (h.aside.args_eq hargs).symm⟩

theorem params_eq (h : Agree withArgs b b') : b'.params = b.params := h.aside.params_eq

theorem sets_eq (h : Agree withArgs b b') : b'.sets = b.sets := h.aside.sets_eq

/-- A copy agrees with its original, which may have been rendered and be inside a transaction. -/
theorem clone (b : Builder) : Agree false b b.clone :=
  ⟨rfl, rfl, rfl, rfl, rfl, rfl, rfl, fun h => absurd h Bool.false_ne_true⟩

theorem clone_eq (h : Agree withArgs b b') : b'.clone = b.clone := by
  have haside : b'.clone.aside = b.clone.aside := by
    simp only [Builder.clone, Builder.aside, h.params_eq, h.sets_eq]
  exact Alike.eq ⟨h.dialect_eq.symm, h.dataSource_eq.symm, h.sanitizer_eq.symm, h.text_eq.symm,
    h.context_eq.symm, haside⟩

/-- A builder without its statement agrees with a new one, also in having no arguments. -/
theorem reset_new (b : Builder) :
    Agree withArgs b.reset (Configuration.mk b.dialect b.dataSource b.sanitizer).builder :=
  ⟨rfl, rfl, rfl, rfl, rfl, rfl, rfl, fun _ => rfl⟩

theorem namedArgs_eq (h : Agree withArgs b b') : b'.namedArgs = b.namedArgs := by
  rw [namedArgs, namedArgs, h.params_eq, h.sets_eq]

theorem mergeParams (h : Agree withArgs b b') (hother : Agree withArgs other other') :
    Agree withArgs (b.mergeParams other) (b'.mergeParams other') where
  dialect_eq := h.dialect_eq
  dataSource_eq := h.dataSource_eq
  sanitizer_eq := h.sanitizer_eq
  text_eq := h.text_eq
  context_eq := h.context_eq
  aside :=
    { params_eq := congrArg₂ Table.merge h.params_eq hother.params_eq
      sets_eq := by
        change mergedSets b'.sets other' = mergedSets b.sets other
        rw [mergedSets, mergedSets, h.sets_eq, hother.sets_eq, hother.params_eq]
      args_eq := h.aside.args_eq }

theorem applyFilter (h : Agree withArgs b b') (hother : Agree withArgs other other') :
    Agree withArgs (b.applyFilter other) (b'.applyFilter other') := by
  rw [Builder.applyFilter, Builder.applyFilter, hother.text_eq, h.context_eq]
  refine mergeParams ?_ hother
  split
  · exact h
  · exact h.write _

theorem addSubQuery (h : Agree withArgs b b') (hother : Agree withArgs other other')
    (column : String) :
    Agree withArgs (b.addSubQuery other column) (b'.addSubQuery other' column) := by
  rw [Builder.addSubQuery, Builder.addSubQuery, h.context_eq, h.quote_eq, hother.text_eq]
  exact mergeParams (h.write _) hother

theorem sharing_eq (h : Agree withArgs b b') (hother : Agree withArgs other other') :
    Workbench.sharing b' other' = Workbench.sharing b other := by
  rw [Workbench.sharing, Workbench.sharing, h.dataSource_eq, h.sanitizer_eq, hother.dataSource_eq,
    hother.sanitizer_eq]

theorem render (h : Agree withArgs b b') : Agree true b.render b'.render := by
  have hrendering := h.rendering_eq (Aside.whole_same withArgs)
  exact ⟨h.dialect_eq, h.dataSource_eq, h.sanitizer_eq, h.text_eq, h.context_eq, h.params_eq,
    h.sets_eq, fun _ => congrArg Placeholder.Rendering.args hrendering⟩

theorem expression {ε : Type} (parser : SqlParser ε) (h : Agree withArgs b b') :
    (∃ e, Builder.expression parser b = .ok e b ∧ Builder.expression parser b' = .ok e b') ∨
      ∃ d, Builder.expression parser b = .error d b ∧
        Builder.expression parser b' = .error d b' := by
  rw [Builder.expression, get_bind, get_bind, h.dialect_eq, h.text_eq]
  cases parser b.dialect.parserName b.text with
  | ok e => exact .inl ⟨e, rfl, rfl⟩
  | error reason => exact .inr ⟨_, rfl, rfl⟩

end Agree

end Builder

theorem Reply.Alike.eq {reply reply' : Reply} (h : Reply.Alike (Builder.Alike Eq) reply reply') :
    reply = reply' := by
  cases h with
  | same => rfl
  | derived hcopies => exact congrArg Reply.derived hcopies.eq

/-- Whether the operation is about the statement and not about transactions. The arguments of the
last rendering are asked for on demand only. -/
def Operation.isAboutStatement (withArgs : Bool) : Operation → Bool
  | args => withArgs
  | beginTransaction | commitTransaction | rollbackTransaction => false
  | _ => true

namespace Request

def isAboutStatement {ρ : Type} (withArgs : Bool) : Request ρ → Bool
  | own operation => operation.isAboutStatement withArgs
  | _ => true

inductive Alike {ρ ρ' : Type} (R : ρ → ρ' → Prop) : Request ρ → Request ρ' → Prop
  | own (operation : Operation) : Alike R (.own operation) (.own operation)
  | applyFilter {filter : Option ρ} {filter' : Option ρ'} (h : Option.Rel R filter filter') :
      Alike R (.applyFilter filter) (.applyFilter filter')
  | addSubQuery {query : ρ} {query' : ρ'} (h : R query query') (column : String) :
      Alike R (.addSubQuery query column) (.addSubQuery query' column)
  | compareCollaborators {other : ρ} {other' : ρ'} (h : R other other') :
      Alike R (.compareCollaborators other) (.compareCollaborators other')

end Request

section Simulation

open Builder Workbench

variable {withArgs : Bool}

theorem inStep_statement_operation {operation : Operation}
    (h : operation.isAboutStatement withArgs = true) :
    InStep (Workbench.Alike (Agree withArgs)) Eq operation.run operation.run := by
  have hcopies {b b' : Builder} (hb : Agree withArgs b b') : b.clone.aside = b'.clone.aside :=
    (congrArg aside hb.clone_eq).symm
  by_cases hshows : operation.showsTables = true
  · cases operation with
    | args =>
      exact .answer (fun b => .values (some b.args))
        fun _ _ hb => congrArg (Reply.values ∘ some) (hb.aside.args_eq h).symm
    | namedArgs =>
      exact .answer (fun b => .table b.namedArgs)
        fun _ _ hb => congrArg Reply.table hb.namedArgs_eq.symm
    | clone =>
      exact .answer (fun b => .derived b.clone)
        fun _ _ hb => congrArg Reply.derived hb.clone_eq.symm
    | cloneAsAggregate aggregate =>
      exact (inStep_cloneAsAggregate Eq hcopies aggregate).mono fun _ _ => Reply.Alike.eq
    | cloneForTotals pager aggregate =>
      exact (inStep_cloneForTotals Eq hcopies pager aggregate).mono fun _ _ => Reply.Alike.eq
    | _ => cases hshows
  · have hturn : operation.turn? = none := by
      cases operation with
      | beginTransaction => cases h
      | commitTransaction => cases h
      | rollbackTransaction => cases h
      | _ => rfl
    exact (inStep_operation (Aside.whole_same withArgs) hturn).mono
      fun _ _ hreply => hreply (eq_false_of_ne_true hshows)

/-- So is a request, when it is about other builders that agree, be they the same one, different
ones or the builders themselves. -/
theorem inStep_statement_request {request request' : Request Builder}
    (halike : Request.Alike (Agree withArgs) request request')
    (h : request.isAboutStatement withArgs = true) :
    InStep (Workbench.Alike (Agree withArgs)) Eq request.run request'.run := by
  cases halike with
  | own operation => exact inStep_statement_operation h
  | applyFilter hfilter =>
    cases hfilter with
    | none => exact .change fun _ _ hb => hb
    | some hother => exact .change fun _ _ hb => hb.applyFilter hother
  | addSubQuery hquery column => exact .change fun _ _ hb => hb.addSubQuery hquery column
  | compareCollaborators hother =>
    exact .get_bind fun _ _ hw => .pure (congrArg Reply.sharing (hw.builder.sharing_eq hother).symm)

/-- Once both have been rendered, even the arguments are the same. -/
theorem endAlike_render {w w' : Workbench} (hw : Workbench.Alike (Agree withArgs) w w') :
    EndAlike (Workbench.Alike (Agree true)) Eq (Operation.render.run w)
      (Operation.render.run w') := by
  obtain ⟨t, hrun, ht⟩ := Operation.run_render w
  obtain ⟨t', hrun', ht'⟩ := Operation.run_render w'
  have hstatement : Operation.render.isAboutStatement withArgs = true := rfl
  have hends := inStep_statement_operation hstatement w w' hw
  rw [hrun, hrun'] at hends ⊢
  cases hends with
  | ok hreply hstates =>
    refine .ok hreply ⟨?_, hstates.events_eq, hstates.serial_eq⟩
    rw [ht, ht']
    exact hw.builder.render

end Simulation
end ParamSql
