import ParamSql.Proofs.Bindings
import ParamSql.Proofs.Changes

/-!
# Two runs in step

The same change is made at two builders that differ in something which the change does not depend
on. Both runs then succeed with the same answer or fail for the same reason, and what they leave
differs no further. What a builder writes does not depend on its parameters, its transactions or
its last rendering at all; what it does with a parameter depends on the bindings alone, not on
their order.
-/

namespace ParamSql

/-- Two runs end alike: both succeed with related answers, or both fail for the same reason. Either
way they leave related states. -/
inductive EndAlike {σ α : Type} (R : σ → σ → Prop) (S : α → α → Prop) :
    EStateM.Result Failure σ α → EStateM.Result Failure σ α → Prop
  | ok {a a' : α} {s s' : σ} (answers : S a a') (states : R s s') :
      EndAlike R S (.ok a s) (.ok a' s')
  | error {e : Failure} {s s' : σ} (states : R s s') : EndAlike R S (.error e s) (.error e s')

def InStep {σ α : Type} (R : σ → σ → Prop) (S : α → α → Prop)
    (change change' : EStateM Failure σ α) : Prop :=
  ∀ s s', R s s' → EndAlike R S (change s) (change' s')

namespace InStep

variable {σ α β : Type} {R : σ → σ → Prop} {S : α → α → Prop} {T : β → β → Prop}
variable {change change' : EStateM Failure σ α} {next next' : α → EStateM Failure σ β}

theorem pure {a a' : α} (h : S a a') : InStep R S (Pure.pure a) (Pure.pure a') :=
  fun _ _ hs => .ok h hs

theorem throw (e : Failure) :
    InStep R S (MonadExcept.throw e : EStateM Failure σ α) (MonadExcept.throw e) :=
  fun _ _ hs => .error hs

theorem ofExcept (answer : Except Failure α) :
    InStep R Eq (MonadExcept.ofExcept answer : EStateM Failure σ α)
      (MonadExcept.ofExcept answer) := by
  intro s s' hs
  cases answer with
  | ok a => exact .ok rfl hs
  | error e => exact .error hs

theorem modifying {f f' : σ → σ} (h : ∀ s s', R s s' → R (f s) (f' s')) :
    InStep R Eq (modify f : EStateM Failure σ PUnit) (modify f') :=
  fun s s' hs => .ok rfl (h s s' hs)

theorem runs (h : InStep R S change change') {s s' : σ} (hs : R s s') :
    (∃ a a' t t', change s = .ok a t ∧ change' s' = .ok a' t' ∧ S a a' ∧ R t t') ∨
      ∃ e t t', change s = .error e t ∧ change' s' = .error e t' ∧ R t t' := by
  have hends := h s s' hs
  generalize change s = result at hends
  generalize change' s' = result' at hends
  cases hends with
  | ok answers states => exact .inl ⟨_, _, _, _, rfl, rfl, answers, states⟩
  | error states => exact .inr ⟨_, _, _, rfl, rfl, states⟩

theorem bind (first : InStep R S change change')
    (last : ∀ a a', S a a' → InStep R T (next a) (next' a')) :
    InStep R T (change >>= next) (change' >>= next') := by
  intro s s' hs
  obtain ⟨a, a', t, t', hrun, hrun', answers, states⟩ | ⟨e, t, t', hrun, hrun', states⟩ :=
    first.runs hs
  · rw [bind_of_ok hrun, bind_of_ok hrun']
    exact last a a' answers t t' states
  · rw [bind_of_error hrun, bind_of_error hrun']
    exact .error states

theorem mono {T : α → α → Prop} (h : InStep R S change change') (hS : ∀ a a', S a a' → T a a') :
    InStep R T change change' := by
  intro s s' hs
  obtain ⟨a, a', t, t', hrun, hrun', answers, states⟩ | ⟨e, t, t', hrun, hrun', states⟩ := h.runs hs
  · rw [hrun, hrun']
    exact .ok (hS a a' answers) states
  · rw [hrun, hrun']
    exact .error states

/-- Runs that answer the same go on with the same answer. -/
theorem andThen (first : InStep R Eq change change')
    (last : ∀ a, InStep R T (next a) (next' a)) :
    InStep R T (change >>= next) (change' >>= next') :=
  first.bind fun a _ same => same ▸ last a

/-- After a look at the states the runs may go on differently. -/
theorem get_bind {next next' : σ → EStateM Failure σ β}
    (h : ∀ s s', R s s' → InStep R T (next s) (next' s')) :
    InStep R T (MonadState.get >>= next) (MonadState.get >>= next') :=
  fun s s' hs => h s s' hs s s' hs

/-- Changes that end alike and are followed by the like have the same outcome. -/
theorem outcome_bind {s s' : σ} (first : InStep R S change change') (hs : R s s')
    (last : ∀ a a' t t', S a a' → R t t' → outcome (next a) t = outcome (next' a') t') :
    outcome (change >>= next) s = outcome (change' >>= next') s' := by
  obtain ⟨a, a', t, t', hrun, hrun', answers, states⟩ | ⟨e, t, t', hrun, hrun', states⟩ :=
    first.runs hs
  · have hrest := last a a' t t' answers states
    rwa [outcome, bind_of_ok hrun, outcome, bind_of_ok hrun']
  · rw [outcome, bind_of_error hrun, outcome, bind_of_error hrun']

end InStep

namespace Builder

/-- Two builders have written the same text and write on in the same way. Beside the text they are
related by `Q`. -/
structure Alike (Q : Aside → Aside → Prop) (b b' : Builder) : Prop where
  dialect_eq : b'.dialect = b.dialect
  dataSource_eq : b'.dataSource = b.dataSource
  sanitizer_eq : b'.sanitizer = b.sanitizer
  text_eq : b'.text = b.text
  context_eq : b'.context = b.context
  aside : Q b.aside b'.aside

namespace Alike

variable {Q : Aside → Aside → Prop} {b b' : Builder}

theorem quote_eq (h : Alike Q b b') (identifier : String) :
    b'.quote identifier = b.quote identifier :=
  congrArg (·.quote identifier) h.dialect_eq

theorem literal_eq (h : Alike Q b b') : b'.literal = b.literal := by
  unfold literal
  rw [h.dialect_eq, h.text_eq]

theorem rewriting (h : Alike Q b b') {text text' : String} {context context' : Context}
    (htext : text' = text) (hcontext : context' = context) :
    Alike Q { b with text := text, context := context }
      { b' with text := text', context := context' } :=
  ⟨h.dialect_eq, h.dataSource_eq, h.sanitizer_eq, htext, hcontext, h.aside⟩

theorem startWith (h : Alike Q b b') (text : String) :
    Alike Q (b.startWith text) (b'.startWith text) :=
  h.rewriting rfl h.context_eq

theorem write (h : Alike Q b b') (text : String) : Alike Q (b.write text) (b'.write text) :=
  h.rewriting (congrArg (· ++ text) h.text_eq) h.context_eq

theorem add (h : Alike Q b b') (text : String) : Alike Q (b.add text) (b'.add text) :=
  h.write _

theorem startFilter (h : Alike Q b b') : Alike Q b.startFilter b'.startFilter :=
  h.rewriting (congrArg Dialect.trueLiteral h.dialect_eq)
    (congrArg Context.startFilter h.context_eq)

theorem startWhere (h : Alike Q b b') : Alike Q b.startWhere b'.startWhere :=
  h.rewriting h.text_eq (congrArg Context.startWhere h.context_eq)

theorem endWhere (h : Alike Q b b') : Alike Q b.endWhere b'.endWhere :=
  h.rewriting h.text_eq (congrArg Context.endWhere h.context_eq)

theorem setGlue (h : Alike Q b b') (glue : String) : Alike Q (b.setGlue glue) (b'.setGlue glue) :=
  h.rewriting h.text_eq (congrArg (fun context => { context with glue }) h.context_eq)

theorem setOperator (h : Alike Q b b') (operator : String) :
    Alike Q (b.setOperator operator) (b'.setOperator operator) :=
  h.rewriting h.text_eq (congrArg (·.withOperator operator) h.context_eq)

theorem addFieldList (h : Alike Q b b') (fields : List String) :
    Alike Q (b.addFieldList fields) (b'.addFieldList fields) := by
  rw [Builder.addFieldList, Builder.addFieldList, h.context_eq]
  exact h.add _

theorem orderBy (h : Alike Q b b') (order : SortList) :
    Alike Q (b.orderBy order) (b'.orderBy order) := by
  rw [Builder.orderBy, Builder.orderBy]
  split
  · exact h
  · exact (h.add _).add _

theorem across {Q' Q'' : Aside → Aside → Prop} {b'' : Builder} (h : Alike Q b b')
    (h' : Alike Q' b b'') (haside : Q'' b'.aside b''.aside) : Alike Q'' b' b'' :=
  ⟨h'.dialect_eq.trans h.dialect_eq.symm, h'.dataSource_eq.trans h.dataSource_eq.symm,
    h'.sanitizer_eq.trans h.sanitizer_eq.symm, h'.text_eq.trans h.text_eq.symm,
    h'.context_eq.trans h.context_eq.symm, haside⟩

theorem selectFields? (h : Alike Q b b') (fields : List String) :
    (b.selectFields? fields = none ∧ b'.selectFields? fields = none) ∨
      ∃ text, b.selectFields? fields = some (b.startWith text) ∧
        b'.selectFields? fields = some (b'.startWith text) := by
  rw [Builder.selectFields?, Builder.selectFields?, h.text_eq]
  cases FieldList.replace? b.text fields with
  | none => exact .inl ⟨rfl, rfl⟩
  | some text => exact .inr ⟨text, rfl, rfl⟩

end Alike

end Builder

namespace Workbench

/-- Two workbenches at which the builders are related and the same was recorded and installed. -/
structure Alike (R : Builder → Builder → Prop) (w w' : Workbench) : Prop where
  builder : R w.builder w'.builder
  events_eq : w'.events = w.events
  serial_eq : w'.serial = w.serial

end Workbench

namespace InStep

open Workbench

variable {R : Builder → Builder → Prop} {α : Type} {S : α → α → Prop}

theorem build {change change' : Build α} (h : InStep R S change change') :
    InStep (Workbench.Alike R) S (Workbench.build change) (Workbench.build change') := by
  intro w w' hw
  unfold Workbench.build
  obtain ⟨a, a', b, b', hrun, hrun', answers, states⟩ | ⟨e, b, b', hrun, hrun', states⟩ :=
    h.runs hw.builder
  · rw [hrun, hrun']
    exact .ok answers ⟨states, hw.events_eq, hw.serial_eq⟩
  · rw [hrun, hrun']
    exact .error ⟨states, hw.events_eq, hw.serial_eq⟩

theorem attempt {f f' : Build Unit} (h : InStep R Eq f f') :
    InStep (Workbench.Alike R) Eq (Workbench.attempt f) (Workbench.attempt f') :=
  h.build.andThen fun _ => .pure rfl

theorem modifyBuilder {f f' : Builder → Builder} (h : ∀ b b', R b b' → R (f b) (f' b')) :
    InStep (Workbench.Alike R) Eq (Workbench.modifyBuilder f) (Workbench.modifyBuilder f') :=
  .modifying fun w w' hw => ⟨h w.builder w'.builder hw.builder, hw.events_eq, hw.serial_eq⟩

theorem change {f f' : Builder → Builder} (h : ∀ b b', R b b' → R (f b) (f' b')) :
    InStep (Workbench.Alike R) Eq (Workbench.change f) (Workbench.change f') :=
  (modifyBuilder h).andThen fun _ => .pure rfl

theorem answer {T : Reply → Reply → Prop} (f : Builder → Reply)
    (h : ∀ b b', R b b' → T (f b) (f b')) :
    InStep (Workbench.Alike R) T (Workbench.answer f) (Workbench.answer f) :=
  .get_bind fun w w' hw => .pure (h w.builder w'.builder hw.builder)

theorem install {f : Nat → Builder → Builder} (h : ∀ n b b', R b b' → R (f n b) (f n b')) :
    InStep (Workbench.Alike R) Eq (Workbench.install f) (Workbench.install f) := by
  refine andThen (.modifying fun w w' hw => ?_) fun _ => .pure rfl
  rw [hw.serial_eq]
  exact ⟨h w.serial w.builder w'.builder hw.builder, hw.events_eq, rfl⟩

theorem record (event : Event) :
    InStep (Workbench.Alike R) Eq (Workbench.record event) (Workbench.record event) :=
  .modifying fun _ _ hw =>
    ⟨hw.builder, congrArg (· ++ [event]) hw.events_eq, hw.serial_eq⟩

end InStep

/-! ## Writing text -/

/-- Whether the operation neither looks at the parameters nor changes them. -/
def Operation.ignoresParams : Operation → Bool
  | quote _ | startWith _ | startFilter | startWhere | endWhere | setGlue _ | setOperator _
  | setDataSource _ | setSanitizer _ | add _ | addFieldList _ | addSanitizedFieldList _
  | addLimit _ _ | applyPager _ | orderBy _ | orderBySanitized _ | selectFields _ | statement
  | literal | dialectName | context => true
  | _ => false

section Writing

open Builder Workbench

variable {Q : Builder.Aside → Builder.Aside → Prop}

theorem inStep_addSanitizedFieldList (requested : List String) :
    InStep (Builder.Alike Q) Eq (addSanitizedFieldList requested)
      (addSanitizedFieldList requested) := by
  refine .get_bind fun b b' h => ?_
  rw [h.sanitizer_eq]
  cases b.sanitizer with
  | none => exact .throw _
  | some sanitizer =>
    exact (InStep.ofExcept _).andThen fun fields => .modifying fun _ _ h => h.addFieldList fields

theorem inStep_orderBySanitized (requested : SortList) :
    InStep (Builder.Alike Q) Eq (orderBySanitized requested) (orderBySanitized requested) := by
  refine .get_bind fun b b' h => ?_
  rw [h.sanitizer_eq]
  cases b.sanitizer with
  | none => exact .pure rfl
  | some sanitizer =>
    exact (InStep.ofExcept _).andThen fun order => .modifying fun _ _ h => h.orderBy order

theorem inStep_addWords (words : List (Except Failure String)) :
    InStep (Builder.Alike Q) Eq (addWords words) (addWords words) := by
  induction words with
  | nil => exact .pure rfl
  | cons word words ih =>
    refine (InStep.ofExcept word).andThen fun word => ?_
    exact (InStep.modifying fun _ _ h => h.add word).andThen fun _ => ih

theorem inStep_addLimit (limit offset : Int) :
    InStep (Builder.Alike Q) Eq (addLimit limit offset) (addLimit limit offset) := by
  unfold addLimit
  split
  · exact .pure rfl
  · refine .get_bind fun b b' h => ?_
    rw [h.dialect_eq]
    exact inStep_addWords _

theorem inStep_applyPager (pager : Option Pager) :
    InStep (Builder.Alike Q) Eq (applyPager pager) (applyPager pager) := by
  cases pager with
  | none => exact .pure rfl
  | some pager =>
    refine (InStep.ofExcept _).andThen fun limit => ?_
    exact (InStep.ofExcept _).andThen fun offset => inStep_addLimit limit offset

theorem inStep_selecting {R : Builder → Builder → Prop} {b b' : Builder}
    (h : Builder.Alike Q b b') (fields : List String) :
    InStep (Workbench.Alike R) (Builder.Alike Q) (selecting b fields) (selecting b' fields) := by
  unfold selecting
  obtain ⟨hnone, hnone'⟩ | ⟨text, hsome, hsome'⟩ := h.selectFields? fields
  · rw [hnone, hnone']
    exact (InStep.record _).andThen fun _ => .pure h
  · rw [hsome, hsome']
    exact .pure (h.startWith text)

theorem inStep_selectFields (fields : List String) :
    InStep (Workbench.Alike (Builder.Alike Q)) Eq (Workbench.selectFields fields)
      (Workbench.selectFields fields) := by
  unfold Workbench.selectFields
  split
  · exact .pure rfl
  · refine .get_bind fun w w' hw => (inStep_selecting hw.builder fields).bind ?_
    exact fun selected selected' h => .change fun _ _ _ => h

theorem inStep_of_ignoresParams {operation : Operation} (h : operation.ignoresParams = true) :
    InStep (Workbench.Alike (Builder.Alike Q)) Eq operation.run operation.run := by
  cases operation with
  | quote identifier =>
    exact .answer (fun b => .text (b.quote identifier))
      fun _ _ h => congrArg Reply.text (h.quote_eq identifier).symm
  | startWith text => exact .change fun _ _ h => h.startWith text
  | startFilter => exact .change fun _ _ h => h.startFilter
  | startWhere => exact .change fun _ _ h => h.startWhere
  | endWhere => exact .change fun _ _ h => h.endWhere
  | setGlue glue => exact .change fun _ _ h => h.setGlue glue
  | setOperator operator => exact .change fun _ _ h => h.setOperator operator
  | setDataSource source =>
    exact .install (f := fun n b => { b with dataSource := source.map (⟨n, ·⟩) })
      fun n b b' h => ⟨h.dialect_eq, rfl, h.sanitizer_eq, h.text_eq, h.context_eq, h.aside⟩
  | setSanitizer sanitizer =>
    exact .install (f := fun n b => { b with sanitizer := sanitizer.map (⟨n, ·⟩) })
      fun n b b' h => ⟨h.dialect_eq, h.dataSource_eq, rfl, h.text_eq, h.context_eq, h.aside⟩
  | add text => exact .change fun _ _ h => h.add text
  | addFieldList fields => exact .change fun _ _ h => h.addFieldList fields
  | addSanitizedFieldList requested => exact .attempt (inStep_addSanitizedFieldList requested)
  | addLimit limit offset => exact .attempt (inStep_addLimit limit offset)
  | applyPager pager => exact .attempt (inStep_applyPager pager)
  | orderBy order => exact .change fun _ _ h => h.orderBy order
  | orderBySanitized requested => exact .attempt (inStep_orderBySanitized requested)
  | selectFields fields => exact inStep_selectFields fields
  | statement => exact .answer _ fun _ _ h => congrArg Reply.text h.text_eq.symm
  | literal => exact .answer _ fun _ _ h => congrArg Reply.text h.literal_eq.symm
  | dialectName =>
    exact .answer _ fun _ _ h => congrArg (Reply.text ∘ Dialect.name) h.dialect_eq.symm
  | context => exact .answer _ fun _ _ h => congrArg Reply.context h.context_eq.symm
  | _ => cases h

end Writing
end ParamSql
