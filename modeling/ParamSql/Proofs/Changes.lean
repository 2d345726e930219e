import Mathlib.Logic.Relation
import ParamSql.Session

/-!
# What a request can change

Whatever a request makes of a builder is made of single edits: a key is bound, a list is extended,
the parameters of another builder are taken over, the statement is dropped, or something changes
beside the tables. Only the three requests that begin or end a transaction move the nesting of
transactions or call the controller. All of this holds of a request that fails as well.
-/

namespace ParamSql

def remains {σ α : Type} (change : EStateM Failure σ α) (s : σ) : σ :=
  match change s with
  | .ok _ s' => s'
  | .error _ s' => s'

def outcome {σ α : Type} (change : EStateM Failure σ α) (s : σ) : Except Failure α :=
  match change s with
  | .ok a _ => .ok a
  | .error e _ => .error e

/-- What comes after a look at the state is done in that state. -/
theorem get_bind {ε σ α : Type} (next : σ → EStateM ε σ α) (s : σ) :
    (MonadState.get >>= next) s = next s s := rfl

/-- A sequence of two changes succeeds when both do. -/
theorem bind_eq_ok {σ α β : Type} {first : EStateM Failure σ α}
    {next : α → EStateM Failure σ β} {s u : σ} {b : β} (h : (first >>= next) s = .ok b u) :
    ∃ a t, first s = .ok a t ∧ next a t = .ok b u := by
  simp only [Bind.bind, EStateM.bind] at h
  cases hfirst : first s with
  | ok a t =>
    rw [hfirst] at h
    exact ⟨a, t, rfl, h⟩
  | error e t =>
    rw [hfirst] at h
    cases h

/-- It fails when the first one does, or the second one after it. -/
theorem bind_eq_error {σ α β : Type} {first : EStateM Failure σ α}
    {next : α → EStateM Failure σ β} {s u : σ} {e : Failure}
    (h : (first >>= next) s = .error e u) :
    first s = .error e u ∨ ∃ a t, first s = .ok a t ∧ next a t = .error e u := by
  simp only [Bind.bind, EStateM.bind] at h
  cases hfirst : first s with
  | ok a t =>
    rw [hfirst] at h
    exact Or.inr ⟨a, t, rfl, h⟩
  | error e t =>
    rw [hfirst] at h
    cases h
    exact Or.inl rfl

theorem bind_of_ok {σ α β : Type} {first : EStateM Failure σ α} {a : α} {s t : σ}
    (h : first s = .ok a t) (next : α → EStateM Failure σ β) : (first >>= next) s = next a t := by
  simp only [Bind.bind, EStateM.bind, h]

theorem bind_of_error {σ α β : Type} {first : EStateM Failure σ α} {e : Failure} {s t : σ}
    (h : first s = .error e t) (next : α → EStateM Failure σ β) :
    (first >>= next) s = .error e t := by
  simp only [Bind.bind, EStateM.bind, h]

/-- Whatever the state, the change leaves behind one that is related to it. -/
def Keeps {σ α : Type} (R : σ → σ → Prop) (change : EStateM Failure σ α) : Prop :=
  ∀ s, R s (remains change s)

namespace Keeps

variable {σ α β : Type} {R : σ → σ → Prop}

theorem mono {Q : σ → σ → Prop} {change : EStateM Failure σ α} (hchange : Keeps R change)
    (h : ∀ {s t}, R s t → Q s t) : Keeps Q change := fun s => h (hchange s)

/-- A change that only looks at the state keeps whatever is reflexive. -/
theorem of_eq (hrefl : ∀ s, R s s) {change : EStateM Failure σ α} (h : Keeps Eq change) :
    Keeps R change := fun s => h s ▸ hrefl s

theorem of_ok {change : EStateM Failure σ α} (h : Keeps R change) {s t : σ} {a : α}
    (hrun : change s = .ok a t) : R s t := by
  have hs := h s
  rwa [remains, hrun] at hs

theorem of_error {change : EStateM Failure σ α} (h : Keeps R change) {s t : σ} {e : Failure}
    (hrun : change s = .error e t) : R s t := by
  have hs := h s
  rwa [remains, hrun] at hs

theorem pure (hrefl : ∀ s, R s s) (a : α) : Keeps R (Pure.pure a) := hrefl

theorem get (hrefl : ∀ s, R s s) : Keeps R (MonadState.get : EStateM Failure σ σ) := hrefl

theorem throw (hrefl : ∀ s, R s s) (e : Failure) :
    Keeps R (MonadExcept.throw e : EStateM Failure σ α) := hrefl

theorem ofExcept (hrefl : ∀ s, R s s) (answer : Except Failure α) :
    Keeps R (MonadExcept.ofExcept answer : EStateM Failure σ α) := by
  intro s
  cases answer with
  | ok a => exact hrefl s
  | error e => exact hrefl s

theorem bind (htrans : ∀ {s t u}, R s t → R t u → R s u) {first : EStateM Failure σ α}
    {next : α → EStateM Failure σ β} (hfirst : Keeps R first) (hnext : ∀ a, Keeps R (next a)) :
    Keeps R (first >>= next) := by
  intro s
  have hs := hfirst s
  unfold remains at hs
  unfold remains
  simp only [Bind.bind, EStateM.bind]
  cases h : first s with
  | ok a t =>
    rw [h] at hs
    exact htrans hs (hnext a t)
  | error e t =>
    rw [h] at hs
    exact hs

end Keeps

inductive Turn where
  | begin
  | commit
  | rollback
  deriving DecidableEq, Repr

def Operation.turn? : Operation → Option Turn
  | beginTransaction => some .begin
  | commitTransaction => some .commit
  | rollbackTransaction => some .rollback
  | _ => none

namespace Request

def turn? {ρ : Type} : Request ρ → Option Turn
  | own operation => operation.turn?
  | _ => none

def merged? : Request Builder → Option Builder
  | applyFilter filter => filter
  | addSubQuery query _ => some query
  | _ => none

end Request

namespace Builder

/-- A single edit of a builder on behalf of a request. -/
inductive Edit (request : Request Builder) : Builder → Builder → Prop
  | bind (b : Builder) (key : String) (value : Value) : Edit request b (b.setParam key value)
  | bindList (b : Builder) (key : String) (values : Option (List Value)) :
      Edit request b (b.setParamSet key values)
  /-- A key awaits the values of a list, which may break off. -/
  | await (b : Builder) (key : String) : Edit request b (b.putParam key .null)
  | extend (b : Builder) (key : String) (value : Value) : Edit request b (b.appendToSet key value)
  | put (b : Builder) {key : String} {value : Value} (h : request = .own (.putParam key value)) :
      Edit request b (b.putParam key value)
  | merge (b : Builder) {other : Builder} (h : request.merged? = some other) :
      Edit request b (b.mergeParams other)
  | reset (b : Builder) : Edit request b b.reset
  | beside {b b' : Builder} (params_eq : b'.params = b.params) (sets_eq : b'.sets = b.sets)
      (depth_eq : b'.depth = b.depth) : Edit request b b'

/-- Any number of edits on behalf of a request. -/
abbrev Edits (request : Request Builder) : Builder → Builder → Prop :=
  Relation.ReflTransGen (Edit request)

theorem Edit.depth_eq {request : Request Builder} {b b' : Builder} (h : Edit request b b') :
    b'.depth = b.depth := by
  cases h with
  | extend key value =>
    unfold appendToSet
    split <;> rfl
  | beside _ _ hdepth => exact hdepth
  | _ => rfl

theorem Edits.depth_eq {request : Request Builder} {b b' : Builder} (h : Edits request b b') :
    b'.depth = b.depth := by
  induction h with
  | refl => rfl
  | tail _ hedit ih => exact hedit.depth_eq.trans ih

/-! ## Changes of the text alone -/

def Rewritten (b b' : Builder) : Prop := ∃ text, b' = b.startWith text

theorem Rewritten.refl (b : Builder) : Rewritten b b := ⟨b.text, rfl⟩

theorem Rewritten.trans {b b' b'' : Builder} (first : Rewritten b b') (last : Rewritten b' b'') :
    Rewritten b b'' := by
  obtain ⟨_, rfl⟩ := first
  obtain ⟨text, rfl⟩ := last
  exact ⟨text, rfl⟩

theorem rewrites_addWords (words : List (Except Failure String)) :
    Keeps Rewritten (addWords words) := by
  induction words with
  | nil => exact .pure .refl _
  | cons word words ih =>
    refine .bind .trans (.ofExcept .refl word) ?_
    intro word
    exact .bind .trans (fun b => ⟨_, rfl⟩) fun _ => ih

theorem rewrites_addLimit (limit offset : Int) : Keeps Rewritten (addLimit limit offset) := by
  unfold addLimit
  split
  · exact .pure .refl _
  · exact .bind .trans (.get .refl) fun b => rewrites_addWords _

theorem rewrites_applyPager (pager : Option Pager) : Keeps Rewritten (applyPager pager) := by
  cases pager with
  | none => exact .pure .refl _
  | some pager =>
    refine .bind .trans (.ofExcept .refl _) fun limit => ?_
    exact .bind .trans (.ofExcept .refl _) fun offset => rewrites_addLimit limit offset

theorem rewritten_orderBy (b : Builder) (order : SortList) : Rewritten b (b.orderBy order) := by
  unfold orderBy
  split
  · exact .refl b
  · exact ⟨_, rfl⟩

theorem rewrites_orderBySanitized (requested : SortList) :
    Keeps Rewritten (orderBySanitized requested) := by
  refine .bind .trans (.get .refl) fun b => ?_
  split
  · exact .bind .trans (.ofExcept .refl _) fun order b => b.rewritten_orderBy order
  · exact .pure .refl _

theorem rewrites_addSanitizedFieldList (requested : List String) :
    Keeps Rewritten (addSanitizedFieldList requested) := by
  refine .bind .trans (.get .refl) fun b => ?_
  split
  · exact .bind .trans (.ofExcept .refl _) fun fields b => ⟨_, rfl⟩
  · exact .throw .refl _

theorem rewritten_writeScalar (b : Builder) (column key : String) :
    Rewritten b (b.writeScalar column key) := by
  unfold writeScalar
  split
  · split
    · exact ⟨_, rfl⟩
    · exact .refl b
  · exact ⟨_, rfl⟩

theorem rewritten_of_selectFields? {b selected : Builder} {fields : List String}
    (h : b.selectFields? fields = some selected) : Rewritten b selected := by
  obtain ⟨text, _, rfl⟩ := Option.map_eq_some_iff.mp h
  exact ⟨text, rfl⟩

/-! ## Changes that only look at the builder -/

theorem looks_ask {α : Type} (question : DataSource → Except Failure α) (otherwise : α) :
    Keeps Eq (ask question otherwise) := by
  refine .bind .trans (.get .refl) ?_
  intro b
  cases b.dataSource with
  | none => exact .pure .refl _
  | some source => exact .ofExcept .refl _

theorem looks_isParamASet (key : String) : Keeps Eq (isParamASet key) := by
  refine .bind .trans (.get .refl) ?_
  intro b
  split
  · exact .pure .refl _
  · exact looks_ask _ _

theorem looks_hasEmptyValue (key : String) (empties : List String) :
    Keeps Eq (hasEmptyValue key empties) := by
  refine .bind .trans (looks_isParamASet key) ?_
  intro isSet
  refine .bind .trans (.get .refl) ?_
  intro b
  split
  · exact .pure .refl _
  · split <;> exact .pure .refl _

/-! ## The edits of each change -/

section Changes

variable {request : Request Builder}

theorem keeps_of_looks {α : Type} {change : Build α} (h : Keeps Eq change) :
    Keeps (Edits request) change := h.of_eq fun _ => .refl

theorem Rewritten.edits {b b' : Builder} (h : Rewritten b b') : Edits request b b' := by
  obtain ⟨text, rfl⟩ := h
  exact .single (.beside rfl rfl rfl)

theorem keeps_of_rewrites {α : Type} {change : Build α} (h : Keeps Rewritten change) :
    Keeps (Edits request) change := h.mono Rewritten.edits

theorem edits_bindElements (b : Builder) (key : String) (i : Nat) (values : List Value) :
    Edits request b (b.bindElements key i values) := by
  induction values generalizing b i with
  | nil => exact .refl
  | cons value values ih => exact .head (.bind b _ value) (ih _ (i + 1))

theorem edits_writeElements (b : Builder) (column key : String) (values : List Value) :
    Edits request b (b.writeElements column key values) :=
  (b.edits_bindElements key 1 values).tail (.beside rfl rfl rfl)

theorem keeps_modify {f : Builder → Builder} (h : ∀ b, Edit request b (f b)) :
    Keeps (Edits request) (modify f) := fun b => .single (h b)

theorem keeps_takeSet (key : String) (given : Option Sequence) :
    Keeps (Edits request) (takeSet key given) := by
  intro b
  unfold remains
  cases h : Sequence.elements? given with
  | ok values =>
    rw [takeSet_of_ok h]
    exact .single (.bindList b key values)
  | error e =>
    rw [takeSet_of_error h]
    exact .single (.await b key)

theorem keeps_pull (key : String) : Keeps (Edits request) (pull key) := by
  refine .bind .trans (.get fun _ => .refl) ?_
  intro b
  split
  · exact .pure (fun _ => .refl) _
  · refine .bind .trans (keeps_of_looks (looks_ask _ _)) ?_
    intro isList
    split
    · refine .bind .trans (keeps_of_looks (looks_ask _ _)) ?_
      exact fun values => keeps_takeSet key values
    · refine .bind .trans (keeps_of_looks (looks_ask _ _)) ?_
      exact fun value => keeps_modify fun b => .bind b key value

theorem keeps_writeParam (column key : String) :
    Keeps (Edits request) (writeParam column key) := by
  refine .bind .trans (keeps_of_looks (looks_isParamASet key)) ?_
  intro isSet b
  change Edits request b (if _ then _ else _)
  split
  · exact b.edits_writeElements column key _
  · exact (b.rewritten_writeScalar column key).edits

theorem keeps_appendParam (key : String) (value : Value) :
    Keeps (Edits request) (appendParam key value) :=
  .bind .trans (keeps_modify fun b => .bind b key value) fun _ => keeps_writeParam key key

theorem keeps_mustAdd (key column : String) : Keeps (Edits request) (mustAdd key column) :=
  .bind .trans (keeps_pull key) fun _ => keeps_writeParam column key

theorem keeps_addIfDefined (key column : String) :
    Keeps (Edits request) (addIfDefined key column) := by
  refine .bind .trans (keeps_of_looks (looks_ask _ _)) ?_
  intro isDefined
  split
  · exact keeps_mustAdd key column
  · exact .pure (fun _ => .refl) _

theorem keeps_setDefault (empties : List String) (key : String) (value : Value) :
    Keeps (Edits request) (setDefault empties key value) := by
  refine .bind .trans (keeps_pull key) ?_
  intro _
  refine .bind .trans (keeps_of_looks (looks_hasEmptyValue key empties)) ?_
  intro isEmpty
  split
  · exact keeps_modify fun b => .bind b key value
  · exact .pure (fun _ => .refl) _

theorem edits_applyFilter (b : Builder) {filter : Option Builder}
    (h : request.merged? = filter) : Edits request b ((filter.map b.applyFilter).getD b) := by
  cases filter with
  | none => exact .refl
  | some filter =>
    refine .head (b := if filter.text = "" then b else b.write (b.context.glue ++ filter.text)) ?_
      (.single (.merge _ h))
    split <;> exact .beside rfl rfl rfl

theorem edits_addSubQuery (b : Builder) {query : Builder} (column : String)
    (h : request.merged? = some query) : Edits request b (b.addSubQuery query column) :=
  .head (b := b.write _) (.beside rfl rfl rfl) (.single (.merge _ h))

end Changes
end Builder

def Event.call? : Event → Option TransactionCall
  | call transaction => some transaction
  | log _ => none

namespace Workbench

def calls (w : Workbench) : List TransactionCall := w.events.filterMap Event.call?

/-- The builder is edited on behalf of a request, and the controller has no part in it. -/
structure Edited (request : Request Builder) (w w' : Workbench) : Prop where
  edits : Builder.Edits request w.builder w'.builder
  controller_eq : w'.controller = w.controller
  calls_eq : w'.calls = w.calls

namespace Edited

variable {request : Request Builder}

theorem refl (w : Workbench) : Edited request w w := ⟨.refl, rfl, rfl⟩

theorem trans {w w' w'' : Workbench} (first : Edited request w w')
    (last : Edited request w' w'') : Edited request w w'' where
  edits := first.edits.trans last.edits
  controller_eq := last.controller_eq.trans first.controller_eq
  calls_eq := last.calls_eq.trans first.calls_eq

theorem keeps_build {α : Type} {change : Build α}
    (h : Keeps (Builder.Edits request) change) : Keeps (Edited request) (build change) := by
  intro w
  have hb := h w.builder
  unfold remains at hb
  unfold remains build
  cases hrun : change w.builder with
  | ok a b =>
    rw [hrun] at hb
    exact ⟨hb, rfl, rfl⟩
  | error e b =>
    rw [hrun] at hb
    exact ⟨hb, rfl, rfl⟩

theorem keeps_attempt {change : Build Unit} (h : Keeps (Builder.Edits request) change) :
    Keeps (Edited request) (attempt change) :=
  .bind .trans (keeps_build h) fun _ => .pure refl _

theorem keeps_modifyBuilder {f : Builder → Builder}
    (h : ∀ b, Builder.Edits request b (f b)) : Keeps (Edited request) (modifyBuilder f) :=
  fun w => ⟨h w.builder, rfl, rfl⟩

theorem keeps_change {f : Builder → Builder} (h : ∀ b, Builder.Edits request b (f b)) :
    Keeps (Edited request) (change f) :=
  .bind .trans (keeps_modifyBuilder h) fun _ => .pure refl _

theorem keeps_answer (f : Builder → Reply) : Keeps (Edited request) (answer f) :=
  .bind .trans (.get refl) fun _ => .pure refl _

theorem keeps_install {f : Nat → Builder → Builder}
    (h : ∀ n b, Builder.Edit request b (f n b)) : Keeps (Edited request) (install f) :=
  fun w => ⟨.single (h w.serial w.builder), rfl, rfl⟩

theorem keeps_record {event : Event} (h : event.call? = none) :
    Keeps (Edited request) (record event) := by
  intro w
  refine ⟨.refl, rfl, ?_⟩
  change (w.events ++ [event]).filterMap Event.call? = _
  simp [calls, h]

theorem keeps_selecting (b : Builder) (fields : List String) :
    Keeps (Edited request) (selecting b fields) := by
  unfold selecting
  split
  · exact .pure refl _
  · exact .bind .trans (keeps_record rfl) fun _ => .pure refl _

theorem keeps_selectFields (fields : List String) :
    Keeps (Edited request) (selectFields fields) := by
  intro w
  unfold selectFields
  split
  · exact refl w
  · -- The selected builder is the one at hand, so its replacement is an edit.
    change Edited request w (remains (selecting w.builder fields >>= fun selected =>
      change fun _ => selected) w)
    unfold selecting
    cases h : w.builder.selectFields? fields with
    | some selected =>
      exact ⟨(Builder.rewritten_of_selectFields? h).edits, rfl, rfl⟩
    | none =>
      have hnoted : Keeps (Edited request)
          (record (.note "No SELECT field list found to replace" none)) := keeps_record rfl
      exact ⟨.refl, rfl, (hnoted w).calls_eq⟩

theorem keeps_render : Keeps (Edited request) render := by
  refine .bind .trans (.get refl) ?_
  intro w
  refine .bind .trans (keeps_modifyBuilder fun b => .single (.beside rfl rfl rfl)) ?_
  intro _
  dsimp only
  split
  · exact .bind .trans (keeps_record rfl) fun _ => .pure refl _
  · exact .pure refl _

theorem keeps_cloneAsAggregate (aggregate : Option Aggregater) :
    Keeps (Edited request) (cloneAsAggregate aggregate) := by
  refine .bind .trans (.ofExcept refl _) fun definition => ?_
  dsimp only
  split
  · exact .throw refl _
  · refine .bind .trans (.get refl) ?_
    intro w
    exact .bind .trans (keeps_selecting _ _) fun _ => .pure refl _

theorem keeps_cloneForTotals (pager : Option Pager) (aggregate : Option Aggregater) :
    Keeps (Edited request) (cloneForTotals pager aggregate) := by
  unfold cloneForTotals
  split
  · refine .bind .trans (.ofExcept refl _) fun isWanted => ?_
    split
    · exact keeps_cloneAsAggregate aggregate
    · exact .pure refl _
  · exact .pure refl _

end Edited

open Edited Builder

theorem edited_operation {operation : Operation} (h : operation.turn? = none) :
    Keeps (Edited (.own operation)) operation.run := by
  cases operation with
  | reset => exact keeps_change fun b => .single (.reset b)
  | quote identifier => exact keeps_answer fun b => .text (b.quote identifier)
  | startWith text => exact keeps_change fun b => .single (.beside rfl rfl rfl)
  | startFilter => exact keeps_change fun b => .single (.beside rfl rfl rfl)
  | startWhere => exact keeps_change fun b => .single (.beside rfl rfl rfl)
  | endWhere => exact keeps_change fun b => .single (.beside rfl rfl rfl)
  | setGlue glue => exact keeps_change fun b => .single (.beside rfl rfl rfl)
  | setOperator operator => exact keeps_change fun b => .single (.beside rfl rfl rfl)
  | setDataSource source =>
    exact keeps_install (f := fun n b => { b with dataSource := source.map (⟨n, ·⟩) })
      fun n b => .beside rfl rfl rfl
  | setSanitizer sanitizer =>
    exact keeps_install (f := fun n b => { b with sanitizer := sanitizer.map (⟨n, ·⟩) })
      fun n b => .beside rfl rfl rfl
  | setParam key value => exact keeps_change fun b => .single (.bind b key value)
  | setParamSet key values => exact keeps_attempt (keeps_takeSet key values)
  | putParam key value =>
    exact .bind .trans (keeps_modifyBuilder fun b => .single (.put b rfl))
      fun _ => .pure Edited.refl _
  | appendToSet key value =>
    exact .bind .trans (keeps_modifyBuilder fun b => .single (.extend b key value))
      fun _ => .pure Edited.refl _
  | isParamASet key =>
    refine .bind .trans (keeps_build (keeps_of_looks (looks_isParamASet key))) ?_
    exact fun _ => .pure Edited.refl _
  | param key => exact keeps_answer fun b => .value (b.param key)
  | paramSet key => exact keeps_answer fun b => .values (b.paramSet key)
  | uniqueKey key => exact keeps_answer fun b => .text (b.uniqueKey key)
  | setIfNull key value => exact keeps_attempt (keeps_setDefault _ key value)
  | setIfEmpty key value => exact keeps_attempt (keeps_setDefault _ key value)
  | add text => exact keeps_change fun b => .single (.beside rfl rfl rfl)
  | appendParam key value => exact keeps_attempt (keeps_appendParam key value)
  | mustAdd key column => exact keeps_attempt (keeps_mustAdd key column)
  | addIfDefined key column => exact keeps_attempt (keeps_addIfDefined key column)
  | addFieldList fields => exact keeps_change fun b => .single (.beside rfl rfl rfl)
  | addSanitizedFieldList requested =>
    exact keeps_attempt (keeps_of_rewrites (rewrites_addSanitizedFieldList requested))
  | addLimit limit offset =>
    exact keeps_attempt (keeps_of_rewrites (rewrites_addLimit limit offset))
  | applyPager pager => exact keeps_attempt (keeps_of_rewrites (rewrites_applyPager pager))
  | orderBy order => exact keeps_change fun b => (b.rewritten_orderBy order).edits
  | orderBySanitized requested =>
    exact keeps_attempt (keeps_of_rewrites (rewrites_orderBySanitized requested))
  | selectFields fields => exact keeps_selectFields fields
  | statement => exact keeps_answer fun b => .text b.text
  | render => exact keeps_render
  | args => exact keeps_answer fun b => .values (some b.args)
  | namedArgs => exact keeps_answer fun b => .table b.namedArgs
  | literal => exact keeps_answer fun b => .text b.literal
  | dialectName => exact keeps_answer fun b => .text b.dialect.name
  | context => exact keeps_answer fun b => .context b.context
  | beginTransaction => cases h
  | commitTransaction => cases h
  | rollbackTransaction => cases h
  | clone => exact keeps_answer fun b => .derived b.clone
  | cloneAsAggregate aggregate => exact keeps_cloneAsAggregate aggregate
  | cloneForTotals pager aggregate => exact keeps_cloneForTotals pager aggregate

/-- A request that takes no turn only edits the builder, also when it fails. -/
theorem edited_request {request : Request Builder} (h : request.turn? = none) :
    Keeps (Edited request) request.run := by
  cases request with
  | own operation => exact edited_operation h
  | applyFilter filter => exact keeps_change fun b => b.edits_applyFilter rfl
  | addSubQuery query column => exact keeps_change fun b => b.edits_addSubQuery column rfl
  | compareCollaborators other => exact keeps_answer fun b => .sharing (sharing b other)

end Workbench

/-! ## Builders made from others -/

theorem outcome_eq_ok {σ α : Type} {change : EStateM Failure σ α} {s : σ} {a : α} :
    outcome change s = .ok a ↔ ∃ t, change s = .ok a t := by
  unfold outcome
  cases change s <;> simp

theorem outcome_bind_eq_ok {σ α β : Type} {first : EStateM Failure σ α}
    {next : α → EStateM Failure σ β} {s : σ} {b : β}
    (h : outcome (first >>= next) s = .ok b) :
    ∃ a t, first s = .ok a t ∧ outcome (next a) t = .ok b := by
  obtain ⟨u, hrun⟩ := outcome_eq_ok.mp h
  obtain ⟨a, t, hfirst, hnext⟩ := bind_eq_ok hrun
  exact ⟨a, t, hfirst, outcome_eq_ok.mpr ⟨u, hnext⟩⟩

theorem outcome_ofExcept_bind {σ α β : Type} {answer : Except Failure α}
    {next : α → EStateM Failure σ β} {s : σ} {b : β}
    (h : outcome (MonadExcept.ofExcept answer >>= next) s = .ok b) :
    ∃ a, answer = .ok a ∧ outcome (next a) s = .ok b := by
  cases answer with
  | ok a => exact ⟨a, rfl, h⟩
  | error e => cases h

/-- Whatever the state, a change that succeeds gives such an answer. -/
def Answers {σ α : Type} (P : α → Prop) (change : EStateM Failure σ α) : Prop :=
  ∀ s a, outcome change s = .ok a → P a

namespace Answers

variable {σ α β : Type} {P : β → Prop}

theorem pure {b : β} (h : P b) : Answers P (Pure.pure b : EStateM Failure σ β) := by
  intro s a ha
  cases ha
  exact h

theorem bind {first : EStateM Failure σ α} {next : α → EStateM Failure σ β}
    (h : ∀ a, Answers P (next a)) : Answers P (first >>= next) := by
  intro s b hb
  obtain ⟨a, t, _, hnext⟩ := outcome_bind_eq_ok hb
  exact h a t b hnext

end Answers

def Reply.derived? : Reply → Option Builder
  | derived b => some b
  | _ => none

namespace Workbench

theorem answers_selectFields (fields : List String) :
    Answers (fun reply => reply.derived? = none) (selectFields fields) := by
  unfold selectFields
  split
  · exact .pure rfl
  · exact .bind fun w => .bind fun selected => .bind fun _ => .pure rfl

theorem answers_render : Answers (fun reply => reply.derived? = none) render := by
  refine .bind fun w => .bind fun _ => ?_
  dsimp only
  split
  · exact .bind fun _ => .pure rfl
  · exact .pure rfl

/-- A selection of other fields changes the text at most. -/
theorem selecting_eq_ok {b selected : Builder} {fields : List String} {w w' : Workbench}
    (h : selecting b fields w = .ok selected w') : Builder.Rewritten b selected := by
  unfold selecting at h
  cases hselected : b.selectFields? fields with
  | some other =>
    rw [hselected] at h
    cases h
    exact Builder.rewritten_of_selectFields? hselected
  | none =>
    rw [hselected] at h
    cases h
    exact .refl b

theorem derived_cloneAsAggregate {aggregate : Option Aggregater} {w : Workbench} {b : Builder}
    (h : outcome (cloneAsAggregate aggregate) w = .ok (.derived b)) :
    Builder.Rewritten w.builder.clone b := by
  obtain ⟨definition, _, h⟩ := outcome_ofExcept_bind h
  dsimp only at h
  split at h
  · cases h
  · obtain ⟨_, _, hget, h⟩ := outcome_bind_eq_ok h
    cases hget
    obtain ⟨totals, _, hselecting, h⟩ := outcome_bind_eq_ok h
    cases h
    exact selecting_eq_ok hselecting

/-- A builder made by a request is a copy of the one at hand but for its text. -/
theorem derived_request {request : Request Builder} {w : Workbench} {b : Builder}
    (h : outcome request.run w = .ok (.derived b)) : Builder.Rewritten w.builder.clone b := by
  have absurd_of {work : Work Reply} (hwork : Answers (fun reply => reply.derived? = none) work)
      (h : outcome work w = .ok (.derived b)) : Builder.Rewritten w.builder.clone b := by
    cases hwork w _ h
  cases request with
  | own operation =>
    cases operation with
    | clone =>
      cases h
      exact .refl _
    | cloneAsAggregate aggregate => exact derived_cloneAsAggregate h
    | cloneForTotals pager aggregate =>
      cases pager with
      | none => cases h
      | some pager =>
        obtain ⟨isWanted, _, h⟩ := outcome_ofExcept_bind h
        split at h
        · exact derived_cloneAsAggregate h
        · cases h
    | selectFields fields => exact absurd_of (answers_selectFields fields) h
    | render => exact absurd_of answers_render h
    | _ => exact absurd_of (.bind fun _ => .pure rfl) h
  | applyFilter filter => exact absurd_of (.bind fun _ => .pure rfl) h
  | addSubQuery query column => exact absurd_of (.bind fun _ => .pure rfl) h
  | compareCollaborators other => exact absurd_of (.bind fun _ => .pure rfl) h

end Workbench
end ParamSql
