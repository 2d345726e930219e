import ParamSql.Proofs.ElementKeys
import ParamSql.Proofs.TableAgreement

/-!
# Merged parameters

A filter or a subquery hands over its parameters: what it binds is bound so afterwards, scalars and
lists alike, and all else stays. Taking over from several builders comes to the same however it is
grouped, and taking over again changes nothing, so a builder may even take over its own parameters.
-/

namespace ParamSql
namespace Builder

def tables (b : Builder) : Table Value × Table (Option (List Value)) := (b.params, b.sets)

theorem binding_of_tables_eq {b b' : Builder} (h : b'.tables = b.tables) (key : String) :
    b'.binding key = b.binding key := by
  obtain ⟨hparams, hsets⟩ := Prod.mk.inj h
  rw [binding_def, binding_def, hparams, hsets]

theorem binding_mergeParams (b other : Builder) (key : String) :
    (b.mergeParams other).binding key =
      if key ∈ other.params then other.binding key else b.binding key := by
  have hparam : (b.mergeParams other).params.get? key =
      (other.params.get? key).or (b.params.get? key) := Table.get?_merge _ _ key
  have hset : (b.mergeParams other).sets.get? key =
      if key ∈ other.params then other.sets.get? key else b.sets.get? key :=
    get?_mergedSets b.sets other key
  rw [binding_def, hparam, hset]
  by_cases hbound : key ∈ other.params
  · obtain ⟨value, hvalue⟩ := Table.exists_get? hbound
    rw [if_pos hbound, if_pos hbound, binding_def, hvalue]
    rfl
  · rw [if_neg hbound, if_neg hbound, Table.get?_eq_none.mpr hbound]
    rfl

theorem mem_params_mergeParams {b other : Builder} {key : String} :
    key ∈ (b.mergeParams other).params ↔ key ∈ b.params ∨ key ∈ other.params :=
  Table.mem_merge

theorem get?_sets_mergeParams_assoc (a b c : Builder) (key : String) :
    ((a.mergeParams b).mergeParams c).sets.get? key =
      (a.mergeParams (b.mergeParams c)).sets.get? key := by
  refine (get?_mergedSets (mergedSets a.sets b) c key).trans
    (.trans ?_ (get?_mergedSets a.sets (b.mergeParams c) key).symm)
  simp only [mem_params_mergeParams]
  rw [get?_mergedSets, mergeParams, get?_mergedSets]
  by_cases hc : key ∈ c.params
  · simp [hc]
  · simp [hc]

/-- Sets that hold what is taken over already stay as they are, the order of the keys included. -/
theorem mergedSets_eq_self {own : Table (Option (List Value))} {other : Builder}
    (h : ∀ key ∈ other.params, own.get? key = other.sets.get? key) :
    mergedSets own other = own := by
  change List.foldl _ own other.params.keys = own
  replace h : ∀ key ∈ other.params.keys, own.get? key = other.sets.get? key := h
  generalize other.params.keys = keys at h ⊢
  induction keys with
  | nil => rfl
  | cons key keys ih =>
    have hkey := h key List.mem_cons_self
    have hrest := ih fun k hk => h k (List.mem_cons_of_mem key hk)
    -- What is written for the first key is there already, so the rest starts from the same sets.
    rw [List.foldl_cons]
    cases hset : other.sets.get? key with
    | some values =>
      rw [hset] at hkey
      simp only [Table.insert_eq_self hkey]
      exact hrest
    | none =>
      rw [hset] at hkey
      simp only [Table.erase_eq_self (Table.get?_eq_none.mp hkey)]
      exact hrest

/-- A builder that is bound as another one wherever that binds a key takes over nothing from it. -/
theorem mergeParams_eq_self {b other : Builder}
    (h : ∀ key ∈ other.params, b.binding key = other.binding key) : b.mergeParams other = b := by
  have hparams : b.params.merge other.params = b.params :=
    Table.merge_eq_self fun key hkey => congrArg Prod.fst (h key hkey)
  have hsets : mergedSets b.sets other = b.sets :=
    mergedSets_eq_self fun key hkey => congrArg Prod.snd (h key hkey)
  rw [mergeParams, hparams, hsets]

theorem mergeParams_mergeParams (b other : Builder) :
    (b.mergeParams other).mergeParams other = b.mergeParams other := by
  refine mergeParams_eq_self fun key hkey => ?_
  rw [binding_mergeParams, if_pos hkey]

theorem mergeParams_self (b : Builder) : b.mergeParams b = b :=
  mergeParams_eq_self fun _ _ => rfl

/-- Whatever else it writes, a request that takes over parameters merges them. -/
theorem run_of_merged {request : Request Builder} {other : Builder}
    (h : request.merged? = some other) (w : Workbench) :
    ∃ b : Builder, request.run w = .ok .itself { w with builder := b } ∧
      b.tables = (w.builder.mergeParams other).tables := by
  cases request with
  | own operation => cases h
  | applyFilter filter =>
    obtain rfl : filter = some other := h
    refine ⟨w.builder.applyFilter other, rfl, ?_⟩
    unfold applyFilter
    split <;> rfl
  | addSubQuery query column =>
    obtain rfl : query = other := Option.some.inj h
    exact ⟨w.builder.addSubQuery query column, rfl, rfl⟩
  | compareCollaborators builder => cases h

end Builder

open Builder

/-- A step by which one builder takes over the parameters of another, which may be itself. -/
structure Step.Merges (s : Session) (name other : String) (request : Request String)
    (result : Option String) (a b : Builder) : Prop where
  outcome_eq : (Step.run (.ask name request result) s).1.outcome = .ok .itself
  taken : ∃ a', (Step.run (.ask name request result) s).2.find name = .ok a' ∧
    a'.tables = (a.mergeParams b).tables
  kept : ∃ b', (Step.run (.ask name request result) s).2.find other = .ok b' ∧
    b'.tables = b.tables

/-- A step that takes over parameters merges them into the builder it is about. The builder that
they come from keeps its tables, also when it is the same one. -/
theorem Step.run_ask_of_merged {s : Session} {name other : String} {a b : Builder}
    (ha : s.find name = .ok a) (hb : s.find other = .ok b) {request : Request String}
    {resolved : Request Builder} (hresolved : request.resolve s.find = .ok resolved)
    (hmerged : resolved.merged? = some b) (result : Option String) :
    Merges s name other request result a b := by
  obtain ⟨place, m, hname, hm, rfl⟩ := Session.find_eq_ok.mp ha
  obtain ⟨place', m', hother, hm', rfl⟩ := Session.find_eq_ok.mp hb
  obtain ⟨a', hrun, htables⟩ := run_of_merged hmerged (s.workbench m)
  obtain ⟨houtcome, hafter⟩ := Session.request_of_itself name hm hresolved hrun result
  rw [← run_ask hname] at houtcome hafter
  refine ⟨houtcome, ⟨a', ?_, htables⟩, ?_⟩
  · rw [hafter]
    exact Session.find_putBack hname hm _
  · rw [hafter]
    by_cases hplace : place = place'
    · subst hplace
      obtain rfl := Option.some.inj (hm.symm.trans hm')
      refine ⟨a', Session.find_putBack hother hm _, ?_⟩
      rw [htables, Session.workbench, mergeParams_self]
    · exact ⟨m'.builder, Session.find_putBack_of_ne hother hm' hplace _, rfl⟩

/-- Parameters of a second builder, and then of a third one, are merged into those of a first. -/
structure Builder.LastWriterWins (a b c : Builder) : Prop where
  steps : ∀ (s : Session) (name other : String) (request : Request String)
    (result : Option String), s.find name = .ok a → s.find other = .ok b →
    (request = .applyFilter (some other) ∨ ∃ column, request = .addSubQuery other column) →
      Step.Merges s name other request result a b
  taken : ∀ key ∈ b.params, (a.mergeParams b).binding key = b.binding key ∧
    (key ∈ (a.mergeParams b).sets ↔ key ∈ b.sets)
  kept : ∀ key ∉ b.params, (a.mergeParams b).binding key = a.binding key
  keys_eq : (a.mergeParams b).params.keys =
    a.params.keys ++ b.params.keys.filter (· ∉ a.params)
  params_assoc : ((a.mergeParams b).mergeParams c).params = (a.mergeParams (b.mergeParams c)).params
  sets_assoc : ∀ key, ((a.mergeParams b).mergeParams c).sets.get? key =
    (a.mergeParams (b.mergeParams c)).sets.get? key
  again : ((a.mergeParams b).mergeParams b).tables = (a.mergeParams b).tables
  itself : (a.mergeParams a).tables = a.tables

/-- A filter or a subquery hands over its parameters: the last writer wins, key by key, and the keys
keep the order in which they first came. So grouping does not matter, repetition does not matter,
and the tables that the parameters come from stay as they are. -/
theorem merging_parameters (a b c : Builder) : a.LastWriterWins b c where
  steps := by
    intro s name other request result ha hb hrequest
    obtain rfl | ⟨column, rfl⟩ := hrequest
    · have hresolved : (Request.applyFilter (some other)).resolve s.find =
          .ok (.applyFilter (some b)) := by
        rw [Request.resolve, hb]
        rfl
      exact Step.run_ask_of_merged ha hb hresolved rfl result
    · have hresolved : (Request.addSubQuery other column).resolve s.find =
          .ok (.addSubQuery b column) := by
        rw [Request.resolve, hb]
        rfl
      exact Step.run_ask_of_merged ha hb hresolved rfl result
  taken := by
    intro key hkey
    have hbinding : (a.mergeParams b).binding key = b.binding key := by
      rw [binding_mergeParams, if_pos hkey]
    have hset : (a.mergeParams b).sets.get? key = b.sets.get? key := congrArg Prod.snd hbinding
    rw [← Table.isSome_get?, ← Table.isSome_get?, hset]
    exact ⟨hbinding, Iff.rfl⟩
  kept key hkey := by rw [binding_mergeParams, if_neg hkey]
  keys_eq := Table.keys_merge _ _
  params_assoc := Table.merge_assoc _ _ _
  sets_assoc := get?_sets_mergeParams_assoc a b c
  again := by rw [mergeParams_mergeParams]
  itself := by rw [mergeParams_self]

theorem merging_parameters_of_scalar_over_list :
    let a : Builder :=
      { dialect := Database.sqlite.dialect, params := .ofList [("x", .null), ("y", .int 1)]
        sets := .ofList [("x", some [.int 2])] }
    let b : Builder :=
      { dialect := Database.sqlite.dialect, text := "1=1"
        params := .ofList [("z", .int 3), ("y", .null), ("x", .int 4)]
        sets := .ofList [("y", none)] }
    let s : Session := { members := [⟨a, none⟩, ⟨b, none⟩], names := .ofList [("a", 0), ("b", 1)] }
    s.find "a" = .ok a ∧ s.find "b" = .ok b ∧
      let taken := Step.run (.ask "a" (.applyFilter (some "b")) none) s
      ∃ a' b', taken.2.find "a" = .ok a' ∧ a'.params.keys = ["x", "y", "z"] ∧
        a'.binding "x" = (some (.int 4), none) ∧ a'.binding "y" = (some .null, some none) ∧
        taken.2.find "b" = .ok b' ∧ b'.tables = b.tables := by
  intro a b s
  have ha : s.find "a" = .ok a := rfl
  have hb : s.find "b" = .ok b := rfl
  have h : a.LastWriterWins b b := merging_parameters a b b
  have hstep := h.steps s "a" "b" (.applyFilter (some "b")) none ha hb (.inl rfl)
  obtain ⟨a', ha', htables⟩ := hstep.taken
  obtain ⟨b', hb', htables'⟩ := hstep.kept
  refine ⟨ha, hb, a', b', ha', ?_, ?_, ?_, hb', htables'⟩
  · rw [(Prod.mk.inj htables).1, h.keys_eq]
    decide
  · rw [binding_of_tables_eq htables, (h.taken "x" (by decide)).1]
    rfl
  · rw [binding_of_tables_eq htables, (h.taken "y" (by decide)).1]
    rfl

end ParamSql
