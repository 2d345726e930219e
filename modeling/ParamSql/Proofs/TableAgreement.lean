import ParamSql.Configuration
import ParamSql.Proofs.BindingRun
import ParamSql.Proofs.Standing

/-!
# Agreement of the two tables

A key with a list is bound to null among the parameters. Every edit of a builder preserves this,
save one that writes past the bookkeeping; taking over parameters preserves it when the other
builder has it too, so it is carried for all builders of a session at once. Where it holds, the keys
of scalars and the keys of lists share out the bound keys between them.
-/

namespace ParamSql
namespace Builder

/-- Every key with a list is bound to null. -/
def TablesAgree (b : Builder) : Prop := ∀ key ∈ b.sets, b.params.get? key = some .null

theorem get?_mergedSets (own : Table (Option (List Value))) (other : Builder) (key : String) :
    (mergedSets own other).get? key =
      if key ∈ other.params then other.sets.get? key else own.get? key := by
  change Table.get? (List.foldl _ own other.params.keys) key =
    if key ∈ other.params.keys then other.sets.get? key else own.get? key
  induction other.params.keys generalizing own with
  | nil => rfl
  | cons k keys ih =>
    rw [List.foldl_cons, ih]
    -- A key that comes again is set the same way again.
    by_cases hkeys : key ∈ keys
    · rw [if_pos hkeys, if_pos (List.mem_cons_of_mem k hkeys)]
    · rw [if_neg hkeys]
      by_cases hk : key = k
      · subst hk
        rw [if_pos List.mem_cons_self]
        cases h : other.sets.get? key with
        | none => rw [Table.get?_erase, if_pos rfl]
        | some values => rw [Table.get?_insert, if_pos rfl]
      · rw [if_neg (List.not_mem_cons_of_ne_of_not_mem hk hkeys)]
        cases other.sets.get? k with
        | none => rw [Table.get?_erase, if_neg hk]
        | some values => rw [Table.get?_insert, if_neg hk]

namespace TablesAgree

variable {b : Builder}

theorem of_empty (h : b.sets = ∅) : b.TablesAgree := by
  intro key hkey
  rw [h] at hkey
  exact absurd hkey (Table.not_mem_empty key)

theorem of_tables_eq {b' : Builder} (h : b.TablesAgree) (hparams : b'.params = b.params)
    (hsets : b'.sets = b.sets) : b'.TablesAgree := by
  unfold TablesAgree
  rw [hparams, hsets]
  exact h

theorem setParam (h : b.TablesAgree) (key : String) (value : Value) :
    (b.setParam key value).TablesAgree := by
  intro k hk
  obtain ⟨hne, hk⟩ := Table.mem_erase.mp hk
  exact (Table.get?_insert _ _ _ k).trans ((if_neg hne).trans (h k hk))

theorem setParamSet (h : b.TablesAgree) (key : String) (values : Option (List Value)) :
    (b.setParamSet key values).TablesAgree := by
  intro k hk
  refine (Table.get?_insert _ _ _ k).trans ?_
  split
  · rfl
  · next hne => exact h k ((Table.mem_insert.mp hk).resolve_left hne)

theorem await (h : b.TablesAgree) (key : String) : (b.putParam key .null).TablesAgree := by
  intro k hk
  refine (Table.get?_insert _ _ _ k).trans ?_
  split
  · rfl
  · exact h k hk

theorem appendToSet (h : b.TablesAgree) (key : String) (value : Value) :
    (b.appendToSet key value).TablesAgree := by
  unfold Builder.appendToSet paramSet
  cases hkey : b.sets.get? key with
  | none => exact h
  | some values =>
    cases values with
    | none => exact h
    | some values =>
      intro k hk
      rcases Table.mem_insert.mp hk with rfl | hk
      · exact h k (Table.mem_of_get? hkey)
      · exact h k hk

/-- A key that the other builder binds is in its sets exactly if it ends up in the merged ones. -/
theorem mergeParams (h : b.TablesAgree) {other : Builder} (hother : other.TablesAgree) :
    (b.mergeParams other).TablesAgree := by
  intro key hkey
  change key ∈ mergedSets b.sets other at hkey
  rw [← Table.isSome_get?, get?_mergedSets] at hkey
  refine (Table.get?_merge _ _ key).trans ?_
  by_cases hbound : key ∈ other.params
  · rw [if_pos hbound] at hkey
    rw [hother key (Table.isSome_get?.mp hkey), Option.some_or]
  · rw [if_neg hbound] at hkey
    rw [Table.get?_eq_none.mpr hbound, Option.none_or]
    exact h key (Table.isSome_get?.mp hkey)

theorem of_edit {request : Request Builder} {b' : Builder} (h : b.TablesAgree)
    (hedit : Edit request b b') (hput : ∀ key value, request ≠ .own (.putParam key value))
    (hmerged : ∀ other, request.merged? = some other → other.TablesAgree) :
    b'.TablesAgree := by
  cases hedit with
  | bind key value => exact h.setParam key value
  | bindList key values => exact h.setParamSet key values
  | await key => exact h.await key
  | extend key value => exact h.appendToSet key value
  | put hrequest => exact absurd hrequest (hput _ _)
  | merge hother => exact h.mergeParams (hmerged _ hother)
  | reset => exact of_empty rfl
  | beside hparams hsets _ => exact h.of_tables_eq hparams hsets

theorem of_edits {request : Request Builder} {b' : Builder} (h : b.TablesAgree)
    (hedits : Edits request b b') (hput : ∀ key value, request ≠ .own (.putParam key value))
    (hmerged : ∀ other, request.merged? = some other → other.TablesAgree) :
    b'.TablesAgree := by
  induction hedits with
  | refl => exact h
  | tail _ hedit ih => exact ih.of_edit hedit hput hmerged

/-- The keys of the scalars and the keys of the lists together are the bound keys, each once. -/
theorem keys_perm (h : b.TablesAgree) :
    (b.namedArgs.keys ++ b.sets.keys).Perm b.params.keys := by
  have hnamed (key : String) : key ∈ b.namedArgs.keys ↔ key ∈ b.params ∧ key ∉ b.sets := by
    rw [namedArgs, Table.mem_keys_filter, ← Table.isSome_get? (t := b.params),
      Option.isSome_iff_exists]
    simp
  have hnodup : (b.namedArgs.keys ++ b.sets.keys).Nodup := by
    refine List.nodup_append.mpr ⟨b.namedArgs.keys_nodup, b.sets.keys_nodup, ?_⟩
    rintro key hkey _ hset rfl
    exact ((hnamed key).mp hkey).2 hset
  refine (List.perm_ext_iff_of_nodup hnodup b.params.keys_nodup).mpr ?_
  intro key
  rw [List.mem_append, hnamed]
  constructor
  · rintro (⟨hbound, _⟩ | hset)
    · exact hbound
    · exact Table.mem_of_get? (h key hset)
  · intro hbound
    by_cases hset : key ∈ b.sets
    · exact Or.inr hset
    · exact Or.inl ⟨hbound, hset⟩

end TablesAgree

end Builder

open Builder

/-! ## All builders of a session -/

def Session.TablesAgree (s : Session) : Prop := ∀ m ∈ s.members, m.builder.TablesAgree

/-- Whatever a builder is visited for, its tables agree afterwards. -/
theorem Errand.tablesAgree_perform {errand : Errand} {w : Workbench} (h : w.builder.TablesAgree)
    (hput : errand.putsParam = false)
    (hmerged : ∀ req, errand = .request req → ∀ other, req.merged? = some other →
      other.TablesAgree) : (errand.perform w).builder.TablesAgree := by
  cases hturn : errand.turn? with
  | some turn =>
    obtain ⟨depth, hbuilder⟩ := Workbench.SameButDepth.keeps_turn turn w
    rw [Errand.perform_of_turn hturn, hbuilder]
    exact h.of_tables_eq rfl rfl
  | none =>
    cases errand with
    | request req =>
      have hedited : Keeps (Workbench.Edited req) req.run := Workbench.edited_request hturn
      refine h.of_edits (hedited w).edits ?_ (hmerged req rfl)
      rintro key value rfl
      cases hput
    | enter block =>
      cases block with
      | transaction => cases hturn
      | whereClause before => exact h.of_tables_eq rfl rfl
    | leave block failure =>
      cases block with
      | transaction =>
        rw [perform, leave_of_interruption hturn]
        exact h
      | whereClause before => exact h.of_tables_eq rfl rfl

/-- The builder that parameters are taken over from belongs to the session, so its tables agree as
well. -/
theorem Visit.tablesAgree_after {v : Visit} {m : Member} (made : v.MadeOn m)
    (h : v.before.TablesAgree) (hput : v.errand.putsParam = false) : v.after.TablesAgree := by
  have hm : m.builder.TablesAgree := h m (List.mem_of_getElem? made.member_eq)
  have hmerged : ∀ req, v.errand = .request req → ∀ other, req.merged? = some other →
      other.TablesAgree := by
    intro req hreq other hother
    obtain ⟨place, hplace⟩ := made.merged req hreq other hother
    obtain ⟨n, hn, rfl⟩ := Option.map_eq_some_iff.mp hplace
    exact h n (List.mem_of_getElem? hn)
  have hvisited : (v.errand.perform (v.before.workbench m)).builder.TablesAgree :=
    Errand.tablesAgree_perform hm hput hmerged
  obtain ⟨new, hmembers, hnew⟩ := made.members_eq
  intro n hn
  rw [hmembers] at hn
  rcases List.mem_append.mp hn with hold | hmade
  · rcases List.mem_or_eq_of_mem_set hold with hsame | rfl
    · exact h n hsame
    · exact hvisited
  · obtain ⟨-, text, hbuilder⟩ := hnew n hmade
    rw [hbuilder]
    exact hm.of_tables_eq rfl rfl

namespace Session.TablesAgree

variable {s s' : Session}

theorem enroll (h : s.TablesAgree) {m : Member} (hm : m.builder.TablesAgree) (name : String) :
    (s.enroll m name).TablesAgree := by
  intro n hn
  rcases List.mem_append.mp hn with hold | hnew
  · exact h n hold
  · rw [List.mem_singleton.mp hnew]
    exact hm

theorem enrollAll (h : s.TablesAgree) {m : Member} (hm : m.builder.TablesAgree)
    (names : List String) : (names.foldl (fun s name => s.enroll m name) s).TablesAgree := by
  induction names generalizing s with
  | nil => exact h
  | cons name names ih => exact ih (h.enroll hm name)

theorem addSetup (h : s.TablesAgree) {setup : Setup} {c : Option Configuration}
    (hadd : s.addSetup setup = .ok (s', c)) : s'.TablesAgree := by
  unfold Session.addSetup at hadd
  split at hadd
  · cases hadd
    exact h
  · cases hconfiguration : setup.configuration s.serial with
    | error e =>
      rw [hconfiguration] at hadd
      cases hadd
    | ok configuration =>
      rw [hconfiguration] at hadd
      cases hadd
      have hnew : configuration.builder.TablesAgree := .of_empty rfl
      have hbegun : Session.TablesAgree { s with
          controllers := s.controllers ++ setup.controller.toList, serial := s.serial + 1 } := h
      exact hbegun.enrollAll (m := ⟨configuration.builder, _⟩) hnew setup.names

theorem addSetups (h : s.TablesAgree) {setups : List Setup} {cs : List (Option Configuration)}
    (hadd : s.addSetups setups = .ok (s', cs)) : s'.TablesAgree := by
  induction setups generalizing s s' cs with
  | nil =>
    cases hadd
    exact h
  | cons setup rest ih =>
    unfold Session.addSetups at hadd
    cases hfirst : s.addSetup setup with
    | error e =>
      rw [hfirst] at hadd
      cases hadd
    | ok first =>
      rw [hfirst] at hadd
      cases hrest : first.1.addSetups rest with
      | error e =>
        simp only [Except.bind, hrest] at hadd
        cases hadd
      | ok last =>
        simp only [Except.bind, hrest] at hadd
        cases hadd
        exact ih (h.addSetup hfirst) hrest

/-- The tables agree in all sessions of a run that never writes past the bookkeeping. -/
theorem visitsAll (h : s.TablesAgree) {steps : List Step}
    (hput : ∀ v ∈ Step.visitsAll steps s, v.errand.putsParam = false) :
    ∀ t ∈ s :: (Step.visitsAll steps s).map Visit.after, t.TablesAgree :=
  (Step.course_visitsAll steps s).invariant h
    fun v hv _ made hv' => Visit.tablesAgree_after made hv' (hput v hv)

end Session.TablesAgree

/-- Whatever is asked of any number of builders, as long as nothing is written past the bookkeeping:
in every builder and after every visit, a key with a list is bound to null, so a bound key is known
as a set exactly when it has a list, whatever the data source, and every bound key is either that of
a scalar or that of a list. -/
theorem tables_agree_throughout {setups : List Setup} {s : Session}
    {configurations : List (Option Configuration)}
    (hsetups : ({} : Session).addSetups setups = .ok (s, configurations)) (steps : List Step)
    (hput : ∀ v ∈ Step.visitsAll steps s, v.errand.putsParam = false) :
    let sessions := s :: (Step.visitsAll steps s).map Visit.after
    (Step.runAll steps s).2 ∈ sessions ∧
      ∀ t ∈ sessions, ∀ m ∈ t.members,
        (∀ key ∈ m.builder.sets, m.builder.params.get? key = some .null) ∧
        (∀ source : Option (Installed DataSource), ∀ key ∈ m.builder.params,
          let b : Builder := { m.builder with dataSource := source }
          isParamASet key b = .ok (decide (key ∈ b.sets)) b) ∧
        (m.builder.namedArgs.keys ++ m.builder.sets.keys).Perm m.builder.params.keys := by
  intro sessions
  have hnone : ({} : Session).TablesAgree := fun m hm => by cases hm
  have hs : s.TablesAgree := hnone.addSetups hsetups
  refine ⟨(Step.course_visitsAll steps s).end_mem, ?_⟩
  intro t ht m hm
  have hagree : m.builder.TablesAgree := hs.visitsAll hput t ht m hm
  exact ⟨hagree, fun source key hkey => isParamASet_of_bound hkey, hagree.keys_perm⟩

theorem tables_agree_throughout_of_merged_sets :
    let source : DataSource := .ofAnswers
      ⟨["x"], ["x"], ∅, .ofList [("x", .collection .list [.int 3])], ["broken"]⟩
    let m : Member := ⟨{ dialect := Database.sqlite.dialect, dataSource := some ⟨0, source⟩ }, none⟩
    let setups : List Setup :=
      [⟨.database .sqlite, some source, none, none, ["a", "b"], false⟩]
    let s : Session := { members := [m, m], names := .ofList [("a", 0), ("b", 1)], serial := 1 }
    let steps : List Step :=
      [.ask "a" (.own (.setParamSet "id" (some (.ok [.int 1, .int 2])))) none,
        .ask "a" (.own (.setParamSet "id_1" none)) none, .ask "a" (.own (.mustAdd "id" "id")) none,
        .ask "b" (.own (.addIfDefined "x" "x")) none, .ask "b" (.own (.setParam "id" .null)) none,
        .transaction "a" [.ask "a" (.addSubQuery "b" "x") none, .ask "a" (.applyFilter "a") none,
          .ask "a" (.own (.mustAdd "broken" "y")) none],
        .ask "a" (.own .clone) "c", .ask "c" (.own (.appendToSet "x" (.int 4))) none]
    ({} : Session).addSetups setups = .ok (s, [none]) ∧
      (∀ v ∈ Step.visitsAll steps s, v.errand.putsParam = false) ∧
      ∃ b : Builder, (Step.runAll steps s).2.members[2]? = some ⟨b, none⟩ ∧
        b.params.keys = ["id", "id_1", "id_2", "x", "x_1"] ∧ b.sets.keys = ["x"] ∧
          (b.namedArgs.keys ++ b.sets.keys).Perm b.params.keys := by
  intro source m setups s steps
  have hsetups : ({} : Session).addSetups setups = .ok (s, [none]) := rfl
  have hput : ∀ v ∈ Step.visitsAll steps s, v.errand.putsParam = false := by decide +kernel
  obtain ⟨hend, hagree⟩ := tables_agree_throughout hsetups steps hput
  have hkeys : ((Step.runAll steps s).2.members[2]?).map
      (fun m => (m.builder.params.keys, m.builder.sets.keys, m.controller)) =
        some (["id", "id_1", "id_2", "x", "x_1"], ["x"], none) := by
    decide +kernel
  obtain ⟨⟨b, controller⟩, hmember, hkeys⟩ := Option.map_eq_some_iff.mp hkeys
  obtain ⟨hparams, hsets, rfl⟩ : b.params.keys = _ ∧ b.sets.keys = _ ∧ controller = none := by
    simpa only [Prod.mk.injEq] using hkeys
  exact ⟨hsetups, hput, b, hmember, hparams, hsets,
    (hagree _ hend _ (List.mem_of_getElem? hmember)).2.2⟩

end ParamSql
