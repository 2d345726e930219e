import ParamSql.Proofs.Standing

/-!
# Interruptions

A block of transactions that is interrupted is left without ending its transaction, which the
builder goes on counting. No block stops an interruption: one that is left so comes out interrupted
itself, and so do the steps around it. So transactions are left open by interrupted steps alone.
-/

namespace ParamSql

theorem Turn.ending?_eq_none {failure : Option Failure} :
    ending? failure = none ↔ ∃ e, failure = some e ∧ e.isInterruption = true := by
  cases failure with
  | none => simp [ending?]
  | some e => simp [ending?]

theorem Turn.isNone_ending? (failure : Option Failure) :
    (ending? failure).isNone = failure.any Failure.isInterruption := by
  cases failure with
  | none => rfl
  | some e =>
    rw [ending?, Option.any_some]
    cases e.isInterruption <;> rfl

/-- Whether the errand leaves a block of transactions and does not end its transaction. -/
def Errand.leavesOpen : Errand → Bool
  | leave .transaction failure => (Turn.ending? failure).isNone
  | request _ | enter _ | leave (.whereClause _) _ => false

namespace Visit

def leftOpen (place : Nat) (visits : List Visit) : Nat :=
  visits.countP fun v => decide (v.place = place) && v.errand.leavesOpen

@[simp] theorem leftOpen_append (place : Nat) (first last : List Visit) :
    leftOpen place (first ++ last) = leftOpen place first + leftOpen place last :=
  List.countP_append

theorem leftOpen_singleton (place : Nat) (v : Visit) :
    leftOpen place [v] = if v.place = place ∧ v.errand.leavesOpen = true then 1 else 0 := by
  simp [leftOpen, List.countP_singleton]

theorem leftOpen_eq_zero {place : Nat} {visits : List Visit}
    (h : ∀ v ∈ visits, v.errand.leavesOpen = false) : leftOpen place visits = 0 := by
  refine List.countP_eq_zero.mpr ?_
  intro v hv
  simp [h v hv]

/-- Where an open transaction tells of an interruption, there is none open without one. -/
theorem leftOpen_of_uninterrupted {visits : List Visit} {failed : Failure → Prop}
    (hopen : ∀ v ∈ visits, v.errand.leavesOpen = true →
      ∃ e, failed e ∧ e.isInterruption = true)
    (h : ∀ e, failed e → e.isInterruption = false) (place : Nat) : leftOpen place visits = 0 := by
  refine leftOpen_eq_zero ?_
  intro v hv
  refine Bool.eq_false_iff.mpr ?_
  intro hleaves
  obtain ⟨e, he, hinterruption⟩ := hopen v hv hleaves
  rw [h e he] at hinterruption
  cases hinterruption

end Visit

theorem Course.member {s t : Session} {visits : List Visit} (course : Course s visits t)
    {place : Nat} {m : Member} (hm : s.members[place]? = some m) :
    ∃ m', t.members[place]? = some m' := by
  induction course generalizing m with
  | nil => exact ⟨m, hm⟩
  | @cons v n rest t made _ ih =>
    by_cases hplace : v.place = place
    · subst hplace
      exact ih (Visit.member_of_place made)
    · exact ih (Visit.member_of_other_place made hplace hm)

namespace Session

/-- After an interruption a block is left without fail. -/
theorem workAt_leave_of_interruption {place : Nat} {s : Session} {m : Member}
    (hm : s.members[place]? = some m) (kind : BlockKind) {e : Failure}
    (he : e.isInterruption = true) :
    ∃ events t, workAt place (kind.bracket.leave (some e)) s = (some (.ok (), events), t) := by
  cases kind with
  | transaction =>
    have hleave := leave_of_interruption (Turn.ending?_eq_none.mpr ⟨e, rfl, he⟩)
    exact ⟨_, _, workAt_of_ok hm (congrFun hleave _)⟩
  | whereClause before => exact ⟨_, _, workAt_of_ok hm rfl⟩

/-- A block in which a transaction is left open comes out interrupted, if its body does. -/
theorem interrupted_block {body : StateM Session (List Answer × Option Failure)}
    {inner : Session → List Visit} (hcourse : ∀ s, Course s (inner s) (body s).2)
    (hinner : ∀ s, ∀ v ∈ inner s, v.errand.leavesOpen = true →
      ∃ e, (body s).1.2 = some e ∧ e.isInterruption = true)
    {place : Nat} (name : String) {kind : BlockKind} {s : Session} {v : Visit}
    (hv : v ∈ blockVisits place kind body inner s) (hopen : v.errand.leavesOpen = true) :
    ∃ e, (block place name kind.bracket body s).1.outcome = .error e ∧
      e.isInterruption = true := by
  have henter : v ∉ visitAt place (.enter kind) s := by
    intro hv
    rw [(mem_visitAt hv).2] at hopen
    cases hopen
  unfold blockVisits at hv
  rcases hwork : workAt place kind.bracket.enter s with ⟨_ | ⟨e | _, events⟩, entered⟩
  · rw [hwork, List.append_nil] at hv
    exact absurd hv henter
  · rw [hwork, List.append_nil] at hv
    exact absurd hv henter
  · rw [hwork] at hv
    -- Left by the body or by the block itself, the transaction tells that the body was interrupted.
    have hbody : ∃ e, (body entered).1.2 = some e ∧ e.isInterruption = true := by
      rcases List.mem_append.mp ((List.mem_append.mp hv).resolve_left henter) with hv | hv
      · exact hinner entered v hv hopen
      · rw [(mem_visitAt hv).2] at hopen
        cases kind with
        | transaction => exact Turn.ending?_eq_none.mp (Option.isNone_iff_eq_none.mp hopen)
        | whereClause before => cases hopen
    obtain ⟨e, hfailure, he⟩ := hbody
    obtain ⟨m, hm⟩ : ∃ m, s.members[place]? = some m := by
      cases hm : s.members[place]? with
      | none =>
        rw [workAt_of_none hm] at hwork
        cases hwork
      | some m => exact ⟨m, rfl⟩
    have hentered := course_enter place kind s
    rw [hwork] at hentered
    obtain ⟨m', hm'⟩ := (hentered.append (hcourse entered)).member hm
    obtain ⟨leaving, t, hleave⟩ := workAt_leave_of_interruption hm' kind he
    rw [← hfailure] at hleave
    rw [block_of_entered name body hwork hleave, hfailure]
    exact ⟨e, rfl, he⟩

end Session

namespace Step

open Session

mutual

/-- A step in which a transaction is left open comes out interrupted. -/
theorem interrupted_step (step : Step) (s : Session) (v : Visit) (hv : v ∈ visits step s)
    (hopen : v.errand.leavesOpen = true) :
    ∃ e, (run step s).1.outcome = .error e ∧ e.isInterruption = true := by
  match step with
  | ask name req result =>
    rw [visits] at hv
    cases hplace : s.names.get? name with
    | none => simp [hplace] at hv
    | some place =>
      simp only [hplace] at hv
      obtain ⟨resolved, hrequest⟩ := mem_requestVisits hv
      rw [hrequest] at hopen
      cases hopen
  | fail name failure => cases hv
  | transaction name body =>
    cases hname : s.names.get? name with
    | none =>
      rw [(transaction_of_unknown hname body).2] at hv
      cases hv
    | some place =>
      rw [visits_transaction hname] at hv
      rw [run_transaction hname]
      exact interrupted_block (course_visitsUntilFailure body) (interrupted_body body) name hv hopen
  | whereClause name body =>
    cases hname : s.names.get? name with
    | none =>
      rw [(whereClause_of_unknown hname body).2] at hv
      cases hv
    | some place =>
      rw [visits_whereClause hname] at hv
      rw [run_whereClause hname]
      exact interrupted_block (course_visitsUntilFailure body) (interrupted_body body) name hv hopen

theorem interrupted_body (steps : List Step) (s : Session) (v : Visit)
    (hv : v ∈ visitsUntilFailure steps s) (hopen : v.errand.leavesOpen = true) :
    ∃ e, (runUntilFailure steps s).1.2 = some e ∧ e.isInterruption = true := by
  match steps with
  | [] => cases hv
  | step :: rest =>
    have hrun := congrArg Prod.fst (runUntilFailure_cons step rest s)
    rw [visitsUntilFailure] at hv
    dsimp only at hv
    cases houtcome : (run step s).1.outcome with
    | error e =>
      rw [houtcome, List.append_nil] at hv
      obtain ⟨e', he', hinterruption⟩ := interrupted_step step s v hv hopen
      obtain rfl : e = e' := by
        rw [houtcome] at he'
        cases he'
        rfl
      rw [houtcome] at hrun
      exact ⟨e, hrun, hinterruption⟩
    | ok reply =>
      rw [houtcome] at hv hrun
      rcases List.mem_append.mp hv with hv | hv
      · obtain ⟨e', he', -⟩ := interrupted_step step s v hv hopen
        rw [houtcome] at he'
        cases he'
      · obtain ⟨e, he, hinterruption⟩ := interrupted_body rest _ v hv hopen
        exact ⟨e, hrun.trans he, hinterruption⟩

end

theorem leftOpen_step {step : Step} {s : Session}
    (h : ∀ e, (run step s).1.outcome = .error e → e.isInterruption = false) (place : Nat) :
    Visit.leftOpen place (visits step s) = 0 :=
  Visit.leftOpen_of_uninterrupted (interrupted_step step s) h place

theorem leftOpen_body {steps : List Step} {s : Session}
    (h : ∀ e, (runUntilFailure steps s).1.2 = some e → e.isInterruption = false) (place : Nat) :
    Visit.leftOpen place (visitsUntilFailure steps s) = 0 :=
  Visit.leftOpen_of_uninterrupted (interrupted_body steps s) h place

end Step
end ParamSql
