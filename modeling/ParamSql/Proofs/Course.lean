import ParamSql.Proofs.SessionMembers
import ParamSql.Proofs.Visits

/-!
# The course of a run

The visits of a step follow the same course as its run: the first one begins where the step begins,
each begins where the one before it ended, and the last one ends where the step ends. What every
visit preserves therefore holds in all sessions that a run passes through.
-/

namespace ParamSql

/-- A visit to a member of the session: its builder does the work of the errand, and is followed by
those made from it, which have its controller. Parameters are taken over from other members. -/
structure Visit.MadeOn (v : Visit) (m : Member) : Prop where
  member_eq : v.before.members[v.place]? = some m
  events_eq : v.events = (v.errand.perform (v.before.workbench m)).events
  controllers_eq : v.after.controllers =
    (v.before.putBack v.place m (v.errand.perform (v.before.workbench m))).controllers
  members_eq : ∃ made : List Member,
    v.after.members =
        (v.before.putBack v.place m (v.errand.perform (v.before.workbench m))).members ++ made ∧
      ∀ n ∈ made, n.controller = m.controller ∧ ∃ text, n.builder = m.builder.clone.startWith text
  merged : ∀ req, v.errand = .request req → ∀ other, req.merged? = some other →
    ∃ place, v.before.builderAt? place = some other

/-- Visits that lead from one session to another, each taking up where the last one ended. -/
inductive Course : Session → List Visit → Session → Prop
  | nil (s : Session) : Course s [] s
  | cons {v : Visit} {m : Member} {rest : List Visit} {t : Session} (made : v.MadeOn m)
      (course : Course v.after rest t) : Course v.before (v :: rest) t

def Session.afterVisits : Session → List Visit → Session
  | s, [] => s
  | _, v :: rest => v.after.afterVisits rest

namespace Course

theorem append {s t u : Session} {first last : List Visit} (hfirst : Course s first t)
    (hlast : Course t last u) : Course s (first ++ last) u := by
  induction hfirst with
  | nil => exact hlast
  | cons made _ ih => exact .cons made (ih hlast)

theorem single {v : Visit} {m : Member} (made : v.MadeOn m) : Course v.before [v] v.after :=
  .cons made (.nil _)

theorem eq_afterVisits {s t : Session} {visits : List Visit} (course : Course s visits t) :
    t = s.afterVisits visits := by
  induction course with
  | nil => rfl
  | cons _ _ ih => exact ih

theorem end_mem {s t : Session} {visits : List Visit} (course : Course s visits t) :
    t ∈ s :: visits.map Visit.after := by
  induction course with
  | nil => exact List.mem_singleton_self _
  | cons _ _ ih => exact List.mem_cons_of_mem _ ih

theorem split {s t : Session} {first last : List Visit} (course : Course s (first ++ last) t) :
    Course s first (s.afterVisits first) ∧ Course (s.afterVisits first) last t := by
  induction first generalizing s with
  | nil => exact ⟨.nil s, course⟩
  | cons v first ih =>
    cases course with
    | cons made rest =>
      obtain ⟨hfirst, hlast⟩ := ih rest
      exact ⟨.cons made hfirst, hlast⟩

/-- What every visit preserves holds in all sessions on the course. -/
theorem invariant {P : Session → Prop} {s t : Session} {visits : List Visit}
    (course : Course s visits t) (hs : P s)
    (hstep : ∀ v ∈ visits, ∀ m, v.MadeOn m → P v.before → P v.after) :
    ∀ u ∈ s :: visits.map Visit.after, P u := by
  induction course with
  | nil s =>
    intro u hu
    obtain rfl := List.mem_singleton.mp hu
    exact hs
  | @cons v m rest t made _ ih =>
    intro u hu
    rw [List.map_cons] at hu
    rcases List.mem_cons.mp hu with rfl | hu
    · exact hs
    · refine ih (hstep v List.mem_cons_self m made hs) ?_ u hu
      intro v' hv'
      exact hstep v' (List.mem_cons_of_mem _ hv')

/-- What holds at first and is kept by every visit, with the visits before it in view, holds after
the course. -/
theorem history {P : List Visit → Session → Prop} {s t : Session} {visits : List Visit}
    (course : Course s visits t) (hs : P [] s)
    (hstep : ∀ done v m, v.MadeOn m → P done v.before → P (done ++ [v]) v.after) : P visits t := by
  have hcourse : ∀ done, P done s → P (done ++ visits) t := by
    clear hs
    induction course with
    | nil s => simp
    | @cons v m rest t made _ ih =>
      intro done hdone
      have hrest := ih (done ++ [v]) (hstep done v m made hdone)
      simpa using hrest
  exact hcourse [] hs

end Course

namespace Session

/-- A visit for anything but a request takes over no parameters, and makes no builder. -/
theorem madeOn_visitAt {place : Nat} {s : Session} {m : Member} (hm : s.members[place]? = some m)
    {errand : Errand} (hrequest : ∀ req, errand ≠ .request req) :
    let left := errand.perform (s.workbench m)
    Visit.MadeOn ⟨place, errand, s, left.events, s.putBack place m left⟩ m where
  member_eq := hm
  events_eq := rfl
  controllers_eq := rfl
  members_eq := by
    refine ⟨[], (List.append_nil _).symm, ?_⟩
    intro n hn
    cases hn
  merged req hreq := absurd hreq (hrequest req)

theorem course_visitAt {α : Type} {errand : Errand} {work : Work α}
    (hperform : errand.perform = remains work) (hrequest : ∀ req, errand ≠ .request req)
    (place : Nat) (s : Session) : Course s (visitAt place errand s) (workAt place work s).2 := by
  cases hm : s.members[place]? with
  | none =>
    rw [visitAt_of_none hm, workAt_of_none hm]
    exact .nil s
  | some m =>
    rw [visitAt_of_member hm, workAt_of_member hm, ← hperform]
    exact Course.single (madeOn_visitAt hm hrequest)

theorem course_enter (place : Nat) (kind : BlockKind) (s : Session) :
    Course s (visitAt place (.enter kind) s) (workAt place kind.bracket.enter s).2 :=
  course_visitAt rfl (by simp) place s

theorem course_leave (place : Nat) (kind : BlockKind) (failure : Option Failure) (s : Session) :
    Course s (visitAt place (.leave kind failure) s)
      (workAt place (kind.bracket.leave failure) s).2 :=
  course_visitAt rfl (by simp) place s

/-- A request takes parameters over from builders of the session only. -/
theorem builderAt?_of_merged {s : Session} {req : Request String} {resolved : Request Builder}
    (hresolved : req.resolve s.find = .ok resolved) {other : Builder}
    (hmerged : resolved.merged? = some other) : ∃ place, s.builderAt? place = some other := by
  cases req with
  | own operation =>
    cases hresolved
    cases hmerged
  | applyFilter filter =>
    cases filter with
    | none =>
      cases hresolved
      cases hmerged
    | some name =>
      cases hfind : s.find name with
      | error e =>
        rw [Request.resolve, hfind] at hresolved
        cases hresolved
      | ok b =>
        rw [Request.resolve, hfind] at hresolved
        cases hresolved
        cases hmerged
        exact builderAt?_of_find hfind
  | addSubQuery name column =>
    cases hfind : s.find name with
    | error e =>
      rw [Request.resolve, hfind] at hresolved
      cases hresolved
    | ok b =>
      rw [Request.resolve, hfind] at hresolved
      cases hresolved
      cases hmerged
      exact builderAt?_of_find hfind
  | compareCollaborators name =>
    cases hfind : s.find name with
    | error e =>
      rw [Request.resolve, hfind] at hresolved
      cases hresolved
    | ok b =>
      rw [Request.resolve, hfind] at hresolved
      cases hresolved
      cases hmerged

/-- After a request the session is as the work left it, but for a builder that was made. -/
theorem request_after {place : Nat} (name : String) {req : Request String}
    {resolved : Request Builder} {s : Session} {m : Member} (hm : s.members[place]? = some m)
    (hresolved : req.resolve s.find = .ok resolved) (result : Option String) :
    let left := s.putBack place m (remains resolved.run (s.workbench m))
    let after := (request place name req result s).2
    after.controllers = left.controllers ∧
      ∃ made : List Member, after.members = left.members ++ made ∧
        ∀ n ∈ made,
          n.controller = m.controller ∧ ∃ text, n.builder = m.builder.clone.startWith text := by
  intro left after
  have hleft : after = left ∨ ∃ result b, outcome resolved.run (s.workbench m) = .ok (.derived b) ∧
      after = (adopt place result b left).2 := by
    unfold after request
    simp only [bind, StateT.bind, get, getThe, MonadStateOf.get, StateT.get, pure, hresolved,
      workAt_of_member hm]
    cases houtcome : outcome resolved.run (s.workbench m) with
    | error e => cases result <;> exact Or.inl rfl
    | ok reply =>
      cases reply with
      | derived b =>
        cases result with
        | none => exact Or.inl rfl
        | some result => exact Or.inr ⟨result, b, rfl, rfl⟩
      | _ => cases result <;> exact Or.inl rfl
  rcases hleft with hleft | ⟨result, b, houtcome, hleft⟩
  · rw [hleft]
    refine ⟨rfl, [], (List.append_nil _).symm, ?_⟩
    intro n hn
    cases hn
  · rw [hleft]
    refine ⟨rfl, _, rfl, ?_⟩
    intro n hn
    obtain rfl := List.mem_singleton.mp hn
    refine ⟨?_, Workbench.derived_request houtcome⟩
    rw [putBack_members_getElem? hm]
    rfl

/-- After a request that is answered by the builder itself, the session is as the work left it. -/
theorem request_of_itself {place : Nat} (name : String) {req : Request String}
    {resolved : Request Builder} {s : Session} {m : Member} (hm : s.members[place]? = some m)
    (hresolved : req.resolve s.find = .ok resolved) {w : Workbench}
    (hrun : resolved.run (s.workbench m) = .ok .itself w) (result : Option String) :
    (request place name req result s).1.outcome = .ok .itself ∧
      (request place name req result s).2 = s.putBack place m w := by
  unfold request
  simp only [bind, StateT.bind, get, getThe, MonadStateOf.get, StateT.get, pure, hresolved,
    workAt_of_ok hm hrun]
  cases result <;> exact ⟨rfl, rfl⟩

theorem course_requestVisits (place : Nat) (name : String) (req : Request String)
    (result : Option String) (s : Session) :
    Course s (requestVisits place name req result s) (request place name req result s).2 := by
  cases hresolved : req.resolve s.find with
  | error e =>
    simp only [requestVisits, request, bind, StateT.bind, get, getThe, MonadStateOf.get,
      StateT.get, pure, hresolved]
    exact .nil s
  | ok resolved =>
    cases hm : s.members[place]? with
    | none =>
      simp only [requestVisits, request, bind, StateT.bind, get, getThe, MonadStateOf.get,
        StateT.get, pure, hresolved, workAt_of_none hm, visitAt_of_none hm]
      exact .nil s
    | some m =>
      obtain ⟨hcontrollers, hmembers⟩ := request_after name hm hresolved result
      simp only [requestVisits, hresolved, visitAt_of_member hm, List.map_cons, List.map_nil]
      refine Course.single (v := ⟨place, .request resolved, s, _, _⟩) (m := m)
        ⟨hm, rfl, hcontrollers, hmembers, ?_⟩
      intro req' hreq' other hother
      cases hreq'
      exact builderAt?_of_merged hresolved hother

section Blocks

variable {place : Nat} {s entered : Session} (name : String) {bracket : Bracket}
  (body : StateM Session (List Answer × Option Failure)) {events : List Event}

theorem block_of_absent (h : s.members[place]? = none) :
    block place name bracket body s = (unknown name (some []), s) := by
  unfold block
  simp only [bind, StateT.bind, pure, workAt_of_none h]
  rfl

theorem block_of_refused {e : Failure}
    (h : workAt place bracket.enter s = (some (.error e, events), entered)) :
    block place name bracket body s =
      (⟨.error e, events, entered.builderAt? place, some []⟩, entered) := by
  unfold block
  simp only [bind, StateT.bind, pure, h]
  rfl

theorem block_snd_of_entered (h : workAt place bracket.enter s = (some (.ok (), events), entered)) :
    (block place name bracket body s).2 =
      (workAt place (bracket.leave (body entered).1.2) (body entered).2).2 := by
  unfold block
  simp only [bind, StateT.bind, pure, h]
  rcases body entered with ⟨⟨inner, failure⟩, t⟩
  dsimp only
  rcases workAt place (bracket.leave failure) t with ⟨_ | ⟨left, leaving⟩, u⟩ <;> rfl

theorem block_of_entered {left : Except Failure Unit} {leaving : List Event} {u : Session}
    (h : workAt place bracket.enter s = (some (.ok (), events), entered))
    (hleave : workAt place (bracket.leave (body entered).1.2) (body entered).2 =
      (some (left, leaving), u)) :
    block place name bracket body s =
      (⟨blockOutcome (body entered).1.2 left, events ++ leaving, u.builderAt? place,
        some (body entered).1.1⟩, u) := by
  unfold block
  simp only [bind, StateT.bind, pure, h]
  rcases hbody : body entered with ⟨⟨inner, failure⟩, t⟩
  rw [hbody] at hleave
  simp only [hleave]
  rfl

end Blocks

/-- A block ends when it has failed to be entered, or its body is run and it is left. -/
theorem block_cases (place : Nat) (name : String) (kind : BlockKind)
    (body : StateM Session (List Answer × Option Failure)) (inner : Session → List Visit)
    (s : Session) :
    let entered := (workAt place kind.bracket.enter s).2
    (blockVisits place kind body inner s = visitAt place (.enter kind) s ∧
        (block place name kind.bracket body s).2 = entered) ∨
      (blockVisits place kind body inner s =
          visitAt place (.enter kind) s ++
            (inner entered ++ visitAt place (.leave kind (body entered).1.2) (body entered).2) ∧
        (block place name kind.bracket body s).2 =
          (workAt place (kind.bracket.leave (body entered).1.2) (body entered).2).2) := by
  intro entered
  cases hm : s.members[place]? with
  | none =>
    refine Or.inl ⟨?_, ?_⟩
    · rw [blockVisits, workAt_of_none hm, List.append_nil]
    · rw [block_of_absent name body hm]
      exact (congrArg Prod.snd (workAt_of_none hm _)).symm
  | some m =>
    rcases hwork : workAt place kind.bracket.enter s with ⟨_ | ⟨e | _, events⟩, t⟩
    · rw [workAt_of_member hm] at hwork
      cases hwork
    · obtain rfl : entered = t := congrArg Prod.snd hwork
      refine Or.inl ⟨?_, ?_⟩
      · rw [blockVisits, hwork, List.append_nil]
      · rw [block_of_refused name body hwork]
    · obtain rfl : entered = t := congrArg Prod.snd hwork
      refine Or.inr ⟨?_, ?_⟩
      · rw [blockVisits, hwork]
      · rw [block_snd_of_entered name body hwork]

theorem course_blockVisits {body : StateM Session (List Answer × Option Failure)}
    {inner : Session → List Visit} (hbody : ∀ s, Course s (inner s) (body s).2) (place : Nat)
    (name : String) (kind : BlockKind) (s : Session) :
    Course s (blockVisits place kind body inner s) (block place name kind.bracket body s).2 := by
  rcases block_cases place name kind body inner s with ⟨hvisits, hend⟩ | ⟨hvisits, hend⟩
  · rw [hvisits, hend]
    exact course_enter place kind s
  · rw [hvisits, hend]
    exact (course_enter place kind s).append ((hbody _).append (course_leave place kind _ _))

end Session

namespace Step

open Session

theorem runUntilFailure_cons (step : Step) (rest : List Step) (s : Session) :
    ((runUntilFailure (step :: rest) s).1.2, (runUntilFailure (step :: rest) s).2) =
      match (run step s).1.outcome with
      | .error e => (some e, (run step s).2)
      | .ok _ => ((runUntilFailure rest (run step s).2).1.2,
          (runUntilFailure rest (run step s).2).2) := by
  rw [runUntilFailure]
  simp only [bind, StateT.bind, pure]
  rcases run step s with ⟨⟨_ | _, events, builder, inner⟩, t⟩ <;> rfl

theorem runUntilFailure_cons_snd (step : Step) (rest : List Step) (s : Session) :
    (runUntilFailure (step :: rest) s).2 =
      match (run step s).1.outcome with
      | .error _ => (run step s).2
      | .ok _ => (runUntilFailure rest (run step s).2).2 := by
  have h := congrArg Prod.snd (runUntilFailure_cons step rest s)
  cases houtcome : (run step s).1.outcome <;> rw [houtcome] at h <;> exact h

theorem run_ask {name : String} {place : Nat} {s : Session}
    (hname : s.names.get? name = some place) (req : Request String) (result : Option String) :
    run (ask name req result) s = request place name req result s := by
  rw [run]
  simp only [bind, StateT.bind, get, getThe, MonadStateOf.get, StateT.get, pure, hname]

section Blocks

variable {name : String} {place : Nat} {s : Session} (hname : s.names.get? name = some place)
  (body : List Step)

include hname

theorem run_transaction : run (transaction name body) s =
    block place name transactionBracket (runUntilFailure body) s := by
  rw [run]
  simp only [bind, StateT.bind, get, getThe, MonadStateOf.get, StateT.get, pure, hname]

theorem visits_transaction : visits (transaction name body) s =
    blockVisits place .transaction (runUntilFailure body) (visitsUntilFailure body) s := by
  rw [visits]
  simp only [hname]

theorem run_whereClause : run (whereClause name body) s =
    block place name (whereBracket (s.contextAt place)) (runUntilFailure body) s := by
  rw [run]
  simp only [bind, StateT.bind, get, getThe, MonadStateOf.get, StateT.get, pure, hname]
  rfl

theorem visits_whereClause : visits (whereClause name body) s =
    blockVisits place (.whereClause (s.contextAt place)) (runUntilFailure body)
      (visitsUntilFailure body) s := by
  rw [visits]
  simp only [hname]

end Blocks

section Unknown

variable {name : String} {s : Session} (hname : s.names.get? name = none) (body : List Step)

include hname

/-- A block of a builder that there is not comes to nothing. -/
theorem transaction_of_unknown : run (transaction name body) s = (unknown name (some []), s) ∧
    visits (transaction name body) s = [] := by
  rw [run, visits]
  simp only [bind, StateT.bind, get, getThe, MonadStateOf.get, StateT.get, pure, hname]
  exact ⟨rfl, trivial⟩

theorem whereClause_of_unknown : run (whereClause name body) s = (unknown name (some []), s) ∧
    visits (whereClause name body) s = [] := by
  rw [run, visits]
  simp only [bind, StateT.bind, get, getThe, MonadStateOf.get, StateT.get, pure, hname]
  exact ⟨rfl, trivial⟩

end Unknown

mutual

theorem course_visits (step : Step) (s : Session) : Course s (visits step s) (run step s).2 := by
  match step with
  | ask name req result =>
    rw [visits, run]
    simp only [bind, StateT.bind, get, getThe, MonadStateOf.get, StateT.get, pure]
    cases s.names.get? name with
    | none => exact .nil s
    | some place => exact course_requestVisits place name req result s
  | fail name failure => exact .nil s
  | transaction name body =>
    cases hname : s.names.get? name with
    | none =>
      obtain ⟨hrun, hvisits⟩ := transaction_of_unknown hname body
      rw [hrun, hvisits]
      exact .nil s
    | some place =>
      rw [run_transaction hname, visits_transaction hname]
      exact course_blockVisits (course_visitsUntilFailure body) place name .transaction s
  | whereClause name body =>
    cases hname : s.names.get? name with
    | none =>
      obtain ⟨hrun, hvisits⟩ := whereClause_of_unknown hname body
      rw [hrun, hvisits]
      exact .nil s
    | some place =>
      rw [run_whereClause hname, visits_whereClause hname]
      exact course_blockVisits (course_visitsUntilFailure body) place name (.whereClause _) s

theorem course_visitsUntilFailure (steps : List Step) (s : Session) :
    Course s (visitsUntilFailure steps s) (runUntilFailure steps s).2 := by
  match steps with
  | [] => exact .nil s
  | step :: rest =>
    have hstep := course_visits step s
    rw [visitsUntilFailure, runUntilFailure_cons_snd]
    dsimp only
    cases (run step s).1.outcome with
    | error e => rwa [List.append_nil]
    | ok reply => exact hstep.append (course_visitsUntilFailure rest _)

end

theorem course_visitsAll (steps : List Step) (s : Session) :
    Course s (visitsAll steps s) (runAll steps s).2 := by
  induction steps generalizing s with
  | nil => exact .nil s
  | cons step rest ih => exact (course_visits step s).append (ih (run step s).2)

theorem runAll_snd_eq (steps : List Step) (s : Session) :
    (runAll steps s).2 = s.afterVisits (visitsAll steps s) :=
  (course_visitsAll steps s).eq_afterVisits

end Step
end ParamSql
