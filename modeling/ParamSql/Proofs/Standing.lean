import ParamSql.Proofs.Turns
import ParamSql.Proofs.Course

/-!
# Standing in a session

Whatever happens in a session that is no turn of a builder, and no turn of another one on the same
controller, leaves the builder standing as it was. So in the course of a run the standing moves by
the turns of the builder alone, and these make all the calls that its controller receives.
-/

namespace ParamSql

/-- A block is left by the turn that is due, and by nothing if there is none. -/
theorem transactionBracket_leave (failure : Option Failure) :
    Session.transactionBracket.leave failure = (Turn.ending? failure).elim (pure ()) Turn.work := by
  cases failure with
  | none => rfl
  | some e =>
    change (if e.isInterruption then pure () else Workbench.rollbackTransaction) = _
    rw [Turn.ending?]
    split <;> rfl

/-- There is nothing to do for a block that is left without a turn. -/
theorem leave_of_interruption {failure : Option Failure} (h : Turn.ending? failure = none) :
    BlockKind.transaction.bracket.leave failure = pure () := by
  refine (transactionBracket_leave failure).trans ?_
  rw [h]
  rfl

namespace Errand

/-- An errand that takes a turn does nothing else. -/
theorem perform_of_turn {errand : Errand} {turn : Turn} (h : errand.turn? = some turn)
    (w : Workbench) : errand.perform w = remains turn.work w := by
  have hreply (work : Work Unit) :
      remains (work >>= fun _ => pure Reply.itself) w = remains work w := by
    unfold remains
    simp only [bind, EStateM.bind]
    cases work w <;> rfl
  cases errand with
  | request req =>
    cases req with
    | own operation =>
      cases operation with
      | beginTransaction =>
        cases h
        exact hreply _
      | commitTransaction =>
        cases h
        exact hreply _
      | rollbackTransaction =>
        cases h
        exact hreply _
      | _ => cases h
    | _ => cases h
  | enter block =>
    cases block with
    | transaction =>
      cases h
      rfl
    | whereClause before => cases h
  | leave block failure =>
    cases block with
    | transaction =>
      have hleave : BlockKind.transaction.bracket.leave failure = turn.work :=
        (transactionBracket_leave failure).trans (congrArg (Option.elim · _ _) h)
      rw [perform, hleave]
    | whereClause before => cases h

/-- An errand without a turn keeps the nesting and has nothing to do with the controller. -/
theorem perform_of_no_turn {errand : Errand} (h : errand.turn? = none) (w : Workbench) :
    (errand.perform w).builder.depth = w.builder.depth ∧
      (errand.perform w).controller = w.controller ∧ (errand.perform w).calls = w.calls := by
  cases errand with
  | request req =>
    have hedited : Keeps (Workbench.Edited req) req.run := Workbench.edited_request h
    exact ⟨(hedited w).edits.depth_eq, (hedited w).controller_eq, (hedited w).calls_eq⟩
  | enter block =>
    cases block with
    | transaction => cases h
    | whereClause before => exact ⟨rfl, rfl, rfl⟩
  | leave block failure =>
    cases block with
    | transaction =>
      rw [perform, leave_of_interruption h]
      exact ⟨rfl, rfl, rfl⟩
    | whereClause before => exact ⟨rfl, rfl, rfl⟩

end Errand

/-- The builder at a place has the controller at another, and so stands with its transactions. -/
structure Session.Stands (s : Session) (place i : Nat) (st : Standing) : Prop where
  member_eq : ∃ b : Builder, s.members[place]? = some ⟨b, some i⟩ ∧ b.depth = st.depth
  controller_eq : s.controllers[i]? = some st.controller

namespace Visit

def turnAt? (place : Nat) (v : Visit) : Option Turn :=
  if v.place = place then v.errand.turn? else none

/-- The visit is a turn that a builder at another place takes with the same controller. -/
def Intrudes (place i : Nat) (v : Visit) : Prop :=
  v.place ≠ place ∧ v.controller = some i ∧ v.errand.turn?.isSome = true

instance (place i : Nat) (v : Visit) : Decidable (v.Intrudes place i) :=
  inferInstanceAs (Decidable (_ ∧ _ ∧ _))

def standing (place : Nat) (v : Visit) (st : Standing) : Standing :=
  ((v.turnAt? place).map st.after).getD st

def turnCalls (place : Nat) (v : Visit) (st : Standing) : List TransactionCall :=
  ((v.turnAt? place).map fun turn => turn.calls st).getD []

variable {place i : Nat} {v : Visit} {m : Member} {st : Standing}

theorem turnAt?_eq {errand : Errand} (hplace : v.place = place) (herrand : v.errand = errand) :
    v.turnAt? place = errand.turn? := by
  rw [turnAt?, if_pos hplace, herrand]

theorem calls_eq_of_made (made : v.MadeOn m) :
    v.calls = (v.errand.perform (v.before.workbench m)).calls := by
  rw [calls, made.events_eq]
  rfl

theorem controller_of_made (made : v.MadeOn m) : v.controller = m.controller := by
  rw [controller, made.member_eq]
  rfl

theorem member_of_other_place (made : v.MadeOn m) (hplace : v.place ≠ place) {n : Member}
    (hn : v.before.members[place]? = some n) : v.after.members[place]? = some n := by
  obtain ⟨made, hmembers, _⟩ := made.members_eq
  have hlt : place < v.before.members.length := (List.getElem?_eq_some_iff.mp hn).1
  rw [hmembers, List.getElem?_append_left (by simpa [Session.putBack] using hlt)]
  exact (List.getElem?_set_ne hplace).trans hn

theorem member_of_place (made : v.MadeOn m) :
    v.after.members[v.place]? =
      some { m with builder := (v.errand.perform (v.before.workbench m)).builder } := by
  obtain ⟨new, hmembers, _⟩ := made.members_eq
  have hlt : v.place < v.before.members.length := (List.getElem?_eq_some_iff.mp made.member_eq).1
  rw [hmembers, List.getElem?_append_left (by simpa [Session.putBack] using hlt)]
  exact Session.putBack_members_getElem? made.member_eq _

theorem controllers_of_same (made : v.MadeOn m) {c : Controller}
    (hc : v.before.controllers[i]? = some c)
    (hsame : m.controller = some i →
      (v.errand.perform (v.before.workbench m)).controller = some c) :
    v.after.controllers[i]? = some c := by
  rw [made.controllers_eq, Session.putBack]
  dsimp only
  split
  · next j c' hj hc' =>
    by_cases hij : j = i
    · subst hij
      rw [hsame hj, Option.some.injEq] at hc'
      rw [List.getElem?_set_self (List.getElem?_eq_some_iff.mp hc).1, hc']
    · rw [List.getElem?_set_ne hij, hc]
  · exact hc

theorem workbench_controller (hm : m.controller = some i) (s : Session) :
    (s.workbench m).controller = s.controllers[i]? := by
  unfold Session.workbench
  rw [hm, Option.bind_some]

theorem callsTo_of_no_turn (made : v.MadeOn m) (h : v.controller = some i → v.errand.turn? = none) :
    callsTo i [v] = [] := by
  rw [callsTo_singleton]
  split
  · next hi => rw [calls_eq_of_made made, (Errand.perform_of_no_turn (h hi) _).2.2]; rfl
  · rfl

/-- A visit moves the standing by the turn it takes, if any, and makes the calls of that turn. -/
theorem stands_after (made : v.MadeOn m) (hst : v.before.Stands place i st)
    (hv : ¬ v.Intrudes place i) :
    v.after.Stands place i (v.standing place st) ∧ callsTo i [v] = v.turnCalls place st := by
  obtain ⟨depth, c⟩ := st
  obtain ⟨⟨b, hb, rfl⟩, hc⟩ := hst
  by_cases hplace : v.place = place
  · subst hplace
    obtain rfl : m = ⟨b, some i⟩ := Option.some.inj (made.member_eq.symm.trans hb)
    have hwork : (v.before.workbench ⟨b, some i⟩).controller = some c :=
      (workbench_controller rfl _).trans hc
    have hafter := member_of_place made
    cases hturn : v.errand.turn? with
    | none =>
      have hnone : v.turnAt? v.place = none := (turnAt?_eq rfl rfl).trans hturn
      obtain ⟨hdepth', hcontroller', _⟩ := Errand.perform_of_no_turn hturn
        (v.before.workbench ⟨b, some i⟩)
      rw [standing, turnCalls, hnone]
      refine ⟨⟨⟨_, hafter, hdepth'⟩, ?_⟩, callsTo_of_no_turn made fun _ => hturn⟩
      exact controllers_of_same made hc fun _ => hcontroller'.trans hwork
    | some turn =>
      have hsome : v.turnAt? v.place = some turn := (turnAt?_eq rfl rfl).trans hturn
      obtain ⟨w', hrun, hbuilder, hcontroller', hcalls⟩ := Workbench.does_turn turn hwork
      have hperform : v.errand.perform (v.before.workbench ⟨b, some i⟩) = w' := by
        rw [Errand.perform_of_turn hturn, Workbench.remains_of_ended hrun]
      rw [hperform] at hafter
      rw [standing, turnCalls, hsome]
      refine ⟨⟨⟨_, hafter, ?_⟩, ?_⟩, ?_⟩
      · rw [hbuilder]
        rfl
      · rw [made.controllers_eq, hperform, Session.putBack]
        dsimp only
        rw [hcontroller']
        exact List.getElem?_set_self (List.getElem?_eq_some_iff.mp hc).1
      · rw [callsTo_singleton, if_pos (controller_of_made made), calls_eq_of_made made, hperform,
          hcalls]
        rfl
  · have hnone : v.turnAt? place = none := if_neg hplace
    have hturn : v.controller = some i → v.errand.turn? = none := by
      intro hi
      cases h : v.errand.turn? with
      | none => rfl
      | some turn => exact absurd ⟨hplace, hi, by rw [h]; rfl⟩ hv
    rw [standing, turnCalls, hnone]
    refine ⟨⟨⟨b, member_of_other_place made hplace hb, rfl⟩, ?_⟩, callsTo_of_no_turn made hturn⟩
    refine controllers_of_same made hc ?_
    intro hi
    rw [(Errand.perform_of_no_turn (hturn ((controller_of_made made).trans hi)) _).2.1,
      workbench_controller hi, hc]
    rfl

end Visit

namespace Standing

def afterAll (st : Standing) (turns : List Turn) : Standing := turns.foldl after st

def callsAll : Standing → List Turn → List TransactionCall
  | _, [] => []
  | st, turn :: rest => turn.calls st ++ callsAll (st.after turn) rest

theorem controller_afterAll (st : Standing) (turns : List Turn) :
    (st.afterAll turns).controller = st.controller.receivedAll (st.callsAll turns) := by
  induction turns generalizing st with
  | nil => rfl
  | cons turn turns ih =>
    rw [callsAll, Controller.receivedAll_append]
    exact ih (st.after turn)

end Standing

/-- In the course of a run the standing moves by the turns of the builder alone, and these make all
calls that the controller receives, provided that no other builder takes a turn with it. -/
theorem Course.stands {s t : Session} {visits : List Visit} {place i : Nat} {st : Standing}
    (course : Course s visits t) (hst : s.Stands place i st)
    (hvisits : ∀ v ∈ visits, ¬ v.Intrudes place i) :
    let turns := visits.filterMap (Visit.turnAt? place)
    t.Stands place i (st.afterAll turns) ∧ Visit.callsTo i visits = st.callsAll turns := by
  induction course generalizing st with
  | nil => exact ⟨hst, rfl⟩
  | @cons v m rest t made _ ih =>
    obtain ⟨hafter, hcalls⟩ := Visit.stands_after made hst (hvisits v List.mem_cons_self)
    obtain ⟨hend, hrest⟩ := ih hafter fun v' hv' => hvisits v' (List.mem_cons_of_mem _ hv')
    dsimp only at hend hrest ⊢
    rw [Visit.callsTo_cons, hcalls, hrest]
    unfold Visit.standing at hend
    unfold Visit.turnCalls Visit.standing
    cases hturn : v.turnAt? place with
    | none =>
      rw [hturn] at hend
      rw [List.filterMap_cons_none hturn]
      exact ⟨hend, rfl⟩
    | some turn =>
      rw [hturn] at hend
      rw [List.filterMap_cons_some hturn]
      exact ⟨hend, rfl⟩

end ParamSql
