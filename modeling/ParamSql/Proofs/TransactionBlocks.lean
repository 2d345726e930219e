import ParamSql.Proofs.Interruptions

/-!
# Blocks of transactions

However its body fails, a block of transactions leaves its builder as deeply nested as it found it,
unless it is interrupted: then the transaction is not ended and goes on being counted. A block
inside of a transaction does not call the controller at all. The outermost block opens the
transaction and, if that succeeds and nothing interrupts it, ends it once, after a body that has not
called the controller. The induction is on the steps of the body; what it carries is the standing of
a builder that is inside of a transaction.
-/

namespace ParamSql

open Session

/-- The visit leaves the transactions of the builder at a place to its blocks: it is no turn that
the builder takes outside of any block, and no turn of another builder with the same controller. -/
structure Visit.LeavesToBlocks (place i : Nat) (v : Visit) : Prop where
  not_bare : v.place = place → v.errand.isBareTurn = false
  not_intrudes : ¬ v.Intrudes place i

instance (place i : Nat) (v : Visit) : Decidable (v.LeavesToBlocks place i) :=
  decidable_of_iff ((v.place = place → v.errand.isBareTurn = false) ∧ ¬ v.Intrudes place i)
    ⟨fun h => ⟨h.1, h.2⟩, fun h => ⟨h.1, h.2⟩⟩

/-- The calls that end the transaction of a block after its body failed so or, given none,
succeeded. -/
def endingCalls : Option Failure → List TransactionCall
  | none => [.commit]
  | some failure => if failure.isInterruption then [] else [.rollback]

def closingCalls (depth : Nat) (failure : Option Failure) : List TransactionCall :=
  if depth = 1 then endingCalls failure else []

def Answer.calls (answer : Answer) : List TransactionCall := answer.events.filterMap Event.call?

/-- A block of transactions as it was run: its visits and those of its body, the answers to its body
and the failure of that, and what came of the block. -/
structure BlockRun where
  visits : List Visit
  inside : List Visit
  answers : List Answer
  failure : Option Failure
  answer : Answer
  after : Session

def Step.transactionRun (name : String) (place : Nat) (body : List Step) (s : Session) : BlockRun :=
  let entered := (workAt place transactionBracket.enter s).2
  { visits := visits (.transaction name body) s
    inside := visitsUntilFailure body entered
    answers := (runUntilFailure body entered).1.1
    failure := (runUntilFailure body entered).1.2
    answer := (run (.transaction name body) s).1
    after := (run (.transaction name body) s).2 }

namespace BlockRun

def interrupted (r : BlockRun) : Bool := r.failure.any Failure.isInterruption

/-- The block was entered with one list of calls and left with another, and there were none between.
It comes out as its body does, if the last calls are not refused. Once interrupted, it leaves its
transaction open beside those that were left open in the body. -/
structure Entered (r : BlockRun) (place i : Nat) (c : Controller)
    (opening closing : List TransactionCall) : Prop where
  visits_eq : ∃ enter leave, r.visits = enter :: (r.inside ++ [leave]) ∧
    enter.calls = opening ∧ leave.calls = closing
  callsTo_inside : Visit.callsTo i r.inside = []
  callsTo_eq : Visit.callsTo i r.visits = opening ++ closing
  calls_eq : r.answer.calls = opening ++ closing
  inner_eq : r.answer.inner = some r.answers
  outcome_eq : r.answer.outcome =
    blockOutcome r.failure ((c.refusal? closing).elim (.ok ()) .error)
  leftOpen_eq : Visit.leftOpen place r.visits =
    Visit.leftOpen place r.inside + if r.interrupted then 1 else 0

/-- One of the first calls was refused, so the body was not run. -/
structure Refused (r : BlockRun) (i : Nat) (opening : List TransactionCall) (e : Failure) :
    Prop where
  visits_eq : ∃ enter, r.visits = [enter] ∧ enter.calls = opening
  callsTo_eq : Visit.callsTo i r.visits = opening
  calls_eq : r.answer.calls = opening
  inner_eq : r.answer.inner = some []
  outcome_eq : r.answer.outcome = .error e

end BlockRun

/-- What a block of transactions comes to. A builder and its controller are as before the block. -/
structure BlockDiscipline (place i : Nat) (b : Builder) (c : Controller) (r : BlockRun) : Prop where
  depth_eq : ∃ b', r.after.members[place]? = some ⟨b', some i⟩ ∧
    b'.depth = b.depth + Visit.leftOpen place r.visits
  nothing_left_open : (∀ e, r.answer.outcome = .error e → e.isInterruption = false) →
    Visit.leftOpen place r.visits = 0
  nested : 0 < b.depth → r.Entered place i c [] []
  refused : b.depth = 0 → ∀ e, c.refusal? c.openingCalls = some e → r.Refused i c.openingCalls e
  outermost : b.depth = 0 → c.refusal? c.openingCalls = none →
    r.Entered place i c c.openingCalls (endingCalls r.failure)

def Standing.deeper (st : Standing) (n : Nat) : Standing := ⟨st.depth + n, st.controller⟩

@[simp] theorem Standing.deeper_zero (st : Standing) : st.deeper 0 = st := rfl

theorem Standing.deeper_deeper (st : Standing) (m n : Nat) :
    (st.deeper m).deeper n = st.deeper (m + n) :=
  congrArg (Standing.mk · st.controller) (Nat.add_assoc _ _ _)

theorem endingCalls_of_interruption {failure : Option Failure} (h : Turn.ending? failure = none) :
    endingCalls failure = [] := by
  obtain ⟨e, rfl, he⟩ := Turn.ending?_eq_none.mp h
  exact if_pos he

theorem closingCalls_of_interruption {failure : Option Failure} (h : Turn.ending? failure = none)
    (depth : Nat) : closingCalls depth failure = [] := by
  rw [closingCalls, endingCalls_of_interruption h, ite_self]

namespace Turn

theorem calls_ending {failure : Option Failure} {turn : Turn} (h : ending? failure = some turn)
    (st : Standing) : turn.calls st = closingCalls st.depth failure := by
  cases failure with
  | none =>
    cases h
    rfl
  | some e =>
    rw [ending?] at h
    rw [closingCalls, endingCalls]
    split at h
    · cases h
    · next hno =>
      cases h
      rw [if_neg hno]
      rfl

theorem depth_after_ending {failure : Option Failure} {turn : Turn}
    (h : ending? failure = some turn) (st : Standing) : (st.after turn).depth = st.depth - 1 := by
  cases turn with
  | begin =>
    cases failure with
    | none => cases h
    | some e =>
      rw [ending?] at h
      split at h <;> cases h
  | commit | rollback => rfl

theorem depth_after_begin {st : Standing} (h : begin.failure? st = none) :
    (st.after begin).depth = st.depth + 1 := by
  rw [Standing.after, depthAfter, h]
  rfl

theorem depth_after_refused_begin {st : Standing} {e : Failure} (h : begin.failure? st = some e) :
    (st.after begin).depth = st.depth := by
  rw [Standing.after, depthAfter, h]
  rfl

end Turn

variable {place i : Nat}

namespace Session

variable {s : Session} {st : Standing}

theorem Stands.outcome_turn {m : Member} (hst : s.Stands place i st)
    (hm : s.members[place]? = some m) (turn : Turn) :
    outcome turn.work (s.workbench m) = (turn.failure? st).elim (.ok ()) .error := by
  obtain ⟨depth, c⟩ := st
  obtain ⟨⟨b, hb, rfl⟩, hc⟩ := hst
  obtain rfl : m = ⟨b, some i⟩ := Option.some.inj (hm.symm.trans hb)
  have hwork : (s.workbench ⟨b, some i⟩).controller = some c :=
    (Visit.workbench_controller rfl s).trans hc
  obtain ⟨w', hrun, -⟩ := Workbench.does_turn turn hwork
  exact Workbench.outcome_of_ended hrun

/-- Work that is no request is one visit, by which the standing of the builder moves. -/
theorem Stands.visited (hst : s.Stands place i st) (errand : Errand) (work : Work Unit)
    (hperform : errand.perform = remains work) (hrequest : ∀ req, errand ≠ .request req) :
    ∃ v m, visitAt place errand s = [v] ∧ v.turnAt? place = errand.turn? ∧
      v.controller = some i ∧ v.calls = v.turnCalls place st ∧
      v.after.Stands place i (v.standing place st) ∧ s.members[place]? = some m ∧
      workAt place work s = (some (outcome work (s.workbench m), v.events), v.after) := by
  obtain ⟨⟨b, hb, hdepth⟩, hc⟩ := hst
  let w := s.workbench ⟨b, some i⟩
  let v : Visit := ⟨place, errand, s, (errand.perform w).events,
    s.putBack place ⟨b, some i⟩ (errand.perform w)⟩
  have made : v.MadeOn ⟨b, some i⟩ := madeOn_visitAt hb hrequest
  have hcontroller : v.controller = some i := Visit.controller_of_made made
  obtain ⟨hafter, hcalls⟩ := Visit.stands_after made ⟨⟨b, hb, hdepth⟩, hc⟩ fun h => h.1 rfl
  rw [Visit.callsTo_singleton, if_pos hcontroller] at hcalls
  refine ⟨v, _, visitAt_of_member hb errand, Visit.turnAt?_eq rfl rfl, hcontroller, hcalls, hafter,
    hb, ?_⟩
  rw [workAt_of_member hb, ← hperform]

theorem Stands.enters (hst : s.Stands place i st) :
    ∃ v, visitAt place (.enter .transaction) s = [v] ∧ v.controller = some i ∧
      v.calls = Turn.begin.calls st ∧ v.after.Stands place i (st.after .begin) ∧
      workAt place transactionBracket.enter s =
        (some ((Turn.begin.failure? st).elim (.ok ()) .error, v.events), v.after) := by
  obtain ⟨v, m, hvisit, hturn, hcontroller, hcalls, hafter, hm, hwork⟩ :=
    hst.visited (.enter .transaction) Turn.begin.work rfl (by simp)
  rw [Visit.turnCalls, hturn] at hcalls
  rw [Visit.standing, hturn] at hafter
  rw [hst.outcome_turn hm] at hwork
  exact ⟨v, hvisit, hcontroller, hcalls, hafter, hwork⟩

theorem leftOpen_enter {v : Visit} (hv : visitAt place (.enter .transaction) s = [v]) :
    Visit.leftOpen place [v] = 0 := by
  obtain ⟨-, herrand⟩ := mem_visitAt (hv ▸ List.mem_singleton_self v)
  rw [Visit.leftOpen_singleton, herrand]
  simp [Errand.leavesOpen]

theorem leftOpen_leave {failure : Option Failure} {v : Visit}
    (hv : visitAt place (.leave .transaction failure) s = [v]) :
    Visit.leftOpen place [v] = if failure.any Failure.isInterruption then 1 else 0 := by
  obtain ⟨hplace, herrand⟩ := mem_visitAt (hv ▸ List.mem_singleton_self v)
  rw [Visit.leftOpen_singleton, herrand, hplace, ← Turn.isNone_ending?]
  simp only [true_and]
  rfl

/-- The outermost block is left with a call, unless there is an interruption, and one inside of
another is left without. Only when the transaction is left open the nesting stays. -/
theorem Stands.leaves (hst : s.Stands place i st) (hdepth : 0 < st.depth)
    (failure : Option Failure) :
    ∃ v, visitAt place (.leave .transaction failure) s = [v] ∧ v.controller = some i ∧
      v.calls = closingCalls st.depth failure ∧
      v.after.Stands place i ⟨st.depth - 1 + Visit.leftOpen place [v],
        st.controller.receivedAll (closingCalls st.depth failure)⟩ ∧
      workAt place (transactionBracket.leave failure) s =
        (some ((st.controller.refusal? (closingCalls st.depth failure)).elim (.ok ()) .error,
          v.events), v.after) := by
  obtain ⟨v, m, hvisit, hturn, hcontroller, hcalls, hafter, hm, hwork⟩ :=
    hst.visited (.leave .transaction failure) (transactionBracket.leave failure) rfl (by simp)
  refine ⟨v, hvisit, hcontroller, ?_⟩
  rw [Visit.turnCalls, hturn, Errand.turn?] at hcalls
  rw [Visit.standing, hturn, Errand.turn?] at hafter
  rw [leftOpen_leave hvisit, ← Turn.isNone_ending?]
  rw [transactionBracket_leave] at hwork ⊢
  cases hending : Turn.ending? failure with
  | none =>
    have hsame : st.depth - 1 + 1 = st.depth := Nat.sub_add_cancel hdepth
    rw [hending] at hcalls hafter hwork
    rw [closingCalls_of_interruption hending, if_pos Option.isNone_none, hsame]
    exact ⟨hcalls, hafter, hwork⟩
  | some turn =>
    have hclosing : turn.calls st = closingCalls st.depth failure := Turn.calls_ending hending st
    have hstanding : st.after turn =
        ⟨st.depth - 1, st.controller.receivedAll (closingCalls st.depth failure)⟩ := by
      rw [← hclosing, ← Turn.depth_after_ending hending]
      rfl
    rw [hending] at hcalls hafter hwork
    rw [Option.elim_some, hst.outcome_turn hm, Turn.failure?, hclosing] at hwork
    exact ⟨hcalls.trans hclosing, hstanding ▸ hafter, hwork⟩

/-- Steps that are inside of a transaction have not called the controller, and the nesting of the
builder is up by the transactions that they left open. -/
structure KeptStanding (place i : Nat) (st : Standing) (visits : List Visit) (t : Session) :
    Prop where
  stands : t.Stands place i (st.deeper (Visit.leftOpen place visits))
  callsTo_eq : Visit.callsTo i visits = []

theorem KeptStanding.append {first last : List Visit} {t u : Session}
    (hfirst : KeptStanding place i st first t)
    (hlast : KeptStanding place i (st.deeper (Visit.leftOpen place first)) last u) :
    KeptStanding place i st (first ++ last) u where
  stands := by
    rw [Visit.leftOpen_append, ← Standing.deeper_deeper]
    exact hlast.stands
  callsTo_eq := by
    rw [Visit.callsTo_append, hfirst.callsTo_eq, hlast.callsTo_eq]
    rfl

theorem Stands.kept_nil (hst : s.Stands place i st) : KeptStanding place i st [] s := ⟨hst, rfl⟩

theorem Stands.kept_of_idle {t : Session} {visits : List Visit} (course : Course s visits t)
    (hst : s.Stands place i st) (hvisits : ∀ v ∈ visits, v.LeavesToBlocks place i)
    (hidle : ∀ v ∈ visits, v.place = place →
      v.errand.turn? = none ∧ v.errand.leavesOpen = false) :
    KeptStanding place i st visits t := by
  have hturns : visits.filterMap (Visit.turnAt? place) = [] := by
    refine List.filterMap_eq_nil_iff.mpr ?_
    intro v hv
    by_cases hplace : v.place = place
    · exact (Visit.turnAt?_eq hplace rfl).trans (hidle v hv hplace).1
    · exact if_neg hplace
  have hopen : Visit.leftOpen place visits = 0 := by
    refine List.countP_eq_zero.mpr ?_
    intro v hv
    by_cases hplace : v.place = place
    · simp [(hidle v hv hplace).2]
    · simp [hplace]
  have hrun := course.stands hst fun v hv => (hvisits v hv).not_intrudes
  rw [hturns] at hrun
  exact ⟨hopen ▸ hrun.1, hrun.2⟩

/-- Inside of a transaction, the steps keep the standing of the builder. -/
def KeepStanding (place i : Nat) (visits : Session → List Visit) (next : Session → Session) :
    Prop :=
  ∀ s st, s.Stands place i st → 0 < st.depth → (∀ v ∈ visits s, v.LeavesToBlocks place i) →
    KeptStanding place i st (visits s) (next s)

section Blocks

variable {body : StateM Session (List Answer × Option Failure)} {inner : Session → List Visit}

def blockRun (place : Nat) (name : String) (body : StateM Session (List Answer × Option Failure))
    (inner : Session → List Visit) (s : Session) : BlockRun :=
  let entered := (workAt place transactionBracket.enter s).2
  { visits := blockVisits place .transaction body inner s
    inside := inner entered
    answers := (body entered).1.1
    failure := (body entered).1.2
    answer := (block place name transactionBracket body s).1
    after := (block place name transactionBracket body s).2 }

theorem mem_blockVisits_of_inner {enter v : Visit}
    (hwork : workAt place transactionBracket.enter s = (some (.ok (), enter.events), enter.after))
    (hv : v ∈ inner enter.after) : v ∈ blockVisits place .transaction body inner s := by
  rw [blockVisits, show workAt place BlockKind.transaction.bracket.enter s = _ from hwork]
  exact List.mem_append_right _ (List.mem_append_left _ hv)

/-- A block that was entered: what its visits are, and what it comes to. -/
theorem blockRun_of_entered (name : String) {enter leave : Visit} {left : Except Failure Unit}
    (henter : visitAt place (.enter .transaction) s = [enter])
    (hwork : workAt place transactionBracket.enter s = (some (.ok (), enter.events), enter.after))
    (hleave : visitAt place (.leave .transaction (body enter.after).1.2) (body enter.after).2 =
      [leave])
    (hleft : workAt place (transactionBracket.leave (body enter.after).1.2) (body enter.after).2 =
      (some (left, leave.events), leave.after)) :
    blockRun place name body inner s =
      { visits := enter :: (inner enter.after ++ [leave])
        inside := inner enter.after
        answers := (body enter.after).1.1
        failure := (body enter.after).1.2
        answer := ⟨blockOutcome (body enter.after).1.2 left, enter.events ++ leave.events,
          leave.after.builderAt? place, some (body enter.after).1.1⟩
        after := leave.after } := by
  rw [blockRun, blockVisits, henter, block_of_entered name body hwork hleft,
    show workAt place BlockKind.transaction.bracket.enter s = _ from hwork, hwork]
  dsimp only
  rw [hleave]
  rfl

/-- A block that is entered takes one turn before its body, and at most one after it. -/
theorem Stands.entered_block (hst : s.Stands place i st) (name : String)
    (hinner : KeepStanding place i inner fun s => (body s).2)
    (hbegin : Turn.begin.failure? st = none)
    (hvisits : ∀ v ∈ blockVisits place .transaction body inner s, v.LeavesToBlocks place i) :
    let r := blockRun place name body inner s
    let closing := closingCalls (st.depth + 1 + Visit.leftOpen place r.inside) r.failure
    r.Entered place i st.controller (Turn.begin.calls st) closing ∧
      r.after.Stands place i ⟨st.depth + Visit.leftOpen place r.visits,
        (st.controller.receivedAll (Turn.begin.calls st)).receivedAll closing⟩ := by
  obtain ⟨enter, henter, hfirst, hopening, hentered, hwork⟩ := hst.enters
  rw [hbegin] at hwork
  have hdepth : (st.after .begin).depth = st.depth + 1 := Turn.depth_after_begin hbegin
  -- Once entered, the builder is inside of a transaction, where the body keeps the standing.
  have hbody := hinner enter.after _ hentered (by omega)
    fun v hv => hvisits v (mem_blockVisits_of_inner hwork hv)
  have hinside : ((st.after .begin).deeper (Visit.leftOpen place (inner enter.after))).depth =
      st.depth + 1 + Visit.leftOpen place (inner enter.after) :=
    congrArg (· + _) hdepth
  obtain ⟨leave, hleave, hlast, hclosing, hend, hleft⟩ :=
    hbody.stands.leaves (by omega) (body enter.after).1.2
  rw [hinside] at hclosing hend hleft
  have hopen : Visit.leftOpen place (enter :: (inner enter.after ++ [leave])) =
      Visit.leftOpen place (inner enter.after) + Visit.leftOpen place [leave] := by
    rw [← List.singleton_append, Visit.leftOpen_append, Visit.leftOpen_append,
      leftOpen_enter henter, Nat.zero_add]
  rw [blockRun_of_entered name henter hwork hleave hleft]
  refine ⟨?_, ?_⟩
  · exact
      { visits_eq := ⟨enter, leave, rfl, hopening, hclosing⟩
        callsTo_inside := hbody.callsTo_eq
        callsTo_eq := by
          rw [Visit.callsTo_cons, Visit.callsTo_append, hbody.callsTo_eq, Visit.callsTo_singleton,
            if_pos hfirst, hopening, Visit.callsTo_singleton, if_pos hlast, hclosing]
          rfl
        calls_eq := by
          rw [Answer.calls, List.filterMap_append]
          exact congrArg₂ _ hopening hclosing
        inner_eq := rfl
        outcome_eq := by
          rw [← st.controller.refusal?_receivedAll (Turn.begin.calls st)]
          rfl
        leftOpen_eq := hopen.trans (congrArg _ (leftOpen_leave hleave)) }
  · have hcount : st.depth + 1 + Visit.leftOpen place (inner enter.after) - 1 +
        Visit.leftOpen place [leave] =
          st.depth + Visit.leftOpen place (enter :: (inner enter.after ++ [leave])) := by omega
    rw [hcount] at hend
    exact hend

theorem Stands.refused_block (hst : s.Stands place i st) (name : String) {e : Failure}
    (hbegin : Turn.begin.failure? st = some e) :
    let r := blockRun place name body inner s
    r.Refused i (Turn.begin.calls st) e ∧ Visit.leftOpen place r.visits = 0 ∧
      r.after.Stands place i (st.after .begin) := by
  obtain ⟨enter, henter, hfirst, hopening, hentered, hwork⟩ := hst.enters
  rw [hbegin] at hwork
  have hvisits : blockVisits place .transaction body inner s = [enter] := by
    rw [blockVisits, henter,
      show workAt place BlockKind.transaction.bracket.enter s = _ from hwork]
    rfl
  rw [blockRun, hvisits, block_of_refused name body hwork]
  have hcalls : Visit.callsTo i [enter] = Turn.begin.calls st := by
    rw [Visit.callsTo_singleton, if_pos hfirst, hopening]
  exact ⟨⟨⟨enter, rfl, hopening⟩, hcalls, hopening, rfl, rfl⟩, leftOpen_enter henter, hentered⟩

/-- However a block of transactions is left, it counts up by those that are left open. -/
theorem Stands.depth_after_block (hst : s.Stands place i st) (name : String)
    (hinner : KeepStanding place i inner fun s => (body s).2)
    (hvisits : ∀ v ∈ blockVisits place .transaction body inner s, v.LeavesToBlocks place i) :
    let r := blockRun place name body inner s
    ∃ b, r.after.members[place]? = some ⟨b, some i⟩ ∧
      b.depth = st.depth + Visit.leftOpen place r.visits := by
  cases hbegin : Turn.begin.failure? st with
  | some e =>
    obtain ⟨-, hnone, ⟨b, hb, hdepth⟩, -⟩ := hst.refused_block name hbegin
    rw [Turn.depth_after_refused_begin hbegin] at hdepth
    exact ⟨b, hb, by rw [hnone, Nat.add_zero, hdepth]⟩
  | none => exact (hst.entered_block name hinner hbegin hvisits).2.member_eq

/-- Inside of a transaction, a further block of the builder makes no call. -/
theorem Stands.nested_block (hst : s.Stands place i st) (hdepth : 0 < st.depth) (name : String)
    (hinner : KeepStanding place i inner fun s => (body s).2)
    (hvisits : ∀ v ∈ blockVisits place .transaction body inner s, v.LeavesToBlocks place i) :
    let r := blockRun place name body inner s
    r.Entered place i st.controller [] [] ∧ KeptStanding place i st r.visits r.after := by
  have hopening : Turn.begin.calls st = [] := Turn.calls_begin_of_inside (by omega)
  have hbegin : Turn.begin.failure? st = none := by
    rw [Turn.failure?, hopening]
    rfl
  have hclosing (n : Nat) (failure : Option Failure) :
      closingCalls (st.depth + 1 + n) failure = [] := if_neg (by omega)
  obtain ⟨hentered, hafter⟩ := hst.entered_block name hinner hbegin hvisits
  rw [hopening, hclosing] at hentered hafter
  exact ⟨hentered, hafter, hentered.callsTo_eq⟩

/-- A block of another builder, or of a WHERE clause, is no block of transactions of the builder. -/
theorem idle_of_other_block {blockPlace : Nat} {kind : BlockKind} {errand : Errand}
    (hother : ¬ (blockPlace = place ∧ kind = .transaction))
    (herrand : errand = .enter kind ∨ ∃ failure, errand = .leave kind failure) {v : Visit}
    (hv : v ∈ visitAt blockPlace errand s) (hplace : v.place = place) :
    v.errand.turn? = none ∧ v.errand.leavesOpen = false := by
  obtain ⟨hvisited, rfl⟩ := mem_visitAt hv
  cases kind with
  | transaction => exact absurd ⟨hvisited.symm.trans hplace, rfl⟩ hother
  | whereClause before =>
    rcases herrand with h | ⟨failure, h⟩ <;> rw [h] <;> exact ⟨rfl, rfl⟩

/-- A block inside of a transaction keeps the standing if its body does. -/
theorem keepStanding_block (hinner : KeepStanding place i inner fun s => (body s).2)
    (blockPlace : Nat) (name : String) (kind : BlockKind) :
    KeepStanding place i (blockVisits blockPlace kind body inner)
      fun s => (block blockPlace name kind.bracket body s).2 := by
  intro s st hst hdepth hvisits
  by_cases hturns : blockPlace = place ∧ kind = .transaction
  · obtain ⟨rfl, rfl⟩ := hturns
    exact (hst.nested_block hdepth name hinner hvisits).2
  · rcases block_cases blockPlace name kind body inner s with ⟨hsplit, hend⟩ | ⟨hsplit, hend⟩
    · rw [hsplit] at hvisits ⊢
      dsimp only
      rw [hend]
      exact hst.kept_of_idle (course_enter blockPlace kind s) hvisits
        fun _ => idle_of_other_block hturns (Or.inl rfl)
    · rw [hsplit] at hvisits ⊢
      dsimp only
      rw [hend]
      simp only [List.forall_mem_append] at hvisits
      have hentered := hst.kept_of_idle (course_enter blockPlace kind s) hvisits.1
        fun _ => idle_of_other_block hturns (Or.inl rfl)
      have hbody := hinner _ _ hentered.stands (Nat.add_pos_left hdepth _) hvisits.2.1
      have hleft := hbody.stands.kept_of_idle (course_leave blockPlace kind _ _) hvisits.2.2
        fun _ => idle_of_other_block hturns (Or.inr ⟨_, rfl⟩)
      exact hentered.append (hbody.append hleft)

end Blocks
end Session

namespace Step

mutual

/-- Inside of a transaction every step keeps the standing. -/
theorem keepStanding_step (step : Step) :
    KeepStanding place i (visits step) fun s => (run step s).2 := by
  intro s st hst hdepth hvisits
  match step with
  | ask name req result =>
    -- The turn of a request is a bare one.
    refine hst.kept_of_idle (course_visits (ask name req result) s) hvisits ?_
    intro v hv hsame
    have hbare := (hvisits v hv).not_bare hsame
    rw [visits] at hv
    cases hplace : s.names.get? name with
    | none => simp [hplace] at hv
    | some askedPlace =>
      simp only [hplace] at hv
      obtain ⟨resolved, hrequest⟩ := mem_requestVisits hv
      rw [hrequest] at hbare ⊢
      exact ⟨Option.isNone_iff_eq_none.mp (Option.isSome_eq_false_iff.mp hbare), rfl⟩
  | fail name failure => exact hst.kept_nil
  | transaction name body =>
    cases hname : s.names.get? name with
    | none =>
      obtain ⟨hrun, hnothing⟩ := transaction_of_unknown hname body
      dsimp only
      rw [hrun, hnothing]
      exact hst.kept_nil
    | some blockPlace =>
      rw [visits_transaction hname] at hvisits ⊢
      dsimp only
      rw [run_transaction hname]
      exact keepStanding_block (keepStanding_body body) blockPlace name .transaction s st hst
        hdepth hvisits
  | whereClause name body =>
    cases hname : s.names.get? name with
    | none =>
      obtain ⟨hrun, hnothing⟩ := whereClause_of_unknown hname body
      dsimp only
      rw [hrun, hnothing]
      exact hst.kept_nil
    | some blockPlace =>
      rw [visits_whereClause hname] at hvisits ⊢
      dsimp only
      rw [run_whereClause hname]
      exact keepStanding_block (keepStanding_body body) blockPlace name (.whereClause _) s st hst
        hdepth hvisits

/-- So do the steps of a body, up to the first that fails. -/
theorem keepStanding_body (steps : List Step) :
    KeepStanding place i (visitsUntilFailure steps) fun s => (runUntilFailure steps s).2 := by
  intro s st hst hdepth hvisits
  match steps with
  | [] => exact hst.kept_nil
  | step :: rest =>
    rw [visitsUntilFailure] at hvisits ⊢
    dsimp only at hvisits ⊢
    rw [runUntilFailure_cons_snd]
    cases houtcome : (run step s).1.outcome with
    | error e =>
      rw [houtcome, List.append_nil] at hvisits
      rw [List.append_nil]
      exact keepStanding_step step s st hst hdepth hvisits
    | ok reply =>
      rw [houtcome] at hvisits
      simp only [List.forall_mem_append] at hvisits
      have hfirst := keepStanding_step step s st hst hdepth hvisits.1
      exact hfirst.append
        (keepStanding_body rest _ _ hfirst.stands (Nat.add_pos_left hdepth _) hvisits.2)

end

theorem transactionRun_eq {name : String} {place : Nat} {s : Session}
    (hname : s.names.get? name = some place) (body : List Step) :
    transactionRun name place body s =
      blockRun place name (runUntilFailure body) (visitsUntilFailure body) s := by
  rw [transactionRun, visits_transaction hname, run_transaction hname]
  rfl

/-- Outside of any transaction a block is left at depth one, unless it was interrupted: then there
is no call at any depth. -/
theorem closingCalls_transactionRun (name : String) (place : Nat) (body : List Step)
    (s : Session) :
    let r := transactionRun name place body s
    closingCalls (1 + Visit.leftOpen place r.inside) r.failure = endingCalls r.failure := by
  intro r
  cases hending : Turn.ending? r.failure with
  | none => rw [closingCalls_of_interruption hending, endingCalls_of_interruption hending]
  | some turn =>
    have hopen : Visit.leftOpen place r.inside = 0 := by
      refine leftOpen_body (fun e he => Bool.eq_false_iff.mpr fun hinterruption => ?_) place
      have hnone : Turn.ending? r.failure = none := Turn.ending?_eq_none.mpr ⟨e, he, hinterruption⟩
      rw [hending] at hnone
      cases hnone
    rw [hopen]
    rfl

end Step

/-- A block of transactions leaves its builder as deeply nested as it found it, unless it comes out
interrupted: then the transactions that were interrupted are counted still. Inside of a transaction
the block makes no call, and it comes out as its body does. Elsewhere it makes the calls that open
the transaction. If one of these is refused, the body is not run. Otherwise the only other call is a
commit after a body that succeeded and a rollback after one that failed, with none after an
interruption, and the block fails with the call, if that is refused, and else comes out as its body
does. -/
theorem transaction_block_discipline {s : Session} {name : String} {place i : Nat} {b : Builder}
    {c : Controller} (hname : s.names.get? name = some place)
    (hmember : s.members[place]? = some ⟨b, some i⟩) (hcontroller : s.controllers[i]? = some c)
    (body : List Step)
    (hbody : ∀ v ∈ Step.visits (.transaction name body) s, v.LeavesToBlocks place i) :
    BlockDiscipline place i b c (Step.transactionRun name place body s) := by
  let st : Standing := ⟨b.depth, c⟩
  have hst : s.Stands place i st := ⟨⟨b, hmember, rfl⟩, hcontroller⟩
  have hinner : KeepStanding place i (Step.visitsUntilFailure body)
      fun s => (Step.runUntilFailure body s).2 := Step.keepStanding_body body
  have hopening (hzero : b.depth = 0) : Turn.begin.calls st = c.openingCalls :=
    Turn.calls_begin_of_outside hzero
  have hbegin (hzero : b.depth = 0) : Turn.begin.failure? st = c.refusal? c.openingCalls := by
    rw [Turn.failure?, hopening hzero]
  have hclosed : (∀ e, (Step.transactionRun name place body s).answer.outcome = .error e →
      e.isInterruption = false) →
        Visit.leftOpen place (Step.transactionRun name place body s).visits = 0 :=
    fun hcomes => Step.leftOpen_step hcomes place
  have hclosing := Step.closingCalls_transactionRun name place body s
  rw [Step.visits_transaction hname] at hbody
  rw [Step.transactionRun_eq hname] at hclosed hclosing ⊢
  exact
    { depth_eq := hst.depth_after_block name hinner hbody
      nothing_left_open := hclosed
      nested := fun hpos => (hst.nested_block hpos name hinner hbody).1
      refused := fun hzero e he => by
        rw [← hopening hzero]
        exact (hst.refused_block name ((hbegin hzero).trans he)).1
      outermost := fun hzero hno => by
        obtain ⟨hentered, -⟩ := hst.entered_block name hinner ((hbegin hzero).trans hno) hbody
        rw [hopening hzero, show st.depth = 0 from hzero, Nat.zero_add, hclosing] at hentered
        exact hentered }

theorem transaction_block_discipline_of_refused_rollback :
    let b : Builder := { dialect := Database.postgreSql.dialect }
    let s : Session :=
      { members := [⟨b, some 0⟩, ⟨b, none⟩]
        controllers := [{ isLive := true, refuses := [.rollback] }]
        names := .ofList [("b", 0), ("other", 1)] }
    let body : List Step :=
      [.whereClause "b" [.transaction "b" [.ask "b" (.own .reset) none]],
        .ask "other" (.own .beginTransaction) none, .transaction "b" [.abandon "b" "no use"]]
    let r := Step.transactionRun "b" 0 body s
    (∀ v ∈ r.visits, v.LeavesToBlocks 0 0) ∧
      (∃ b', r.after.members[0]? = some ⟨b', some 0⟩ ∧ b'.depth = 0) ∧
      (∃ enter leave, r.visits = enter :: (r.inside ++ [leave]) ∧
        enter.calls = [.inTransaction, .begin] ∧ leave.calls = [.rollback]) ∧
      Visit.callsTo 0 r.inside = [] ∧ r.answer.calls = [.inTransaction, .begin, .rollback] ∧
      r.answer.outcome = .error (.transaction .rollback) := by
  intro b s body r
  have hvisits : ∀ v ∈ r.visits, v.LeavesToBlocks 0 0 := by decide +kernel
  have h : BlockDiscipline 0 0 b ⟨false, true, [.rollback]⟩ r :=
    transaction_block_discipline rfl rfl rfl body hvisits
  have houtermost := h.outermost rfl rfl
  have hfailure : r.failure = some (.abandoned "no use") := by decide +kernel
  have hopen : Visit.leftOpen 0 r.visits = 0 := by
    refine h.nothing_left_open fun e he => ?_
    rw [houtermost.outcome_eq, hfailure] at he
    cases he
    rfl
  obtain ⟨b', hb', hdepth⟩ := h.depth_eq
  rw [hopen] at hdepth
  rw [hfailure] at houtermost
  exact ⟨hvisits, ⟨b', hb', hdepth⟩, houtermost.visits_eq, houtermost.callsTo_inside,
    houtermost.calls_eq, houtermost.outcome_eq⟩

/-- A block that is interrupted leaves its builder nested and its transaction open. -/
theorem interrupted_block_goes_on_counting :
    let b : Builder := { dialect := Database.postgreSql.dialect }
    let s : Session :=
      { members := [⟨b, some 0⟩], controllers := [{ isLive := true }], names := .ofList [("b", 0)] }
    let r := Step.transactionRun "b" 0 [.fail "b" (.interrupted "stop")] s
    (∀ v ∈ r.visits, v.LeavesToBlocks 0 0) ∧ r.failure = some (.interrupted "stop") ∧
      r.answer.calls = [.inTransaction, .begin] ∧
      r.answer.outcome = .error (.interrupted "stop") ∧
      ∃ b', r.after.members[0]? = some ⟨b', some 0⟩ ∧ b.depth = 0 ∧ b'.depth = 1 := by
  intro b s r
  refine ⟨by decide +kernel, rfl, rfl, rfl, ?_⟩
  exact ⟨_, rfl, rfl, rfl⟩

end ParamSql
