import ParamSql.Proofs.Changes

/-!
# Turns of transactions

Where a builder stands with its transactions is told by its nesting and its controller alone. A turn
begins, commits or rolls back: it moves the nesting, and only between zero and one it calls the
controller. So the standing is a small machine of its own, and a builder at work with its controller
moves as the machine does.
-/

namespace ParamSql

namespace Controller

/-- The controller after a call, which it may refuse. -/
def received (c : Controller) (call : TransactionCall) : Controller :=
  if call ∈ c.refuses then c else c.after call

def receivedAll (c : Controller) (calls : List TransactionCall) : Controller :=
  calls.foldl received c

/-- The calls by which the real transaction is opened: the controller is asked whether it is open,
and told to begin exactly when it answers that it is not. -/
def openingCalls (c : Controller) : List TransactionCall :=
  if .inTransaction ∈ c.refuses ∨ c.isOpen = true then [.inTransaction]
  else [.inTransaction, .begin]

/-- The first of the calls that the controller refuses, as a failure. -/
def refusal? (c : Controller) (calls : List TransactionCall) : Option Failure :=
  (calls.find? fun call => decide (call ∈ c.refuses)).map .transaction

theorem refusal?_singleton (c : Controller) (call : TransactionCall) :
    c.refusal? [call] = if call ∈ c.refuses then some (.transaction call) else none := by
  by_cases h : call ∈ c.refuses <;> simp [refusal?, h]

@[simp] theorem received_inTransaction (c : Controller) : c.received .inTransaction = c := by
  unfold received after
  split
  · rfl
  · split <;> rfl

@[simp] theorem refuses_received (c : Controller) (call : TransactionCall) :
    (c.received call).refuses = c.refuses := by
  unfold received after
  split
  · rfl
  · cases call <;> split <;> rfl

@[simp] theorem isLive_received (c : Controller) (call : TransactionCall) :
    (c.received call).isLive = c.isLive := by
  unfold received after
  split
  · rfl
  · cases call <;> split <;> simp_all

@[simp] theorem receivedAll_nil (c : Controller) : c.receivedAll [] = c := rfl

@[simp] theorem receivedAll_cons (c : Controller) (call : TransactionCall)
    (calls : List TransactionCall) :
    c.receivedAll (call :: calls) = (c.received call).receivedAll calls := rfl

theorem receivedAll_append (c : Controller) (first last : List TransactionCall) :
    c.receivedAll (first ++ last) = (c.receivedAll first).receivedAll last :=
  List.foldl_append

@[simp] theorem refuses_receivedAll (c : Controller) (calls : List TransactionCall) :
    (c.receivedAll calls).refuses = c.refuses := by
  induction calls generalizing c with
  | nil => rfl
  | cons call calls ih => rw [receivedAll_cons, ih, refuses_received]

theorem refusal?_receivedAll (c : Controller) (received calls : List TransactionCall) :
    (c.receivedAll received).refusal? calls = c.refusal? calls := by
  rw [refusal?, refusal?, refuses_receivedAll]

end Controller

structure Standing where
  depth : Nat
  controller : Controller

namespace Turn

def calls : Turn → Standing → List TransactionCall
  | begin, st => if st.depth = 0 then st.controller.openingCalls else []
  | commit, st => if st.depth = 1 then [.commit] else []
  | rollback, st => if st.depth = 1 then [.rollback] else []

def failure? (turn : Turn) (st : Standing) : Option Failure :=
  st.controller.refusal? (turn.calls st)

/-- The nesting after a turn. It is counted up after the controller has been called, and counted
down before. -/
def depthAfter : Turn → Standing → Nat
  | begin, st => if (begin.failure? st).isSome then st.depth else st.depth + 1
  | commit, st | rollback, st => st.depth - 1

def work : Turn → Work Unit
  | begin => Workbench.beginTransaction
  | commit => Workbench.commitTransaction
  | rollback => Workbench.rollbackTransaction

end Turn

theorem Turn.calls_begin_of_outside {st : Standing} (h : st.depth = 0) :
    begin.calls st = st.controller.openingCalls := if_pos h

theorem Turn.calls_begin_of_inside {st : Standing} (h : st.depth ≠ 0) : begin.calls st = [] :=
  if_neg h

def Standing.after (st : Standing) (turn : Turn) : Standing :=
  ⟨turn.depthAfter st, st.controller.receivedAll (turn.calls st)⟩

/-! ## Turns at a workbench -/

namespace Workbench

def SameBuilder (w w' : Workbench) : Prop := w'.builder = w.builder

namespace SameBuilder

theorem refl (w : Workbench) : SameBuilder w w := rfl

theorem trans {w w' w'' : Workbench} (first : SameBuilder w w') (last : SameBuilder w' w'') :
    SameBuilder w w'' :=
  Eq.trans last first

theorem keeps_record (event : Event) : Keeps SameBuilder (record event) := fun w => refl w

theorem keeps_call (c : Controller) (transaction : TransactionCall) :
    Keeps SameBuilder (call c transaction) := by
  refine .bind .trans (keeps_record _) ?_
  intro _
  dsimp only
  split
  · exact .bind .trans (.throw refl _) fun _ w => refl w
  · exact fun w => refl w

theorem keeps_openTransaction : Keeps SameBuilder openTransaction := by
  refine .bind .trans (.get refl) ?_
  intro w
  split
  · exact .pure refl _
  · refine .bind .trans (keeps_call _ _) ?_
    intro _
    split
    · exact .bind .trans (keeps_record _) fun _ => keeps_call _ _
    · exact .pure refl _

theorem keeps_closeTransaction (ending : TransactionCall) (message : String) :
    Keeps SameBuilder (closeTransaction ending message) := by
  refine .bind .trans (.get refl) ?_
  intro w
  split
  · exact .pure refl _
  · exact .bind .trans (keeps_record _) fun _ => keeps_call _ _

end SameBuilder

def SameButDepth (w w' : Workbench) : Prop := ∃ depth, w'.builder = { w.builder with depth }

namespace SameButDepth

theorem refl (w : Workbench) : SameButDepth w w := ⟨w.builder.depth, rfl⟩

theorem trans {w w' w'' : Workbench} (first : SameButDepth w w') (last : SameButDepth w' w'') :
    SameButDepth w w'' := by
  obtain ⟨_, hfirst⟩ := first
  obtain ⟨depth, hlast⟩ := last
  refine ⟨depth, ?_⟩
  rw [hlast, hfirst]

theorem of_sameBuilder {w w' : Workbench} (h : SameBuilder w w') : SameButDepth w w' :=
  ⟨w.builder.depth, h⟩

theorem keeps_leaveTransaction (ending : TransactionCall) (message : String) :
    Keeps SameButDepth (leaveTransaction ending message) := by
  refine .bind .trans (.get refl) ?_
  intro w
  dsimp only
  split
  · refine .bind .trans (fun w => ⟨_, rfl⟩) ?_
    intro _
    split
    · exact (SameBuilder.keeps_closeTransaction _ _).mono of_sameBuilder
    · exact .pure refl _
  · exact .pure refl _

theorem keeps_turn (turn : Turn) : Keeps SameButDepth turn.work := by
  cases turn with
  | begin =>
    refine .bind .trans (.get refl) ?_
    intro w
    dsimp only
    split
    · refine .bind .trans (SameBuilder.keeps_openTransaction.mono of_sameBuilder) ?_
      exact fun _ w => ⟨_, rfl⟩
    · exact fun w => ⟨_, rfl⟩
  | commit => exact keeps_leaveTransaction _ _
  | rollback => exact keeps_leaveTransaction _ _

end SameButDepth

/-- What became of work: how it ended, and what it left behind. -/
def ended (failure : Option Failure) (w : Workbench) : EStateM.Result Failure Workbench Unit :=
  match failure with
  | some e => .error e w
  | none => .ok () w

theorem remains_of_ended {work : Work Unit} {w w' : Workbench} {failure : Option Failure}
    (h : work w = ended failure w') : remains work w = w' := by
  rw [remains, h]
  cases failure <;> rfl

theorem outcome_of_ended {work : Work Unit} {w w' : Workbench} {failure : Option Failure}
    (h : work w = ended failure w') : outcome work w = failure.elim (.ok ()) .error := by
  rw [outcome, h]
  cases failure <;> rfl

/-- The controller has received calls, and the builder had no part in it. -/
structure Called (c : Controller) (transactions : List TransactionCall) (w w' : Workbench) :
    Prop where
  builder_eq : w'.builder = w.builder
  controller_eq : w'.controller = some (c.receivedAll transactions)
  calls_eq : w'.calls = w.calls ++ transactions

theorem Called.trans {c : Controller} {first last : List TransactionCall} {w w' w'' : Workbench}
    (hfirst : Called c first w w') (hlast : Called (c.receivedAll first) last w' w'') :
    Called c (first ++ last) w w'' where
  builder_eq := hlast.builder_eq.trans hfirst.builder_eq
  controller_eq := by rw [hlast.controller_eq, Controller.receivedAll_append]
  calls_eq := by rw [hlast.calls_eq, hfirst.calls_eq, List.append_assoc]

theorem bind_of_ended {first : Work Unit} {w w' : Workbench} (h : first w = ended none w')
    (next : Work Unit) : (first >>= fun _ => next) w = next w' :=
  bind_of_ok h fun _ => next

theorem bind_of_ended_some {first : Work Unit} {w w' : Workbench} {e : Failure}
    (h : first w = ended (some e) w') (next : Work Unit) :
    (first >>= fun _ => next) w = ended (some e) w' := by
  simp only [bind, EStateM.bind, h]
  rfl

theorem call_eq {w : Workbench} {c : Controller} (hc : w.controller = some c)
    (transaction : TransactionCall) :
    ∃ w', call c transaction w = ended (c.refusal? [transaction]) w' ∧
      Called c [transaction] w w' := by
  have hcalls : (w.events ++ [Event.call transaction]).filterMap Event.call? =
      w.calls ++ [transaction] := List.filterMap_append
  by_cases h : transaction ∈ c.refuses
  · have hrefusal : c.refusal? [transaction] = some (.transaction transaction) :=
      (c.refusal?_singleton transaction).trans (if_pos h)
    refine ⟨{ w with events := w.events ++ [.call transaction] }, ?_, rfl, ?_, hcalls⟩
    · unfold call
      rw [if_pos h, hrefusal]
      rfl
    · rw [hc, Controller.receivedAll_cons, Controller.received, if_pos h]
      rfl
  · have hrefusal : c.refusal? [transaction] = none :=
      (c.refusal?_singleton transaction).trans (if_neg h)
    refine ⟨{ w with events := w.events ++ [.call transaction]
                     controller := some (c.after transaction) }, ?_, rfl, ?_, hcalls⟩
    · unfold call
      rw [if_neg h, hrefusal]
      rfl
    · rw [Controller.receivedAll_cons, Controller.received, if_neg h]
      rfl

/-- A note in the log is no call. -/
theorem note_eq {w : Workbench} {c : Controller} (hc : w.controller = some c) (message : String) :
    ∃ w', record (.note message none) w = ended none w' ∧ Called c [] w w' := by
  refine ⟨_, rfl, rfl, hc, ?_⟩
  change (w.events ++ [Event.note message none]).filterMap Event.call? = _
  simp [calls, Event.note, Event.call?]

theorem notedCall_eq {w : Workbench} {c : Controller} (hc : w.controller = some c)
    (message : String) (transaction : TransactionCall) :
    ∃ w', (record (.note message none) >>= fun _ => call c transaction) w =
        ended (c.refusal? [transaction]) w' ∧ Called c [transaction] w w' := by
  obtain ⟨w₁, hnote, hnoted⟩ := note_eq hc message
  obtain ⟨w₂, hcall, hcalled⟩ := call_eq hnoted.controller_eq transaction
  exact ⟨w₂, (bind_of_ended hnote _).trans hcall, hnoted.trans hcalled⟩

theorem openTransaction_eq {w : Workbench} {c : Controller} (hc : w.controller = some c) :
    ∃ w', openTransaction w = ended (c.refusal? c.openingCalls) w' ∧
      Called c c.openingCalls w w' := by
  obtain ⟨w₁, hask, hasked⟩ := call_eq hc .inTransaction
  have hopen : openTransaction w = (call c .inTransaction >>= fun _ =>
      if !c.isOpen then
        record (.note "Beginning transaction" none) >>= fun _ => call c .begin
      else pure ()) w := by
    unfold openTransaction
    simp only [get_bind, hc]
  unfold Controller.openingCalls
  rw [hopen]
  by_cases hrefused : TransactionCall.inTransaction ∈ c.refuses
  · have hrefusal : c.refusal? [.inTransaction] = some (.transaction .inTransaction) :=
      (c.refusal?_singleton _).trans (if_pos hrefused)
    rw [hrefusal] at hask
    rw [if_pos (Or.inl hrefused), hrefusal, bind_of_ended_some hask]
    exact ⟨w₁, rfl, hasked⟩
  · have hrefusal : c.refusal? [.inTransaction] = none :=
      (c.refusal?_singleton _).trans (if_neg hrefused)
    rw [hrefusal] at hask
    rw [bind_of_ended hask]
    cases hisOpen : c.isOpen with
    | true =>
      rw [if_pos (Or.inr rfl), hrefusal]
      exact ⟨w₁, rfl, hasked⟩
    | false =>
      have hc₁ := hasked.controller_eq
      rw [Controller.receivedAll_cons, Controller.received_inTransaction,
        Controller.receivedAll_nil] at hc₁
      obtain ⟨w₂, hbegin, hbegun⟩ := notedCall_eq hc₁ "Beginning transaction" .begin
      have hboth : c.refusal? [.inTransaction, .begin] = c.refusal? [.begin] := by
        simp [Controller.refusal?, hrefused]
      have hclosed : ¬ (TransactionCall.inTransaction ∈ c.refuses ∨ false = true) := by
        simp [hrefused]
      rw [if_neg hclosed, hboth]
      refine ⟨w₂, hbegin, hasked.trans ?_⟩
      rwa [Controller.receivedAll_cons, Controller.received_inTransaction,
        Controller.receivedAll_nil]

/-- Work that makes the given calls fails with the first that is refused, and sets the nesting. -/
def Does (work : Work Unit) (w : Workbench) (c : Controller) (transactions : List TransactionCall)
    (depth : Nat) : Prop :=
  ∃ w', work w = ended (c.refusal? transactions) w' ∧ w'.builder = { w.builder with depth } ∧
    w'.controller = some (c.receivedAll transactions) ∧ w'.calls = w.calls ++ transactions

theorem does_begin {w : Workbench} {c : Controller} (hc : w.controller = some c) :
    let st : Standing := ⟨w.builder.depth, c⟩
    Does beginTransaction w c (Turn.calls .begin st) (Turn.depthAfter .begin st) := by
  intro st
  by_cases hdepth : w.builder.depth = 0
  · have hbegin : beginTransaction w =
        (openTransaction >>= fun _ =>
          modifyBuilder fun b => { b with depth := b.depth + 1 }) w := by
      unfold beginTransaction
      simp only [get_bind, hdepth, if_true]
    have hcalls : Turn.calls .begin st = c.openingCalls := Turn.calls_begin_of_outside hdepth
    have hafter : Turn.depthAfter .begin st =
        if (c.refusal? c.openingCalls).isSome then w.builder.depth else w.builder.depth + 1 := by
      rw [Turn.depthAfter, Turn.failure?, hcalls]
    obtain ⟨w₁, hopen, hopened⟩ := openTransaction_eq hc
    rw [Does, hcalls, hafter, hbegin]
    cases hrefusal : c.refusal? c.openingCalls with
    | some e =>
      rw [hrefusal] at hopen
      exact ⟨w₁, bind_of_ended_some hopen _, hopened.builder_eq, hopened.controller_eq,
        hopened.calls_eq⟩
    | none =>
      rw [hrefusal] at hopen
      rw [bind_of_ended hopen]
      refine ⟨_, rfl, ?_, hopened.controller_eq, hopened.calls_eq⟩
      rw [← hopened.builder_eq]
      rfl
  · have hbegin : beginTransaction w =
        modifyBuilder (fun b => { b with depth := b.depth + 1 }) w := by
      unfold beginTransaction
      simp only [get_bind, hdepth, if_false]
    have hcalls : Turn.calls .begin st = [] := Turn.calls_begin_of_inside hdepth
    have hafter : Turn.depthAfter .begin st = w.builder.depth + 1 := by
      rw [Turn.depthAfter, Turn.failure?, hcalls]
      rfl
    rw [Does, hcalls, hafter, hbegin]
    exact ⟨_, rfl, rfl, hc, (List.append_nil _).symm⟩

theorem does_leave {w : Workbench} {c : Controller} (hc : w.controller = some c)
    (ending : TransactionCall) (message : String) :
    Does (leaveTransaction ending message) w c (if w.builder.depth = 1 then [ending] else [])
      (w.builder.depth - 1) := by
  let left : Workbench := { w with builder := { w.builder with depth := w.builder.depth - 1 } }
  have hleave : leaveTransaction ending message w =
      if 0 < w.builder.depth then
        if w.builder.depth = 1 then closeTransaction ending message left else .ok () left
      else .ok () w := by
    unfold leaveTransaction
    simp only [get_bind]
    split
    · split <;> rfl
    · rfl
  by_cases hone : w.builder.depth = 1
  · have hclose : closeTransaction ending message left =
        (record (.note message none) >>= fun _ => call c ending) left := by
      unfold closeTransaction
      simp only [get_bind, left, hc]
    obtain ⟨w₁, hend, hended⟩ := @notedCall_eq left c hc message ending
    rw [Does, hleave, if_pos (by omega), if_pos hone, if_pos hone, hclose]
    exact ⟨w₁, hend, hended.builder_eq, hended.controller_eq, hended.calls_eq⟩
  · rw [Does, hleave, if_neg hone, if_neg hone]
    refine ⟨left, ?_, rfl, hc, (List.append_nil _).symm⟩
    split
    · rfl
    · next hzero =>
      have hdepth : w.builder.depth - 1 = w.builder.depth := by omega
      simp only [left, hdepth]
      rfl

/-- At a workbench with a controller, a turn moves the builder and the controller as their standing
moves, and it fails when one of its calls is refused. -/
theorem does_turn (turn : Turn) {w : Workbench} {c : Controller} (hc : w.controller = some c) :
    let st : Standing := ⟨w.builder.depth, c⟩
    Does turn.work w c (turn.calls st) (turn.depthAfter st) := by
  cases turn with
  | begin => exact does_begin hc
  | commit => exact does_leave hc .commit "Committing transaction"
  | rollback => exact does_leave hc .rollback "Rolling back transaction"

end Workbench

end ParamSql
