import ParamSql.Proofs.Standing

/-!
# A builder that has its controller to itself

Nesting and real transaction agree as long as no other builder takes turns with the controller.
A nested builder has an open transaction, for it is counted in only after the controller has been
told to begin, and counted out before the controller is told to end. The reverse fails when an
ending is refused: the builder is out, and the transaction is still open. Since the controller is
asked before it is told to begin, it gets every call when the call is due.
-/

namespace ParamSql

namespace Controller

/-- The call comes when it is due: a transaction begins when none is open, and ends when one is. -/
def Expects (c : Controller) : TransactionCall → Prop
  | .inTransaction => True
  | .begin => c.isOpen = false
  | .commit | .rollback => c.isOpen = true

def Orderly : Controller → List TransactionCall → Prop
  | _, [] => True
  | c, call :: rest => c.Expects call ∧ (c.received call).Orderly rest

theorem Orderly.append {c : Controller} {first last : List TransactionCall}
    (hfirst : c.Orderly first) (hlast : (c.receivedAll first).Orderly last) :
    c.Orderly (first ++ last) := by
  induction first generalizing c with
  | nil => exact hlast
  | cons call first ih => exact ⟨hfirst.1, ih hfirst.2 hlast⟩

theorem isOpen_received_begin {c : Controller} (hlive : c.isLive = true)
    (h : TransactionCall.begin ∉ c.refuses) : (c.received .begin).isOpen = true := by
  have hbegun : c.received .begin = { c with isOpen := true } := by
    rw [received, if_neg h]
    exact if_pos hlive
  rw [hbegun]

theorem isOpen_received_ending {c : Controller} {ending : TransactionCall}
    (hending : ending = .commit ∨ ending = .rollback) (hlive : c.isLive = true)
    (h : ending ∉ c.refuses) : (c.received ending).isOpen = false := by
  have hended : c.received ending = { c with isOpen := false } := by
    rw [received, if_neg h]
    rcases hending with rfl | rfl <;> exact if_pos hlive
  rw [hended]

end Controller

namespace Standing

/-- What a turn comes to: the calls it makes, and the standing after it. -/
inductive Moves (st : Standing) : List TransactionCall → Standing → Prop
  /-- Inside of a transaction, and outside of any, the turn is counted at most. -/
  | counted {depth : Nat} (h : 0 < depth ↔ 0 < st.depth) : Moves st [] ⟨depth, st.controller⟩
  | unanswered (h : st.depth = 0) : Moves st [.inTransaction] ⟨0, st.controller⟩
  /-- The real transaction was opened by somebody else. -/
  | joined (h : st.depth = 0) (hopen : st.controller.isOpen = true) :
      Moves st [.inTransaction] ⟨1, st.controller⟩
  | unopened (h : st.depth = 0) (hclosed : st.controller.isOpen = false) :
      Moves st [.inTransaction, .begin] ⟨0, st.controller⟩
  | opened (h : st.depth = 0) (hclosed : st.controller.isOpen = false)
      (hbegin : TransactionCall.begin ∉ st.controller.refuses) :
      Moves st [.inTransaction, .begin] ⟨1, st.controller.received .begin⟩
  | ended (h : st.depth = 1) {ending : TransactionCall}
      (hending : ending = .commit ∨ ending = .rollback) :
      Moves st [ending] ⟨0, st.controller.received ending⟩

theorem moves_begin (st : Standing) : st.Moves (Turn.calls .begin st) (st.after .begin) := by
  obtain ⟨depth, c⟩ := st
  rw [after, Turn.depthAfter, Turn.failure?]
  by_cases hdepth : depth = 0
  · subst hdepth
    rw [Turn.calls_begin_of_outside rfl]
    unfold Controller.openingCalls
    by_cases hask : TransactionCall.inTransaction ∈ c.refuses
    · have hrefusal : c.refusal? [.inTransaction] = some (.transaction .inTransaction) :=
        (c.refusal?_singleton _).trans (if_pos hask)
      rw [if_pos (Or.inl hask), hrefusal, Controller.receivedAll_cons,
        Controller.received_inTransaction]
      exact .unanswered rfl
    · cases hisOpen : c.isOpen with
      | true =>
        have hrefusal : c.refusal? [.inTransaction] = none :=
          (c.refusal?_singleton _).trans (if_neg hask)
        rw [if_pos (Or.inr rfl), hrefusal, Controller.receivedAll_cons,
          Controller.received_inTransaction]
        exact .joined rfl hisOpen
      | false =>
        rw [if_neg (by simp [hask]), Controller.receivedAll_cons,
          Controller.received_inTransaction]
        by_cases hbegin : TransactionCall.begin ∈ c.refuses
        · have hrefusal : c.refusal? [.inTransaction, .begin] = some (.transaction .begin) := by
            simp [Controller.refusal?, hask, hbegin]
          have hreceived : c.receivedAll [.begin] = c := if_pos hbegin
          rw [hrefusal, hreceived]
          exact .unopened rfl hisOpen
        · have hrefusal : c.refusal? [.inTransaction, .begin] = none := by
            simp [Controller.refusal?, hask, hbegin]
          rw [hrefusal]
          exact .opened rfl hisOpen hbegin
  · rw [Turn.calls_begin_of_inside hdepth]
    refine .counted ?_
    change 0 < depth + 1 ↔ 0 < depth
    omega

theorem moves_ending (st : Standing) {ending : TransactionCall}
    (hending : ending = .commit ∨ ending = .rollback) :
    st.Moves (if st.depth = 1 then [ending] else [])
      ⟨st.depth - 1, st.controller.receivedAll (if st.depth = 1 then [ending] else [])⟩ := by
  by_cases hone : st.depth = 1
  · rw [if_pos hone, hone]
    exact .ended hone hending
  · rw [if_neg hone]
    refine .counted ?_
    omega

theorem moves (st : Standing) (turn : Turn) : st.Moves (turn.calls st) (st.after turn) := by
  cases turn with
  | begin => exact st.moves_begin
  | commit => exact st.moves_ending (Or.inl rfl)
  | rollback => exact st.moves_ending (Or.inr rfl)

/-- A nested builder has an open transaction. -/
structure Sound (st : Standing) : Prop where
  isLive : st.controller.isLive = true
  isOpen_of_nested : 0 < st.depth → st.controller.isOpen = true

/-- A builder is nested exactly as long as the transaction is open, which can always be ended. -/
structure Balanced (st : Standing) : Prop where
  isLive : st.controller.isLive = true
  commits : TransactionCall.commit ∉ st.controller.refuses
  rollsBack : TransactionCall.rollback ∉ st.controller.refuses
  isOpen_iff : st.controller.isOpen = true ↔ 0 < st.depth

section Steps

variable {st st' : Standing} {calls : List TransactionCall}

theorem Sound.of_moves (h : st.Sound) (hmoves : st.Moves calls st') : st'.Sound := by
  cases hmoves with
  | counted hdepth => exact ⟨h.isLive, fun hpos => h.isOpen_of_nested (hdepth.mp hpos)⟩
  | unanswered | unopened => exact ⟨h.isLive, fun hpos => absurd hpos (Nat.lt_irrefl 0)⟩
  | joined _ hopen => exact ⟨h.isLive, fun _ => hopen⟩
  | opened _ _ hbegin =>
    refine ⟨?_, fun _ => Controller.isOpen_received_begin h.isLive hbegin⟩
    exact (Controller.isLive_received _ _).trans h.isLive
  | ended =>
    refine ⟨?_, fun hpos => absurd hpos (Nat.lt_irrefl 0)⟩
    exact (Controller.isLive_received _ _).trans h.isLive

theorem Sound.orderly_of_moves (h : st.Sound) (hmoves : st.Moves calls st') :
    st.controller.Orderly calls := by
  cases hmoves with
  | counted => trivial
  | unanswered | joined => exact ⟨trivial, trivial⟩
  | unopened _ hclosed | opened _ hclosed =>
    refine ⟨trivial, ?_, trivial⟩
    rw [Controller.received_inTransaction]
    exact hclosed
  | ended hone hending =>
    have hopen : st.controller.isOpen = true := h.isOpen_of_nested (by omega)
    rcases hending with rfl | rfl <;> exact ⟨hopen, trivial⟩

theorem Balanced.of_moves (h : st.Balanced) (hmoves : st.Moves calls st') : st'.Balanced := by
  have hreceived (call : TransactionCall) :
      (st.controller.received call).refuses = st.controller.refuses := by simp
  cases hmoves with
  | counted hdepth => exact ⟨h.isLive, h.commits, h.rollsBack, h.isOpen_iff.trans hdepth.symm⟩
  | unanswered hzero | unopened hzero =>
    exact ⟨h.isLive, h.commits, h.rollsBack, hzero ▸ h.isOpen_iff⟩
  | joined hzero hopen =>
    -- No transaction is open outside of one's own.
    have hpos := h.isOpen_iff.mp hopen
    omega
  | opened _ _ hbegin =>
    refine ⟨?_, ?_, ?_, ?_⟩
    · exact (Controller.isLive_received _ _).trans h.isLive
    · exact (hreceived _).symm ▸ h.commits
    · exact (hreceived _).symm ▸ h.rollsBack
    · exact iff_of_true (Controller.isOpen_received_begin h.isLive hbegin) Nat.one_pos
  | @ended _ ending hending =>
    have hagreed : ending ∉ st.controller.refuses := by
      rcases hending with rfl | rfl
      · exact h.commits
      · exact h.rollsBack
    have hclosed := Controller.isOpen_received_ending hending h.isLive hagreed
    refine ⟨?_, ?_, ?_, ?_⟩
    · exact (Controller.isLive_received _ _).trans h.isLive
    · exact (hreceived _).symm ▸ h.commits
    · exact (hreceived _).symm ▸ h.rollsBack
    · exact iff_of_false (by simp [hclosed]) (Nat.lt_irrefl 0)

end Steps

theorem Sound.afterAll {st : Standing} (h : st.Sound) (turns : List Turn) :
    (st.afterAll turns).Sound ∧ st.controller.Orderly (st.callsAll turns) := by
  induction turns generalizing st with
  | nil => exact ⟨h, trivial⟩
  | cons turn turns ih =>
    obtain ⟨hend, hrest⟩ := ih (h.of_moves (st.moves turn))
    exact ⟨hend, (h.orderly_of_moves (st.moves turn)).append hrest⟩

theorem Balanced.afterAll {st : Standing} (h : st.Balanced) (turns : List Turn) :
    (st.afterAll turns).Balanced := by
  induction turns generalizing st with
  | nil => exact h
  | cons turn turns ih => exact ih (h.of_moves (st.moves turn))

end Standing

/-- In every run in which no other builder takes turns with its live controller, a builder calls the
controller only when the call is due. After every visit of the run the real transaction is open if
the builder is nested, and only then if it was so at first and the endings are never refused. -/
theorem nesting_agrees_with_transaction {s : Session} {place i : Nat} {b : Builder} {c : Controller}
    (hmember : s.members[place]? = some ⟨b, some i⟩) (hcontroller : s.controllers[i]? = some c)
    (hlive : c.isLive = true) (hnested : 0 < b.depth → c.isOpen = true) (steps : List Step)
    (hsole : ∀ v ∈ Step.visitsAll steps s, ¬ v.Intrudes place i) :
    (Step.runAll steps s).2 = s.afterVisits (Step.visitsAll steps s) ∧
      c.Orderly (Visit.callsTo i (Step.visitsAll steps s)) ∧
        ∀ done todo, Step.visitsAll steps s = done ++ todo →
          ∃ b' c', (s.afterVisits done).members[place]? = some ⟨b', some i⟩ ∧
            (s.afterVisits done).controllers[i]? = some c' ∧
              c' = c.receivedAll (Visit.callsTo i done) ∧
                (0 < b'.depth → c'.isOpen = true) ∧
                  ((c.isOpen = true ↔ 0 < b.depth) → TransactionCall.commit ∉ c.refuses →
                    TransactionCall.rollback ∉ c.refuses → (c'.isOpen = true ↔ 0 < b'.depth)) := by
  let st : Standing := ⟨b.depth, c⟩
  have hst : s.Stands place i st := ⟨⟨b, hmember, rfl⟩, hcontroller⟩
  have hsound : st.Sound := ⟨hlive, hnested⟩
  have hcourse := Step.course_visitsAll steps s
  refine ⟨Step.runAll_snd_eq steps s, ?_, ?_⟩
  · rw [(hcourse.stands hst hsole).2]
    exact (hsound.afterAll _).2
  · intro done todo hvisits
    rw [hvisits] at hcourse hsole
    have hdone : ∀ v ∈ done, ¬ v.Intrudes place i :=
      fun v hv => hsole v (List.mem_append_left todo hv)
    obtain ⟨⟨⟨b', hmember', hdepth'⟩, hcontroller'⟩, hcalls⟩ := hcourse.split.1.stands hst hdone
    refine ⟨b', _, hmember', hcontroller', ?_, ?_, ?_⟩
    · rw [hcalls]
      exact st.controller_afterAll _
    · rw [hdepth']
      exact (hsound.afterAll _).1.isOpen_of_nested
    · intro hbalanced hcommit hrollback
      have hst : st.Balanced := ⟨hlive, hcommit, hrollback, hbalanced⟩
      rw [hdepth']
      exact (hst.afterAll _).isOpen_iff

theorem nesting_agrees_with_transaction_of_nested_blocks :
    let b : Builder := { dialect := Database.postgreSql.dialect }
    let s : Session :=
      { members := [⟨b, some 0⟩, ⟨b, none⟩], controllers := [{ isLive := true }]
        names := .ofList [("b", 0), ("other", 1)] }
    let steps : List Step :=
      [.transaction "b" [.ask "b" (.own .beginTransaction) none, .ask "b" (.own .clone) "copy",
          .ask "copy" (.own .startWhere) none, .transaction "b" [.abandon "b" "no use"]],
        .ask "other" (.own .beginTransaction) none, .ask "b" (.own .commitTransaction) none,
        .ask "b" (.own .reset) none, .ask "b" (.own .beginTransaction) none]
    (∀ v ∈ Step.visitsAll steps s, ¬ v.Intrudes 0 0) ∧
      Controller.Orderly { isLive := true }
        [.inTransaction, .begin, .commit, .inTransaction, .begin] ∧
      ∃ b' c', (Step.runAll steps s).2.members[0]? = some ⟨b', some 0⟩ ∧
        (Step.runAll steps s).2.controllers[0]? = some c' ∧ (c'.isOpen = true ↔ 0 < b'.depth) := by
  intro b s steps
  have hsole : ∀ v ∈ Step.visitsAll steps s, ¬ v.Intrudes 0 0 := by decide +kernel
  have hcalls : Visit.callsTo 0 (Step.visitsAll steps s) =
      [.inTransaction, .begin, .commit, .inTransaction, .begin] := by decide +kernel
  obtain ⟨hrun, horderly, hvisits⟩ :=
    nesting_agrees_with_transaction (s := s) (b := b) (c := { isLive := true }) rfl rfl rfl
      (by decide) steps hsole
  obtain ⟨b', c', hmember, hcontroller, _, _, hiff⟩ := hvisits _ [] (List.append_nil _).symm
  rw [hcalls] at horderly
  rw [hrun]
  exact ⟨hsole, horderly, b', c', hmember, hcontroller,
    hiff (by decide) (by decide) (by decide)⟩

end ParamSql
