import ParamSql.Proofs.SoleUser

/-!
# Builders that share a controller

A builder whose outermost begin finds the real transaction open joins it, and nothing records that
somebody else opened it. Its outermost ending ends the transaction like any other. So while calls
are never refused, an open transaction is always counted by some builder; but a builder may go on
counting one that another builder has ended, and then no builder has opened one since.
-/

namespace ParamSql

/-- The builder at a place, whose controller is at another, counts a transaction as open. -/
def Session.Counts (s : Session) (place i : Nat) : Prop :=
  ∃ b : Builder, s.members[place]? = some ⟨b, some i⟩ ∧ 0 < b.depth

/-- The builder counts a transaction as open, and there is none. -/
structure Session.CountsClosed (s : Session) (place i : Nat) : Prop where
  counts : s.Counts place i
  closed : ∃ c, s.controllers[i]? = some c ∧ c.isOpen = false

/-- On this visit another builder ends the open transaction that the builder at a place counts. -/
structure Visit.EndsFor (place i : Nat) (v : Visit) : Prop where
  place_ne : v.place ≠ place
  shared : v.controller = some i
  calls : v.calls = [.commit] ∨ v.calls = [.rollback]
  counts : v.before.Counts place i
  opened : ∃ c, v.before.controllers[i]? = some c ∧ c.isOpen = true

structure Controller.Reliable (c : Controller) : Prop where
  isLive : c.isLive = true
  refuses : c.refuses = []

theorem Controller.Reliable.received {c : Controller} (h : c.Reliable) (call : TransactionCall) :
    (c.received call).Reliable :=
  ⟨(isLive_received c call).trans h.isLive, (refuses_received c call).trans h.refuses⟩

theorem Session.Stands.counts_iff {s : Session} {place i : Nat} {st : Standing}
    (h : s.Stands place i st) : s.Counts place i ↔ 0 < st.depth := by
  obtain ⟨b, hb, hdepth⟩ := h.member_eq
  constructor
  · rintro ⟨b', hb', hpos⟩
    rw [hb] at hb'
    cases hb'
    omega
  · exact fun hpos => ⟨b, hb, by omega⟩

namespace Visit

/-- What a visit does to a controller, and what the visited builder counts before and after. -/
inductive Shifts (i : Nat) (v : Visit) (c : Controller) : Controller → Prop
  | still (same : v.after.Counts v.place i ↔ v.before.Counts v.place i) : Shifts i v c c
  | enters {c' : Controller} (isOpen : c'.isOpen = true) (counts : v.after.Counts v.place i) :
      Shifts i v c c'
  | leaves {c' : Controller} (isClosed : c'.isOpen = false)
      (uncounted : ¬ v.after.Counts v.place i) (shared : v.controller = some i)
      (calls : v.calls = [.commit] ∨ v.calls = [.rollback]) : Shifts i v c c'

variable {place i : Nat} {v : Visit} {m : Member} {c : Controller}

/-- The count of a builder is moved by visits to it alone, and a builder that is made has none. -/
theorem counts_of_other_place (made : v.MadeOn m) (hplace : v.place ≠ place) :
    v.after.Counts place i ↔ v.before.Counts place i := by
  constructor
  · rintro ⟨b, hb, hdepth⟩
    obtain ⟨new, hmembers, hnew⟩ := made.members_eq
    rw [hmembers, List.getElem?_append] at hb
    split at hb
    · exact ⟨b, (List.getElem?_set_ne hplace).symm.trans hb, hdepth⟩
    · obtain ⟨-, text, hcopy⟩ := hnew _ (List.mem_of_getElem? hb)
      have hzero : b.depth = 0 := congrArg Builder.depth hcopy
      omega
  · rintro ⟨b, hb, hdepth⟩
    exact ⟨b, member_of_other_place made hplace hb, hdepth⟩

theorem not_counts_of_controller (made : v.MadeOn m) (hm : m.controller ≠ some i) :
    ¬ v.after.Counts v.place i ∧ ¬ v.before.Counts v.place i := by
  constructor
  · rintro ⟨b, hb, -⟩
    rw [member_of_place made, Option.some.injEq] at hb
    exact hm (congrArg Member.controller hb)
  · rintro ⟨b, hb, -⟩
    rw [made.member_eq, Option.some.injEq] at hb
    exact hm (congrArg Member.controller hb)

theorem shifts_of_moves {b : Builder} {calls : List TransactionCall} {st' : Standing}
    (made : v.MadeOn ⟨b, some i⟩) (hc : c.Reliable)
    (hbefore : v.before.Stands v.place i ⟨b.depth, c⟩) (hafter : v.after.Stands v.place i st')
    (hcalls : v.calls = calls) (hmoves : Standing.Moves ⟨b.depth, c⟩ calls st') :
    v.Shifts i c st'.controller ∧ st'.controller.Reliable := by
  have hcounts := hafter.counts_iff
  cases hmoves with
  | counted hdepth => exact ⟨.still (hcounts.trans (hdepth.trans hbefore.counts_iff.symm)), hc⟩
  | unanswered hzero | unopened hzero =>
    have hsame : 0 < 0 ↔ v.before.Counts v.place i := by
      rw [hbefore.counts_iff]
      omega
    exact ⟨.still (hcounts.trans hsame), hc⟩
  | joined _ hopen => exact ⟨.enters hopen (hcounts.mpr Nat.one_pos), hc⟩
  | opened _ _ hbegin =>
    have hopen := Controller.isOpen_received_begin hc.isLive hbegin
    exact ⟨.enters hopen (hcounts.mpr Nat.one_pos), hc.received _⟩
  | @ended _ ending hending =>
    have hclosed := Controller.isOpen_received_ending hending hc.isLive (by simp [hc.refuses])
    refine ⟨.leaves hclosed (mt hcounts.mp (Nat.lt_irrefl 0)) (controller_of_made made) ?_,
      hc.received _⟩
    rcases hending with rfl | rfl
    · exact Or.inl hcalls
    · exact Or.inr hcalls

/-- Every visit in a session with a controller that refuses nothing is of one of these kinds. -/
theorem shifts (made : v.MadeOn m) (hc : v.before.controllers[i]? = some c)
    (hreliable : c.Reliable) :
    ∃ c', v.after.controllers[i]? = some c' ∧ v.Shifts i c c' ∧ c'.Reliable := by
  by_cases hm : m.controller = some i
  · obtain ⟨b, controller⟩ := m
    cases hm
    have hbefore : v.before.Stands v.place i ⟨b.depth, c⟩ := ⟨⟨b, made.member_eq, rfl⟩, hc⟩
    have hown : ¬ v.Intrudes v.place i := fun h => h.1 rfl
    obtain ⟨hafter, hcalls⟩ := stands_after made hbefore hown
    rw [callsTo_singleton, if_pos (controller_of_made made)] at hcalls
    refine ⟨_, hafter.controller_eq, ?_⟩
    cases hturn : v.turnAt? v.place with
    | none =>
      rw [standing, hturn] at hafter
      rw [standing, hturn]
      exact ⟨.still (hafter.counts_iff.trans hbefore.counts_iff.symm), hreliable⟩
    | some turn =>
      rw [standing, hturn] at hafter
      rw [turnCalls, hturn] at hcalls
      rw [standing, hturn]
      exact shifts_of_moves made hreliable hbefore hafter hcalls (Standing.moves _ turn)
  · obtain ⟨hafter, hbefore⟩ := not_counts_of_controller made hm
    refine ⟨c, ?_, .still (iff_of_false hafter hbefore), hreliable⟩
    exact controllers_of_same made hc fun h => absurd h hm

end Visit

/-- Another builder has ended the transaction that the builder at a place counted as open. Ever
since the builder has been counting one, and none has been open. -/
def EndedByOther (place i : Nat) (visits : List Visit) : Prop :=
  ∃ earlier v later, visits = earlier ++ v :: later ∧ v.EndsFor place i ∧
    ∀ u ∈ v :: later, u.after.CountsClosed place i

theorem EndedByOther.append {place i : Nat} {visits : List Visit} {v : Visit}
    (h : EndedByOther place i visits) (hafter : v.after.CountsClosed place i) :
    EndedByOther place i (visits ++ [v]) := by
  obtain ⟨earlier, u, later, rfl, hends, hsince⟩ := h
  refine ⟨earlier, u, later ++ [v], by simp, hends, ?_⟩
  rw [← List.cons_append, List.forall_mem_append]
  exact ⟨hsince, by simpa using hafter⟩

/-- How nesting and transaction agree among builders that share a controller. -/
structure Shared (i : Nat) (done : List Visit) (s : Session) : Prop where
  controller : ∃ c, s.controllers[i]? = some c ∧ c.Reliable ∧
    (c.isOpen = true → ∃ place, s.Counts place i)
  explained : ∀ place, s.CountsClosed place i → EndedByOther place i done

theorem Shared.visit {i : Nat} {done : List Visit} {v : Visit} {m : Member}
    (h : Shared i done v.before) (made : v.MadeOn m) : Shared i (done ++ [v]) v.after := by
  obtain ⟨⟨c, hc, hreliable, hcounted⟩, hexplained⟩ := h
  obtain ⟨c', hc', hshifts, hreliable'⟩ := Visit.shifts made hc hreliable
  have hclosed {place : Nat} (h : v.after.CountsClosed place i) : c'.isOpen = false := by
    obtain ⟨c₁, hc₁, hclosed⟩ := h.closed
    rw [hc'] at hc₁
    cases hc₁
    exact hclosed
  cases hshifts with
  | still hsame =>
    have hcounts (place : Nat) : v.after.Counts place i ↔ v.before.Counts place i := by
      by_cases hplace : v.place = place
      · exact hplace ▸ hsame
      · exact Visit.counts_of_other_place made hplace
    refine ⟨⟨c, hc', hreliable, fun hopen => ?_⟩, fun place hafter => ?_⟩
    · obtain ⟨place, hplace⟩ := hcounted hopen
      exact ⟨place, (hcounts place).mpr hplace⟩
    · have hbefore : v.before.CountsClosed place i :=
        ⟨(hcounts place).mp hafter.counts, c, hc, hclosed hafter⟩
      exact (hexplained place hbefore).append hafter
  | enters hopen hcounts =>
    refine ⟨⟨c', hc', hreliable', fun _ => ⟨v.place, hcounts⟩⟩, fun place hafter => ?_⟩
    simp [hclosed hafter] at hopen
  | leaves hisClosed hout hshared hcalls =>
    refine ⟨⟨c', hc', hreliable', fun hopen => ?_⟩, fun place hafter => ?_⟩
    · simp [hopen] at hisClosed
    · have hplace : v.place ≠ place := by
        rintro rfl
        exact hout hafter.counts
      have hbefore := (Visit.counts_of_other_place made hplace).mp hafter.counts
      cases hopen : c.isOpen with
      | true =>
        have hends : v.EndsFor place i := ⟨hplace, hshared, hcalls, hbefore, c, hc, hopen⟩
        exact ⟨done, v, [], rfl, hends, by simpa using hafter⟩
      | false => exact (hexplained place ⟨hbefore, c, hc, hopen⟩).append hafter

/-- Let a live controller that refuses nothing be shared by builders that count no transaction, and
be closed. Then in every session that a run passes through, an open transaction is counted by some
builder. A builder that counts a transaction finds it open, unless another builder has ended one
that it was counting and none has been opened since. -/
theorem shared_transaction {s : Session} {i : Nat} {c : Controller}
    (hcontroller : s.controllers[i]? = some c) (hlive : c.isLive = true) (hrefuses : c.refuses = [])
    (hclosed : c.isOpen = false) (houtside : ∀ place, ¬ s.Counts place i) (steps : List Step) :
    (Step.runAll steps s).2 = s.afterVisits (Step.visitsAll steps s) ∧
      ∀ done todo, Step.visitsAll steps s = done ++ todo →
        ∃ c', (s.afterVisits done).controllers[i]? = some c' ∧
          (c'.isOpen = true → ∃ place, (s.afterVisits done).Counts place i) ∧
            ∀ place, (s.afterVisits done).Counts place i →
              c'.isOpen = true ∨ EndedByOther place i done := by
  have hcourse := Step.course_visitsAll steps s
  refine ⟨Step.runAll_snd_eq steps s, ?_⟩
  intro done todo hvisits
  rw [hvisits] at hcourse
  have hstart : Shared i [] s := by
    refine ⟨⟨c, hcontroller, ⟨hlive, hrefuses⟩, fun hopen => ?_⟩, fun place h => ?_⟩
    · simp [hopen] at hclosed
    · exact absurd h.counts (houtside place)
  obtain ⟨⟨c', hc', -, hcounted⟩, hexplained⟩ :=
    hcourse.split.1.history hstart fun _ _ _ made h => h.visit made
  refine ⟨c', hc', hcounted, fun place hcounts => ?_⟩
  cases hopen : c'.isOpen with
  | true => exact Or.inl rfl
  | false => exact Or.inr (hexplained place ⟨hcounts, c', hc', hopen⟩)

theorem shared_transaction_of_clone :
    let b : Builder := { dialect := Database.sqlite.dialect }
    let s : Session :=
      { members := [⟨b, some 0⟩], controllers := [{ isLive := true }], names := .ofList [("b", 0)] }
    let steps : List Step :=
      [.ask "b" (.own .beginTransaction) none, .ask "b" (.own .clone) "copy",
        .transaction "copy" [.abandon "copy" "no use"], .ask "b" (.own .startWhere) none]
    (Step.runAll steps s).2.Counts 0 0 ∧ EndedByOther 0 0 (Step.visitsAll steps s) := by
  intro b s steps
  have houtside : ∀ place, ¬ s.Counts place 0 := by
    rintro (_ | place) ⟨b', hb', hdepth⟩
    · cases hb'
      exact absurd hdepth (Nat.lt_irrefl 0)
    · cases hb'
  obtain ⟨hrun, hvisits⟩ := shared_transaction (s := s) rfl rfl rfl rfl houtside steps
  obtain ⟨c', hc', -, hended⟩ := hvisits _ [] (List.append_nil _).symm
  rw [← hrun] at hc' hended
  have hcounts : (Step.runAll steps s).2.Counts 0 0 := ⟨_, rfl, by decide +kernel⟩
  refine ⟨hcounts, (hended 0 hcounts).resolve_left ?_⟩
  cases hc'
  decide +kernel

/-- A copy that begins and commits inside the transaction of its original ends that transaction. -/
theorem copy_ends_transaction_of_original :
    let b : Builder := { dialect := Database.postgreSql.dialect }
    let s : Session :=
      { members := [⟨b, some 0⟩], controllers := [{ isLive := true }], names := .ofList [("a", 0)] }
    let steps : List Step :=
      [.ask "a" (.own .beginTransaction) none, .ask "a" (.own .clone) "c",
        .ask "c" (.own .beginTransaction) none, .ask "c" (.own .commitTransaction) none]
    (Step.runAll (steps.take 3) s).2.controllers[0]? = some { isOpen := true, isLive := true } ∧
      (Step.runAll steps s).2.CountsClosed 0 0 := by
  intro b s steps
  refine ⟨rfl, ⟨_, rfl, ?_⟩, _, rfl, rfl⟩
  decide +kernel

end ParamSql
