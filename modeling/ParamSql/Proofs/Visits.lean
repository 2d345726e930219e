import ParamSql.Proofs.Changes

/-!
# Runs of sessions, visit by visit

Steps are nested, but what they come to is one piece of work after the other, each at the workbench
of one builder. Such a piece is a visit; it has the session before it, the session after it and the
events recorded. The visits of a step are listed by recursion on its body, as the step is run.
-/

namespace ParamSql

/-- The two kinds of block. A WHERE clause remembers the context before it. -/
inductive BlockKind where
  | transaction
  | whereClause (before : Context)

def BlockKind.bracket : BlockKind → Session.Bracket
  | transaction => Session.transactionBracket
  | whereClause before => Session.whereBracket before

/-- What a builder is visited for. -/
inductive Errand where
  | request (request : Request Builder)
  | enter (block : BlockKind)
  /-- Leaves a block whose body failed so or, given none, succeeded. -/
  | leave (block : BlockKind) (failure : Option Failure)

/-- The turn by which a block is left after its body failed so or, given none, succeeded. After an
interruption there is none. -/
def Turn.ending? : Option Failure → Option Turn
  | none => some commit
  | some failure => if failure.isInterruption then none else some rollback

namespace Errand

def turn? : Errand → Option Turn
  | request req => req.turn?
  | enter .transaction => some .begin
  | leave .transaction failure => Turn.ending? failure
  | enter (.whereClause _) | leave (.whereClause _) _ => none

def isBareTurn : Errand → Bool
  | request req => req.turn?.isSome
  | enter _ | leave _ _ => false

def putsParam : Errand → Bool
  | request (.own (.putParam _ _)) => true
  | _ => false

def perform : Errand → Workbench → Workbench
  | request req, w => remains req.run w
  | enter block, w => remains block.bracket.enter w
  | leave block failure, w => remains (block.bracket.leave failure) w

end Errand

structure Visit where
  place : Nat
  errand : Errand
  before : Session
  events : List Event
  after : Session

namespace Visit

def controller (v : Visit) : Option Nat := (v.before.members[v.place]?).bind Member.controller

def calls (v : Visit) : List TransactionCall := v.events.filterMap Event.call?

/-- The calls that the controller at a place receives in the course of visits. -/
def callsTo (i : Nat) (visits : List Visit) : List TransactionCall :=
  (visits.filter fun v => decide (v.controller = some i)).flatMap calls

@[simp] theorem callsTo_append (i : Nat) (first last : List Visit) :
    callsTo i (first ++ last) = callsTo i first ++ callsTo i last := by
  simp [callsTo]

theorem callsTo_cons (i : Nat) (v : Visit) (rest : List Visit) :
    callsTo i (v :: rest) = callsTo i [v] ++ callsTo i rest :=
  callsTo_append i [v] rest

theorem callsTo_singleton (i : Nat) (v : Visit) :
    callsTo i [v] = if v.controller = some i then v.calls else [] := by
  by_cases h : v.controller = some i <;> simp [callsTo, h]

end Visit

namespace Session

/-- The visit to the builder at a place, if there is one. -/
def visitAt (place : Nat) (errand : Errand) (s : Session) : List Visit :=
  match s.members[place]? with
  | none => []
  | some m =>
    let w := errand.perform (s.workbench m)
    [⟨place, errand, s, w.events, s.putBack place m w⟩]

/-- The visit of a request, after which a builder that was made is part of the session. -/
def requestVisits (place : Nat) (name : String) (req : Request String) (result : Option String)
    (s : Session) : List Visit :=
  match req.resolve s.find with
  | .error _ => []
  | .ok resolved =>
    (visitAt place (.request resolved) s).map fun v =>
      { v with after := (request place name req result s).2 }

/-- The visits of a block: it is entered, and unless that fails its body runs and it is left. -/
def blockVisits (place : Nat) (kind : BlockKind)
    (body : StateM Session (List Answer × Option Failure)) (inner : Session → List Visit)
    (s : Session) : List Visit :=
  visitAt place (.enter kind) s ++
    match workAt place kind.bracket.enter s with
    | (some (.ok (), _), entered) =>
      inner entered ++ visitAt place (.leave kind (body entered).1.2) (body entered).2
    | _ => []

def contextAt (s : Session) (place : Nat) : Context :=
  ((s.builderAt? place).map Builder.context).getD {}

end Session

namespace Step

open Session

mutual

/-- The visits of a step, in order. -/
def visits : Step → Session → List Visit
  | ask name req result => fun s =>
    match s.names.get? name with
    | none => []
    | some place => requestVisits place name req result s
  | fail _ _ => fun _ => []
  | transaction name body => fun s =>
    match s.names.get? name with
    | none => []
    | some place =>
      blockVisits place .transaction (runUntilFailure body) (visitsUntilFailure body) s
  | whereClause name body => fun s =>
    match s.names.get? name with
    | none => []
    | some place =>
      blockVisits place (.whereClause (s.contextAt place)) (runUntilFailure body)
        (visitsUntilFailure body) s

def visitsUntilFailure : List Step → Session → List Visit
  | [] => fun _ => []
  | step :: rest => fun s =>
    visits step s ++
      match (run step s).1.outcome with
      | .error _ => []
      | .ok _ => visitsUntilFailure rest (run step s).2

end

/-- The visits of steps in turn, whatever becomes of each. -/
def visitsAll : List Step → Session → List Visit
  | [], _ => []
  | step :: rest, s => visits step s ++ visitsAll rest (run step s).2

end Step

namespace Session

theorem workAt_of_none {α : Type} {place : Nat} {s : Session} (h : s.members[place]? = none)
    (work : Work α) : workAt place work s = (none, s) := by
  unfold workAt
  rw [h]

theorem workAt_of_member {α : Type} {place : Nat} {s : Session} {m : Member}
    (h : s.members[place]? = some m) (work : Work α) :
    workAt place work s =
      (some (outcome work (s.workbench m), (remains work (s.workbench m)).events),
        s.putBack place m (remains work (s.workbench m))) := by
  unfold workAt outcome remains
  rw [h]
  cases hrun : work (s.workbench m) <;> simp only [hrun]

theorem workAt_of_ok {α : Type} {place : Nat} {s : Session} {m : Member}
    (h : s.members[place]? = some m) {work : Work α} {a : α} {w : Workbench}
    (hrun : work (s.workbench m) = .ok a w) :
    workAt place work s = (some (.ok a, w.events), s.putBack place m w) := by
  rw [workAt_of_member h]
  simp only [outcome, remains, hrun]

theorem visitAt_of_none {place : Nat} {s : Session} (h : s.members[place]? = none)
    (errand : Errand) : visitAt place errand s = [] := by
  unfold visitAt
  rw [h]

theorem visitAt_of_member {place : Nat} {s : Session} {m : Member}
    (h : s.members[place]? = some m) (errand : Errand) :
    visitAt place errand s = [⟨place, errand, s, (errand.perform (s.workbench m)).events,
      s.putBack place m (errand.perform (s.workbench m))⟩] := by
  unfold visitAt
  rw [h]

theorem mem_visitAt {place : Nat} {errand : Errand} {s : Session} {v : Visit}
    (hv : v ∈ visitAt place errand s) : v.place = place ∧ v.errand = errand := by
  cases hm : s.members[place]? with
  | none =>
    rw [visitAt_of_none hm] at hv
    cases hv
  | some m =>
    rw [visitAt_of_member hm] at hv
    obtain rfl := List.mem_singleton.mp hv
    exact ⟨rfl, rfl⟩

theorem mem_requestVisits {place : Nat} {name : String} {req : Request String}
    {result : Option String} {s : Session} {v : Visit}
    (hv : v ∈ requestVisits place name req result s) :
    ∃ resolved, v.errand = .request resolved := by
  unfold requestVisits at hv
  cases hresolved : req.resolve s.find with
  | error e =>
    rw [hresolved] at hv
    cases hv
  | ok resolved =>
    rw [hresolved] at hv
    obtain ⟨v', hv', rfl⟩ := List.mem_map.mp hv
    exact ⟨resolved, (mem_visitAt hv').2⟩

end Session

end ParamSql
