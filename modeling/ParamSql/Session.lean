import ParamSql.Operation

/-!
# Sessions

A session holds any number of builders under names of its user's choosing, and the controllers they
share. Steps are taken one after the other; a block is a step with steps of its own, which it runs
between entering and leaving a transaction or a WHERE clause of one builder, until one of them
fails. A block stays with the builder it was entered on, whatever its inner steps do to the name.
-/

namespace ParamSql

/-- A builder with the place of its controller in the session. -/
structure Member where
  builder : Builder
  controller : Option Nat

structure Session where
  members : List Member := []
  controllers : List Controller := []
  /-- The places of the builders that have names. -/
  names : Table Nat := ∅
  serial : Nat := 0

/-- One step of a session; the name says which builder it is about. -/
inductive Step where
  | ask (name : String) (request : Request String) (result : Option String)
  /-- Fails without asking anything. -/
  | fail (name : String) (failure : Failure)
  | transaction (name : String) (body : List Step)
  | whereClause (name : String) (body : List Step)

def Step.abandon (name reason : String) : Step := .fail name (.abandoned reason)

/-- What became of a step: its outcome, its own events, the builder afterwards, and the answers to
the inner steps of a block as far as they were taken. -/
structure Answer where
  outcome : Except Failure Reply
  events : List Event
  builder : Option Builder
  inner : Option (List Answer)

namespace Session

def builderAt? (s : Session) (place : Nat) : Option Builder :=
  (s.members[place]?).map Member.builder

def find (s : Session) (name : String) : Except Failure Builder :=
  match (s.names.get? name).bind s.builderAt? with
  | some b => .ok b
  | none => .error (.unknownBuilder name)

def workbench (s : Session) (m : Member) : Workbench where
  builder := m.builder
  controller := m.controller.bind (s.controllers[·]?)
  serial := s.serial

def putBack (s : Session) (place : Nat) (m : Member) (w : Workbench) : Session :=
  { s with
    members := s.members.set place { m with builder := w.builder }
    controllers :=
      match m.controller, w.controller with
      | some i, some c => s.controllers.set i c
      | _, _ => s.controllers
    serial := w.serial }

def workAt {α : Type} (place : Nat) (work : Work α) :
    StateM Session (Option (Except Failure α × List Event)) := fun s =>
  match s.members[place]? with
  | none => (none, s)
  | some m =>
    match work (s.workbench m) with
    | .ok a w => (some (.ok a, w.events), s.putBack place m w)
    | .error e w => (some (.error e, w.events), s.putBack place m w)

def adopt (place : Nat) (name : String) (b : Builder) : StateM Session Unit :=
  modify fun s =>
    { s with
      members := s.members ++ [⟨b, (s.members[place]?).bind Member.controller⟩]
      names := s.names.insert name s.members.length }

def unknown (name : String) (inner : Option (List Answer)) : Answer :=
  ⟨.error (.unknownBuilder name), [], none, inner⟩

def request (place : Nat) (name : String) (request : Request String) (result : Option String) :
    StateM Session Answer := do
  let s ← get
  match request.resolve s.find with
  | .error e => pure ⟨.error e, [], s.builderAt? place, none⟩
  | .ok request =>
    match ← workAt place request.run with
    | none => pure (unknown name none)
    | some (outcome, events) =>
      let after := (← get).builderAt? place
      match outcome, result with
      | .ok (.derived b), some result => adopt place result b
      | _, _ => pure ()
      pure ⟨outcome, events, after, none⟩

structure Bracket where
  enter : Work Unit
  /-- Leaves the block after its body failed or, given none, succeeded. -/
  leave : Option Failure → Work Unit

/-- Commits on success and rolls back on an error. An interruption goes through: the transaction is
not ended, and is still counted. -/
def transactionBracket : Bracket where
  enter := Workbench.beginTransaction
  leave
    | none => Workbench.commitTransaction
    | some failure =>
      if failure.isInterruption then pure () else Workbench.rollbackTransaction

def whereBracket (before : Context) : Bracket where
  enter := Workbench.modifyBuilder Builder.startWhere
  leave _ := Workbench.modifyBuilder fun b => { b with context := before }

/-- The outcome of a block: a failure to leave it, else the failure of its body. -/
def blockOutcome (failure : Option Failure) : Except Failure Unit → Except Failure Reply
  | .error e => .error e
  | .ok () =>
    match failure with
    | some e => .error e
    | none => .ok .itself

def block (place : Nat) (name : String) (bracket : Bracket)
    (body : StateM Session (List Answer × Option Failure)) : StateM Session Answer := do
  match ← workAt place bracket.enter with
  | none => pure (unknown name (some []))
  | some (.error e, events) => pure ⟨.error e, events, (← get).builderAt? place, some []⟩
  | some (.ok (), entering) =>
    let (inner, failure) ← body
    match ← workAt place (bracket.leave failure) with
    | none => pure (unknown name (some inner))
    | some (left, leaving) =>
      pure ⟨blockOutcome failure left, entering ++ leaving, (← get).builderAt? place, some inner⟩

end Session

namespace Step

open Session

mutual

def run : Step → StateM Session Answer
  | ask name req result => do
    match (← get).names.get? name with
    | none => pure (unknown name none)
    | some place => request place name req result
  | fail name failure => do
    let s ← get
    pure ⟨.error failure, [], (s.names.get? name).bind s.builderAt?, none⟩
  | transaction name body => do
    match (← get).names.get? name with
    | none => pure (unknown name (some []))
    | some place => block place name transactionBracket (runUntilFailure body)
  | whereClause name body => do
    let s ← get
    match s.names.get? name with
    | none => pure (unknown name (some []))
    | some place =>
      let before := ((s.builderAt? place).map Builder.context).getD {}
      block place name (whereBracket before) (runUntilFailure body)

/-- Takes the steps in turn up to the first failure, and gives their answers and that failure. -/
def runUntilFailure : List Step → StateM Session (List Answer × Option Failure)
  | [] => pure ([], none)
  | step :: rest => do
    let answer ← run step
    match answer.outcome with
    | .error e => pure ([answer], some e)
    | .ok _ =>
      let (answers, failure) ← runUntilFailure rest
      pure (answer :: answers, failure)

end

def runAll : List Step → StateM Session (List Answer)
  | [] => pure []
  | step :: rest => do
    let answer ← run step
    let answers ← runAll rest
    pure (answer :: answers)

end Step
end ParamSql
