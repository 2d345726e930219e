import ParamSql.Builder.Rendering
import ParamSql.Logger

/-!
# Transactions

Builders count how deeply transactions are nested; only the outermost one concerns the controller,
which owns the real transaction. A workbench puts a builder together with its controller and with
the events recorded so far.
-/

namespace ParamSql

/-- The owner of the real transaction. -/
structure Controller where
  isOpen : Bool := false
  isLive : Bool := false
  /-- The calls that it refuses. -/
  refuses : List TransactionCall := []
  deriving DecidableEq, Repr

namespace Controller

def after (c : Controller) (call : TransactionCall) : Controller :=
  if c.isLive then
    match call with
    | .inTransaction => c
    | .begin => { c with isOpen := true }
    | .commit | .rollback => { c with isOpen := false }
  else c

end Controller

structure Workbench where
  builder : Builder
  controller : Option Controller
  events : List Event := []
  /-- The serial number of the next collaborator to be installed. -/
  serial : Nat

/-- An operation at a workbench. What happened before a failure stays. -/
abbrev Work := EStateM Failure Workbench

namespace Workbench

def build {α : Type} (change : Build α) : Work α := fun w =>
  match change w.builder with
  | .ok a b => .ok a { w with builder := b }
  | .error e b => .error e { w with builder := b }

def modifyBuilder (change : Builder → Builder) : Work Unit :=
  modify fun w => { w with builder := change w.builder }

def record (event : Event) : Work Unit :=
  modify fun w => { w with events := w.events ++ [event] }

/-- Calls the controller. The call is recorded before its outcome is known. -/
def call (controller : Controller) (call : TransactionCall) : Work Unit := do
  record (.call call)
  if call ∈ controller.refuses then throw (.transaction call)
  modify fun w => { w with controller := some (controller.after call) }

def openTransaction : Work Unit := do
  match (← get).controller with
  | none => pure ()
  | some controller =>
    call controller .inTransaction
    if !controller.isOpen then
      record (.note "Beginning transaction" none)
      call controller .begin

def closeTransaction (ending : TransactionCall) (message : String) : Work Unit := do
  match (← get).controller with
  | none => pure ()
  | some controller =>
    record (.note message none)
    call controller ending

def beginTransaction : Work Unit := do
  if (← get).builder.depth = 0 then
    openTransaction
  modifyBuilder fun b => { b with depth := b.depth + 1 }

/-- Leaves a transaction, if there is one; the outermost one closes the real transaction, which is
then no longer counted whatever becomes of it. -/
def leaveTransaction (ending : TransactionCall) (message : String) : Work Unit := do
  let depth := (← get).builder.depth
  if 0 < depth then
    modifyBuilder fun b => { b with depth := b.depth - 1 }
    if depth = 1 then
      closeTransaction ending message

def commitTransaction : Work Unit := leaveTransaction .commit "Committing transaction"

def rollbackTransaction : Work Unit := leaveTransaction .rollback "Rolling back transaction"

end Workbench
end ParamSql
