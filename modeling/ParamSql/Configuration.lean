import ParamSql.Session

/-!
# Configurations

What the builders of one model have in common: their dialect and their collaborators. A setup names
the builders to be made from it and puts them into a session, where they share one controller.
-/

namespace ParamSql

structure Configuration where
  dialect : Dialect
  dataSource : Option (Installed DataSource)
  sanitizer : Option (Installed Sanitizer)

namespace Configuration

def builder (c : Configuration) : Builder :=
  { dialect := c.dialect, dataSource := c.dataSource, sanitizer := c.sanitizer }

def literal (c : Configuration) : String :=
  "BuilderConfig(dialect=" ++ Text.literal c.dialect.name ++ ")"

end Configuration

/-- Builders to be put into a session. -/
structure Setup where
  dialect : DialectChoice
  dataSource : Option DataSource
  sanitizer : Option Sanitizer
  controller : Option Controller
  names : List String
  /-- Whether a configuration is made of the common parts even when no builder needs it. -/
  isConfigured : Bool

namespace Setup

/-- The common parts, the collaborators under the given serial number. -/
def configuration (setup : Setup) (serial : Nat) : Except Failure Configuration :=
  setup.dialect.resolve.map fun dialect =>
    { dialect
      dataSource := setup.dataSource.map (⟨serial, ·⟩)
      sanitizer := setup.sanitizer.map (⟨serial, ·⟩) }

end Setup

namespace Session

def enroll (s : Session) (m : Member) (name : String) : Session :=
  { s with members := s.members ++ [m], names := s.names.insert name s.members.length }

/-- Puts the builders of a setup into the session. The dialect is looked up only when it is needed.
The answer is the configuration, if the setup makes one. -/
def addSetup (s : Session) (setup : Setup) : Except Failure (Session × Option Configuration) :=
  if setup.names.isEmpty && !setup.isConfigured then
    .ok (s, none)
  else
    (setup.configuration s.serial).map fun c =>
      let m : Member := ⟨c.builder, setup.controller.map fun _ => s.controllers.length⟩
      let s := { s with controllers := s.controllers ++ setup.controller.toList,
                        serial := s.serial + 1 }
      (setup.names.foldl (fun s name => s.enroll m name) s,
        if setup.isConfigured then some c else none)

def addSetups (s : Session) :
    List Setup → Except Failure (Session × List (Option Configuration))
  | [] => .ok (s, [])
  | setup :: rest =>
    (s.addSetup setup).bind fun (s, c) => (s.addSetups rest).map fun (s, cs) => (s, c :: cs)

def named (s : Session) : List (String × Builder) :=
  (s.names.entries.mergeSort fun a b => decide (a.1 ≤ b.1)).filterMap fun e =>
    (s.builderAt? e.2).map fun b => (e.1, b)

end Session
end ParamSql
