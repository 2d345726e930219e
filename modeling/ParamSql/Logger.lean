import ParamSql.Event

/-!
# Loggers

Loggers form a tree by the dots in their names. A record is written when its level reaches the
threshold of its logger, which a logger without one of its own takes from its parent; and it is seen
by whoever listens at the library's logger when it was written at that logger or below it.
-/

namespace ParamSql
namespace Logger

def library : String := "sqlbits"

/-- The threshold of the library's loggers, and that of all others. -/
def libraryThreshold : Int := 10

def outerThreshold : Int := 30

def debug : Int := 10

def startsWith (name start : String) : Bool := start.toList.isPrefixOf name.toList

/-- The full name of a logger, which always begins with the name of the library. -/
def fullName : Option String → String
  | none => library
  | some name => if startsWith name library then name else library ++ "." ++ name

def isBelowLibrary (name : String) : Bool := startsWith name (library ++ ".")

/-- The threshold in force when the logger itself is given one; zero stands for none. -/
def effectiveThreshold (name : String) (own : Int) : Int :=
  if own ≠ 0 then own else if isBelowLibrary name then libraryThreshold else outerThreshold

def writes (name : String) (own level : Int) : Bool :=
  decide (0 < level) && decide (effectiveThreshold name own ≤ level)

/-- The events seen at the library's logger when a record is offered to the logger of that full
name. -/
def offer (name : String) (own level : Int) (message : String) (fields : Table Value) :
    List Event :=
  if writes name own level && (name == library || isBelowLibrary name) then
    [.log ⟨name, level, message, some fields⟩]
  else []

def builder : String := library ++ ".builder"

end Logger

namespace Event

def note (message : String) (fields : Option (Table Value)) : Event :=
  .log ⟨Logger.builder, Logger.debug, message, fields⟩

end Event
end ParamSql
