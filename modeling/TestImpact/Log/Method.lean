import TestImpact.Log.Level

/-!
# Ways to log

The words under which a record is asked for: the levels, other names of levels, and a word for an
error that is being handled (`structlog`, version 24.1 or later).
-/

namespace TestImpact

/-- How a record is asked for. -/
inductive LogMethod where
  | at (level : LogLevel)
  /-- As an error that is being handled. -/
  | handled
  deriving DecidableEq, Repr, Inhabited

namespace LogMethod

def level : LogMethod → LogLevel
  | .at level => level
  | handled => .error

/-- Names beside those of the levels. -/
def otherWords : List (String × LogMethod) :=
  [("warn", .at .warning), ("fatal", .at .critical), ("msg", .at .info), ("exception", handled)]

def ofWord? (word : String) : Option LogMethod :=
  ((LogLevel.all.find? (·.label = word)).map LogMethod.at).or (otherWords.lookup word)

/-- What takes the event of a record, by the name it has in complaints. A record below the root
level is taken by nothing in particular. -/
def taker (m : LogMethod) (isDropped : Bool) : String :=
  if m = handled then "exception"
  else if isDropped then "_nop"
  else "_make_filtering_bound_logger.<locals>.make_method.<locals>.meth"

/-- The complaint about a field whose name is taken, if there is one: first by what takes the event,
then by what passes the record on. -/
def takenName? (m : LogMethod) (isDropped : Bool) (names : List String) : Option String :=
  let complaint (taker name : String) : String :=
    s!"{taker}() got multiple values for argument '{name}'"
  let passing :=
    if isDropped then none
    else
      (names.find? (· = "method_name")).map
        (complaint "BoundLoggerBase._proxy_to_logger")
  ((names.find? fun name => name = "event" || name = "self").map
    (complaint (m.taker isDropped))).or passing

end LogMethod

end TestImpact
