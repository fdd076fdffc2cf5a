import TestImpact.Data.Basic
import TestImpact.Log.Level

/-!
# Log records

A record is an event with named values, at a level, and with the id of the launch in flight.
-/

namespace TestImpact

structure LogRecord where
  event : String
  level : LogLevel
  fields : List (String × Data)
  runId : Option String
  deriving Inhabited

/-- The values of a record with the time at which it was made: its fields come first, and a field
with the name of one of the other values gives that value its place. -/
def LogRecord.entries (r : LogRecord) (time : String) : List (Data × Data) :=
  let id := r.runId.elim [] fun id => [("run_id", Data.text id)]
  let values := r.fields ++
    [("event", .text r.event), ("level", .text r.level.label), ("timestamp", .text time)] ++ id
  Data.ofEntries (values.map fun (name, value) => (.text name, value))

end TestImpact
