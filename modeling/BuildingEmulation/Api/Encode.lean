import BuildingEmulation.Session.Basic
import BuildingEmulation.Document

/-!
# Answers as documents

The bodies that the interface answers with.
-/
namespace BuildingEmulation.Api

variable {α : Type}

/-- The number of this version of the program. -/
def version : String := "0.1.0"

def ofSignals (m : SignalMap α) : Document α :=
  .record (m.entries.map fun (name, x) => (name, .real x))

def ofSnapshot (kpis : List (String × α)) : Document α :=
  .record (kpis.map fun (name, x) => (name, .real x))

def ofInput (s : InputSignal α) : Document α :=
  .record
    [("name", .text s.name), ("unit", .text s.unit), ("min", .real s.min), ("max", .real s.max),
     ("activation", .text s.activation), ("description", .text s.description)]

def ofOutput (s : OutputSignal) : Document α :=
  .record
    [("name", .text s.name), ("unit", .text s.unit), ("description", .text s.description),
     ("kpis", .list (s.kpis.map .text))]

def ofRow (r : ResultRow α) : Document α :=
  .record [("time", .real r.time), ("values", ofSignals r.values)]

def ofSeries (s : TimeSeries α) : Document α :=
  .record [("time", .list (s.time.map .real)), ("values", .list (s.values.map .real))]

def ofClock (c : Clock α) : Document α :=
  .record
    [("current_time", .real c.time), ("step", .real c.step), ("scenario_start", .real c.start),
     ("warmup_end", .real c.warmupEnd), ("scenario_end", .real c.stop),
     ("initialized", .bool c.initialized)]

def ofAdvance (r : AdvanceReport α) : Document α :=
  .record
    [("time", .real r.time), ("outputs", ofSignals r.outputs), ("kpis", ofSnapshot r.kpis),
     ("end_of_scenario", .bool r.endOfScenario)]

def ofReset (r : ResetReport α) : Document α :=
  .record
    [("time", .real r.time), ("outputs", ofSignals r.outputs), ("session_id", .text r.id.text)]

def ofStep (step : α) : Document α := .record [("step", .real step)]

def ofStatus (s : SessionStatus α) : Document α :=
  .record
    [("name", .text s.name), ("lifecycle", .text s.lifecycle.name),
     ("session_id", .ofOption (fun id => .text id.text) s.id), ("clock", ofClock s.clock),
     ("result_rows", .integer s.resultRows), ("version", .text version)]

/-- A message about a request that was refused. -/
def ofMessage (message : String) : Document α := .record [("message", .text message)]

end BuildingEmulation.Api
