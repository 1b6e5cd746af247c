import BuildingEmulation.CommandLine.Help
import BuildingEmulation.Config.Load
import BuildingEmulation.Document.Writer
import BuildingEmulation.Metadata.Reader
import BuildingEmulation.Session.Configured
import BuildingEmulation.Session.Timed

/-!
# Execution

What the program does on a host that lends it files, an output and a stopwatch.
-/
namespace BuildingEmulation.CommandLine

/-! ## Hosts -/

/-- Where a program runs. -/
structure Host (m : Type → Type) extends FileAccess m where
  /-- The configuration file that the environment names. -/
  environment : m (Option String)
  /-- Show a line to the user. -/
  print : String → m Unit
  /-- A value and the nanoseconds it took to compute. -/
  stopwatch : {β : Type} → (Unit → β) → m (β × Nat)

/-- A host in memory. -/
structure Memory where
  files : FileStore
  environment : Option String
  /-- The lines shown, the latest in front. -/
  shown : List String := []

/-- Whatever is computed in memory takes no time. -/
def Memory.host : Host (StateM Memory) where
  holds path := onFiles (FileStore.access.holds path)
  read path := onFiles (FileStore.access.read path)
  write path text := onFiles (FileStore.access.write path text)
  createDirectories path := onFiles (FileStore.access.createDirectories path)
  environment := do pure (← get).environment
  print line := modify fun w => { w with shown := line :: w.shown }
  stopwatch f := pure (f (), 0)
where
  onFiles {β : Type} (x : StateM FileStore β) : StateM Memory β := fun w =>
    let (b, files) := x.run w.files
    pure (b, { w with files })

/-! ## Faults -/

/-- Why the program could not do what it was told. -/
inductive Fault
  | metadataUnreadable (path : String)
  | metadataMalformed (path : String)
  | metadataInvalid (path : String) (fault : RegistryFault Float)
  | configuration (fault : Config.LoadFault Float)
  | logDirectory (fault : DirectoryFault)
  | session (fault : OpenFault Float)
  | call (error : SessionError Float)
  /-- The scenario has not come to its end. -/
  | endless
  | outputDirectory (path : String)
  | notCreated (path : String)
  /-- This program has no listener to serve with. -/
  | notServed

/-- What went wrong, without the reasons behind it. -/
def Fault.headline : Fault → String
  | metadataUnreadable path => s!"unable to read model metadata {path}"
  | metadataMalformed path => s!"invalid model metadata {path}"
  | metadataInvalid path _ => s!"invalid signal exchange metadata in {path}"
  | configuration fault => fault.headline
  | logDirectory fault => fault.message
  | session (.registry _) => "model metadata is invalid"
  | session (.kpi _) => "kpi definitions are invalid"
  | call error => error.message
  | endless => "scenario does not end"
  | outputDirectory path => s!"failed to create output directory {path}"
  | notCreated path => s!"failed to create {path}"
  | notServed => "serving is not available"

/-! ## Texts -/

/-- A registry as lines for people. -/
def registryLines (r : Registry Float) : List String :=
  let input (s : InputSignal Float) : String :=
    let low := Decimal.plain s.min
    let high := Decimal.plain s.max
    s!"  {s.name} [{low}, {high}] {s.unit} (activation {s.activation})"
  let output (s : OutputSignal) : String := s!"  {s.name} {s.unit}"
  let group (g : String × List String) : String :=
    let names := ", ".intercalate g.2
    s!"kpi group {g.1}: {names}"
  "inputs:" :: r.inputs.map input ++ "outputs:" :: r.outputs.map output ++ r.groups.map group

/-- An indicator as a line of a table. -/
def recordLine (r : KpiRecord Float) : String :=
  let name := Decimal.padRight 12 r.name
  let value := Decimal.padLeft 14 (Decimal.fixed 6 r.value)
  s!"{name} {value} {r.unit}"

def ofRecord (r : KpiRecord Float) : Document Float :=
  .record
    [("name", .text r.name), ("unit", .text r.unit), ("value", .real r.value),
     ("cumulative", .bool r.cumulative)]

/-- The indicators of a run as a document. -/
def ofRun (scenario : String) (steps : Nat) (records : List (KpiRecord Float)) : Document Float :=
  .record
    [("scenario", .text scenario), ("steps", .integer steps),
     ("kpis", .list (records.map ofRecord))]

/-! ## Commands -/

variable {m : Type → Type} [Monad m] (host : Host m)

/-- Mirrors `check_metadata`. -/
def checkMetadata (path : String) : ExceptT Fault m Unit := do
  let some text ← host.read path | throw (.metadataUnreadable path)
  let some metadata := Metadata.ofText? text | throw (.metadataMalformed path)
  match Registry.ofMetadata (metadata : Metadata Float) with
  | .error fault => throw (.metadataInvalid path fault)
  | .ok registry => (registryLines registry).forM fun line => host.print line

/-- Where a configuration is looked for if nothing else is said. -/
def defaultConfig : String := "configs/example.dev.toml"

/-- The configuration to work with. Its logs need a directory. -/
def configure (named : Option String) : ExceptT Fault m (Configuration Float) := do
  let candidates := named.toList ++ [defaultConfig]
  let environment ← host.environment
  let answer : Except (Config.LoadFault Float) (Config.Loaded Float) ←
    ExceptT.lift (Config.load host.toFileAccess environment candidates)
  match answer with
  | .error fault => throw (.configuration fault)
  | .ok loaded =>
    let logging := loaded.configuration.logging
    if logging.fileEnabled then
      if let .error fault ← host.createDirectories logging.directory then
        throw (.logDirectory fault)
    pure loaded.configuration

/-- A session with its scenario run to the end, and the number of steps that took. -/
def runScenario (c : Configuration Float) : ExceptT Fault m (ZoneSession × Nat) := do
  let s ← match Session.ofConfiguration c with
    | .error fault => throw (Fault.session fault)
    | .ok s => pure s
  let (s, report) := s.reset none
  if let .error e := report then throw (.call e)
  match ← s.runTimed (fun f => host.stopwatch f) s.stepsLeft 0 with
  | (_, none) => throw .endless
  | (_, some (.error e)) => throw (.call e)
  | (s, some (.ok steps)) => pure (s, steps)

/-- Write a file of a directory. -/
def writeIn (directory name text : String) : ExceptT Fault m Unit := do
  let path := FileStore.join directory name
  unless ← host.write path text do throw (.notCreated path)

/-- Run the scenario and write the results and the indicators to a directory. Mirrors
`run_baseline`. -/
def run (c : Configuration Float) (output : String) : ExceptT Fault m Unit := do
  let (s, steps) ← runScenario host c
  if let .error _ ← host.createDirectories output then throw (.outputDirectory output)
  writeIn host output "results.csv" s.csv
  writeIn host output "kpis.json" ((ofRun s.scenario.name steps s.kpiRecords).renderIndented 0)
  s.kpiRecords.forM fun r => host.print (recordLine r)

/-- A session is opened, but there is nothing to serve it with. Mirrors `serve` up to its listeners. -/
def serve (c : Configuration Float) : ExceptT Fault m Unit :=
  match Session.ofConfiguration c with
  | .error fault => throw (.session fault)
  | .ok _ => throw .notServed

/-- Mirrors `main`. -/
def execute (config : Option String) : Command → ExceptT Fault m Unit
  | .checkMetadata file => checkMetadata host file
  | .run output => do run host (← configure host config) output
  | .serve => do serve (← configure host config)

/-! ## Outcomes -/

/-- How the program ends. -/
inductive Outcome
  | done
  | failed (fault : Fault)
  /-- The arguments make no sense. -/
  | misused

def Outcome.exitCode : Outcome → Nat
  | done => 0
  | failed _ => 1
  | misused => 2

/-- What is said about the end of the program, if anything is. -/
def Outcome.complaint : Outcome → Option String
  | done => none
  | failed fault => some ("Error: " ++ fault.headline)
  | misused => some "Usage: r-bemd [OPTIONS] [COMMAND]"

/-- Do what the arguments ask for. -/
def start (args : List String) : m Outcome := do
  match parse? args with
  | none => pure .misused
  | some (.explain topic) =>
    topic.lines.forM fun line => host.print line
    pure .done
  | some .showVersion =>
    host.print versionLine
    pure .done
  | some (.execute config command) =>
    match ← (execute host config command).run with
    | .ok () => pure .done
    | .error fault => pure (.failed fault)

end BuildingEmulation.CommandLine
