import BuildingEmulation.Metrics.Exposition

/-!
# Metrics of the daemon

How often the daemon has started, how long it took to load its configuration, and which builds
have run.
-/
namespace BuildingEmulation.Metrics

/-- A build of the daemon. -/
structure Build where
  version : String
  profile : String
  deriving Repr, DecidableEq

structure DaemonMetrics (α : Type) where
  starts : Nat := 0
  configLoadSeconds : Histogram α
  builds : List Build := []

namespace DaemonMetrics

variable {α : Type} [Scalar α]

/-- Nothing recorded. -/
def fresh : DaemonMetrics α where
  configLoadSeconds := .ofBounds (Histogram.doublingBounds 0.001 16)

omit [Scalar α] in
def recordStart (m : DaemonMetrics α) : DaemonMetrics α := { m with starts := m.starts + 1 }

def observeConfigLoad (m : DaemonMetrics α) (seconds : α) : DaemonMetrics α :=
  { m with configLoadSeconds := m.configLoadSeconds.observe seconds }

omit [Scalar α] in
def setBuildInfo (m : DaemonMetrics α) (build : Build) : DaemonMetrics α :=
  if build ∈ m.builds then m else { m with builds := build :: m.builds }

def families (m : DaemonMetrics α) : List (Family α) :=
  [{ name := "r_bemd_starts_total"
     help := "Total number of times the R-BEM daemon has initialised"
     samples := .counter [([], Scalar.ofNat m.starts)] },
   { name := "r_bemd_config_load_seconds"
     help := "Time spent loading and validating configuration"
     samples := .histogram m.configLoadSeconds },
   { name := "r_bemd_build_info"
     help := "Build metadata for the running daemon"
     samples := .gauge (m.builds.map fun b =>
       ([("profile", b.profile), ("version", b.version)], 1.0)) }]

end DaemonMetrics

end BuildingEmulation.Metrics
