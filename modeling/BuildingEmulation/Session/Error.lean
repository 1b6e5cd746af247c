import BuildingEmulation.Clock
import BuildingEmulation.Kpi.Calculator
import BuildingEmulation.Metrics.SessionMetrics
import BuildingEmulation.Model.Exchange
import BuildingEmulation.ResultsLog

/-!
# Errors of a session

Why a session does not answer a request, and which of these refusals a client can avoid by sending
something else.
-/
namespace BuildingEmulation

inductive SessionError (α : Type)
  | notReady
  | scenarioEnded
  | invalidInput (name : String) (fault : InputFault α)
  | invalidStep (fault : ClockFault α)
  | modelStep (error : ModelError α)
  | reset (error : ModelError α)
  | commit (fault : LogFault α)
  | unknownSignal (name : String)
  deriving Repr

namespace SessionError

variable {α : Type}

def message [Decimal.Numeral α] : SessionError α → String
  | notReady => "session is not initialized; issue a reset first"
  | scenarioEnded => "scenario has ended; issue a reset to start again"
  | invalidInput name fault => s!"invalid input '{name}': {fault.message}"
  | invalidStep fault => fault.message
  | modelStep error => s!"model step failed: {error.message}"
  | reset error => s!"reset failed: {error.message}"
  | commit fault => s!"result commit rejected: {fault.message}"
  | unknownSignal name => s!"unknown signal '{name}'"

/-- The request itself was at fault. -/
def isValidation : SessionError α → Bool
  | invalidInput _ _ | invalidStep _ | unknownSignal _ => true
  | _ => false

/-- Refused before the model or the state was touched. -/
def isRejection : SessionError α → Bool
  | notReady | scenarioEnded => true
  | e => e.isValidation

end SessionError

/-- What an answer is counted as. -/
def outcomeOf {α β : Type} : Except (SessionError α) β → Metrics.Outcome
  | .ok _ => .ok
  | .error e => if e.isRejection then .rejected else .failed

end BuildingEmulation
