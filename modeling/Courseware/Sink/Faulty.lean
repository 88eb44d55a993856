import Courseware.Sink.Basic

/-! # Faulty sinks

Sinks that refuse calls for chosen tasks, to see that a failure stays where it is. -/

namespace Courseware

/-- Which calls to refuse. -/
structure Faults where
  /-- Tasks whose material is not stored. -/
  store : List Task := []
  /-- Tasks whose failures are not marked. -/
  record : List Task := []
  /-- Tasks whose marks are not removed. -/
  clear : List Task := []
  /-- Whether alerts count as not delivered, although they are. -/
  alerts : Bool := false

/-- The sinks with faults. -/
def Sinks.withFaults {ρ : Type} (sinks : Sinks ρ) (faults : Faults) : Sinks ρ where
  store := fun unit task material state =>
    if task ∈ faults.store then (.error (.storage "disk full"), state)
    else sinks.store unit task material state
  record := fun unit task message state =>
    if task ∈ faults.record then (.error (.storage "read-only"), state)
    else sinks.record unit task message state
  clear := fun unit task state =>
    if task ∈ faults.clear then (.error (.storage "read-only"), state)
    else sinks.clear unit task state
  notify := fun subject message state =>
    let (delivered, state) := sinks.notify subject message state
    (if faults.alerts then .error (.delivery "no route") else delivered, state)

/-- The sinks without alerts: they are taken and dropped. -/
def Sinks.withoutAlerts {ρ : Type} (sinks : Sinks ρ) : Sinks ρ :=
  { sinks with notify := fun _ _ state => (.ok (), state) }

end Courseware
