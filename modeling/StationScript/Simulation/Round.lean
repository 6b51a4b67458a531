import StationScript.Host.Dispatcher

/-!
A simulation, and one round of handing its log to the dispatcher.
-/

set_option autoImplicit false

namespace StationScript

structure Simulation (engine : Engine) where
  dispatcher : Dispatcher engine
  station : StationRef
  /-- The number of log messages handed to the dispatcher. -/
  cursor : Nat := 0
  /-- The number of steps taken. -/
  steps : Nat := 0
  /-- The instant at which the message at a place of the log is handed over, in nanoseconds. -/
  arrival : Nat → Nat := fun _ => 0
  /-- The order in which the devices are refreshed if the message at a place of the log asks for
  it. -/
  order : Nat → Listing := fun _ => .registered

namespace Simulation

variable {engine : Engine}

def host (s : Simulation engine) : Host := s.dispatcher.host

/-- The messages not yet handed over. -/
def fresh (s : Simulation engine) : List LogMessage := s.host.log.since s.cursor

/-- Hands a message over as the next one. -/
def handOver (s : Simulation engine) (message : LogMessage) : Simulation engine :=
  { s with
    dispatcher :=
      (s.dispatcher.onLogMessage (s.arrival s.cursor) message.text (s.order s.cursor)).1
    cursor := s.cursor + 1 }

/-- Hands over the messages that are fresh at the start of the round. -/
def round (s : Simulation engine) : Simulation engine := s.fresh.foldl handOver s

end Simulation

end StationScript
