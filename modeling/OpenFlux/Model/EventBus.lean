import OpenFlux.ForStd.Machine

/-!
# EventBus

One `MutableSharedFlow` carries every event of the app: the log lines of the native process
and of the app itself, and the report that the process has exited.  It has `replay = 0`,
`extraBufferCapacity = 128` and `DROP_OLDEST`: `tryEmit` never suspends, and on a full buffer
it discards the oldest event.

`tryEmit` and the collector's resumption are atomic, so that the threads that dispatch need
not be told apart.  The buffer is the one of the view model's collector, which is subscribed
from the start: the events that were emitted and that it has not taken.  (The other
collectors read the same buffer at their own positions and take nothing away from this one.)
-/

namespace OpenFlux

/-- `AppEvent` and its cases -/
inductive AppEvent where
  | logMessage (message : String)
  | toggleTunnel (id : Int64) (enabled : Bool)
  | transportConnected
  | transportDisconnected
  | nativeProcessExited (message : String)
  deriving DecidableEq, Repr

/-- `ev is AppEvent.NativeProcessExited`. -/
def AppEvent.isNativeProcessExited : AppEvent → Bool
  | .nativeProcessExited _ => true
  | _ => false

/-- The buffer of `_events` before the collector. -/
structure EventBus where
  /-- oldest first -/
  buffer : List AppEvent := []
  deriving DecidableEq, Repr

namespace EventBus

/-- The `extraBufferCapacity` of the flow -/
def extraBufferCapacity : Nat := 128

/-- What happens to the buffer. -/
inductive Action where
  | dispatch (event : AppEvent)
  /-- the collector takes its next event -/
  | collect

/-- What becomes of an event. -/
inductive Obs where
  | dispatched (event : AppEvent)
  | dropped (event : AppEvent)
  | collected (event : AppEvent)
  deriving DecidableEq, Repr

/-- `_events.tryEmit(event)`. -/
def tryEmit (bus : EventBus) (event : AppEvent) : EventBus × List Obs :=
  if bus.buffer.length < extraBufferCapacity then
    ({ buffer := bus.buffer ++ [event] }, [.dispatched event])
  else
    match bus.buffer with
    | [] => ({ buffer := [event] }, [.dispatched event])
    -- `BufferOverflow.DROP_OLDEST`
    | oldest :: rest =>
      ({ buffer := rest ++ [event] }, [.dispatched event, .dropped oldest])

/-- `EventBus.dispatch` -/
def dispatch (bus : EventBus) (event : AppEvent) : EventBus × List Obs := bus.tryEmit event

/-- One step; the collector waits while there is no event. -/
def step (bus : EventBus) : Action → Option (EventBus × List Obs)
  | .dispatch event => some (bus.dispatch event)
  | .collect =>
    match bus.buffer with
    | [] => none
    | event :: rest => some ({ buffer := rest }, [.collected event])

/-- The bus from the start of the process on. -/
def machine : Machine EventBus Action Obs where
  init := {}
  step

end EventBus

end OpenFlux
