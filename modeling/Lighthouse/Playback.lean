import Lighthouse.Session
import Lighthouse.Log.Replay
/-!
# Playing a log back into a session

`replayInto` drives a session from a log read back into memory: recording is started when the
session is not recording yet, every pulse goes to its tracker's device in log order with the
session clock set to the pulse's recorded time, and a last trigger stops recording and solves.
The recorded clock makes the stored measurements carry the times of the capture, so the time
bins of the solve are those the live session would have used. The session's own clock is
restored afterwards.
-/
namespace Lighthouse

/-- The pulses of a log fed to the session's devices, each at its recorded time. -/
def Session.feedLog (pulses : List PulseEntry) : Effect Session Unit :=
  pulses.forM fun p => do
    modify fun s => { s with clock := p.time }
    Session.feedDevice p.tracker p.timecode p.sensor p.length

/-- A whole log played through a session and solved: the last trigger's success and message.
The session's clock is restored also when the play fails. -/
def replayInto (r : PulseReplay) : Effect Session (Bool × String) := do
  let before := (← get).clock
  modify fun s => { s with clock := 0.0 }
  let played : Effect Session (Bool × String) := do
    if !(← get).recording then discard (Session.trigger false)
    Session.feedLog r.pulses
    Session.trigger false
  tryFinally played (modify fun s => { s with clock := before })

end Lighthouse
