import Parlando.Configuration
import Parlando.Data.Double

namespace Parlando

/-- Seconds from the epoch to the first day of a year. -/
def secondsBefore (year : Int) : Int :=
  let y := year - 1
  86400 * (365 * y + y / 4 - y / 100 + y / 400 - 719162)

/-- Instants are counted in nanoseconds from the epoch. -/
def nanosPerSecond : Nat := 1000000000

/-- `Duration::from_secs_f64` on a finite number, in nanoseconds; here and below `none` is a panic. -/
def durationFromSecsF64 (secs : Rat) : Option Nat :=
  if secs < 0 ∨ 2 ^ 64 ≤ secs then none
  else some (Double.roundTo secs.den (secs.num.toNat * nanosPerSecond) / secs.den)

/-- `chrono::Duration::seconds`: milliseconds have to fit a signed word. -/
def chronoSeconds (seconds : Int) : Option Int :=
  if seconds.natAbs ≤ (2 ^ 63 - 1) / 1000 then some seconds else none

/-- `DateTime + Duration`: the years of chrono's dates are bounded. -/
def addSeconds (instant seconds : Int) : Option Int :=
  let sum := instant + seconds * nanosPerSecond
  if secondsBefore (-262143) * nanosPerSecond ≤ sum ∧
    sum < secondsBefore 262143 * nanosPerSecond then some sum else none

def deadline (instant seconds : Int) : Option Int :=
  (chronoSeconds seconds).bind (addSeconds instant)

def signedWord (n : Nat) : Int := (n : Int).bmod (2 ^ 64)

section Agents

variable (agent : HumanVsAgentConfig)

def callbackTimeout : Option Nat := durationFromSecsF64 agent.actTimeoutSeconds

def constructionTimeout : Option Nat := callbackTimeout agent

def startTimeout : Option Nat := callbackTimeout agent

def respondTimeout : Option Nat := callbackTimeout agent

def observeTimeout : Option Nat := callbackTimeout agent

def finishTimeout : Option Nat := callbackTimeout agent

end Agents

section Deadlines

variable (config : RuntimeConfig) (now : Int)

/-- The deadline of the waiting room that `create_session` sets. -/
def waitingDeadline : Option Int := deadline now config.stored.session.waitingSessionTimeoutSeconds

/-- The end of the session's lifetime that `create_session` sets. -/
def lifetimeDeadline : Option Int := deadline now config.stored.session.sessionMaxLifetimeSeconds

/-- The last instant at which `cleanup_expired_participants` takes a participant for stale. -/
def staleBefore : Option Int :=
  (chronoSeconds (max config.stored.session.waitingSessionTimeoutSeconds 1)).bind fun seconds =>
    addSeconds now (-seconds)

/-- The idle deadline that `maybe_start_game` sets. -/
def startIdleDeadline : Option Int := deadline now config.stored.session.sessionIdleTimeoutSeconds

/-- The idle deadline that `touch_session_activity` sets after an accepted action. -/
def activityIdleDeadline : Option Int :=
  deadline now config.stored.session.sessionIdleTimeoutSeconds

def reconnectDeadline : Option Int :=
  deadline now (signedWord (max config.stored.session.reconnectGraceSeconds 0).toNat)

def voiceEndsAt : Option Int := deadline now (signedWord config.stored.voice.postCompletionSeconds)

end Deadlines

end Parlando
