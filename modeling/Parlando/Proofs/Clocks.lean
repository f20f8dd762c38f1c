import Parlando.Clocks
import Parlando.Proofs.AgentPlayout

namespace Parlando

variable {formats : TextFormats} {config : RuntimeConfig} {now : Int}

theorem check_ok {wrong : Bool} {message : String} (h : check wrong message = .ok ()) :
    wrong = false := by
  cases wrong with
  | true => cases h
  | false => rfl

structure Bounded (config : RuntimeConfig) : Prop where
  grace : 0 ≤ config.stored.session.reconnectGraceSeconds ∧
    config.stored.session.reconnectGraceSeconds ≤ 60
  waiting : 0 < config.stored.session.waitingSessionTimeoutSeconds
  idle : 0 < config.stored.session.sessionIdleTimeoutSeconds
  lifetime : config.stored.session.sessionIdleTimeoutSeconds ≤
    config.stored.session.sessionMaxLifetimeSeconds
  voice : config.stored.voice.postCompletionSeconds ≤ 3600
  agents : ∀ agent ∈ config.stored.agents.humanVsAgent, 0 < agent.actTimeoutSeconds

theorem AgentsConfig.positive_of_validate {agents : AgentsConfig}
    (valid : agents.validate = .ok ()) :
    ∀ agent ∈ agents.humanVsAgent, 0 < agent.actTimeoutSeconds := by
  obtain ⟨⟨⟩, positive, -⟩ := Except.of_bind_ok valid
  intro agent mem
  have passed := check_ok positive
  rw [Option.mem_def.mp mem] at passed
  simpa using passed

theorem RuntimeConfig.bounded_of_validate (valid : config.validate formats = .ok ()) :
    Bounded config := by
  unfold RuntimeConfig.validate at valid
  obtain ⟨⟨⟩, -, valid⟩ := Except.of_bind_ok valid
  obtain ⟨⟨⟩, waiting, valid⟩ := Except.of_bind_ok valid
  obtain ⟨⟨⟩, -, valid⟩ := Except.of_bind_ok valid
  obtain ⟨⟨⟩, notNegative, valid⟩ := Except.of_bind_ok valid
  obtain ⟨⟨⟩, short, valid⟩ := Except.of_bind_ok valid
  obtain ⟨_, -, valid⟩ := Except.of_bind_ok valid
  obtain ⟨⟨⟩, idle, valid⟩ := Except.of_bind_ok valid
  obtain ⟨⟨⟩, lifetime, valid⟩ := Except.of_bind_ok valid
  obtain ⟨⟨⟩, -, valid⟩ := Except.of_bind_ok valid
  obtain ⟨⟨⟩, -, valid⟩ := Except.of_bind_ok valid
  obtain ⟨⟨⟩, -, valid⟩ := Except.of_bind_ok valid
  obtain ⟨⟨⟩, -, valid⟩ := Except.of_bind_ok valid
  obtain ⟨⟨⟩, -, valid⟩ := Except.of_bind_ok valid
  obtain ⟨⟨⟩, -, valid⟩ := Except.of_bind_ok valid
  obtain ⟨⟨⟩, voice, valid⟩ := Except.of_bind_ok valid
  obtain ⟨⟨⟩, -, valid⟩ := Except.of_bind_ok valid
  obtain ⟨⟨⟩, -, valid⟩ := Except.of_bind_ok valid
  obtain ⟨⟨⟩, -, valid⟩ := Except.of_bind_ok valid
  obtain ⟨⟨⟩, agents, valid⟩ := Except.of_bind_ok valid
  have notNegative := check_ok notNegative
  have short := check_ok short
  have waiting := check_ok waiting
  have idle := check_ok idle
  have lifetime := check_ok lifetime
  have voice := check_ok voice
  simp only [decide_eq_false_iff_not, Int.not_lt, Int.not_le, Bool.or_eq_false_iff, beq_eq_false_iff_ne,
    Nat.not_lt] at notNegative short waiting idle lifetime voice
  exact ⟨⟨notNegative, short⟩, waiting, idle, lifetime, voice.2,
    AgentsConfig.positive_of_validate agents⟩

theorem isSome_ite {α : Type} {c : Prop} [Decidable c] {a : α} :
    (if c then some a else none).isSome = true ↔ c := by
  split <;> simp [*]

theorem durationFromSecsF64_isSome {secs : Rat} (positive : 0 < secs) :
    (durationFromSecsF64 secs).isSome = true ↔ secs < 2 ^ 64 := by
  unfold durationFromSecsF64
  split
  · rename_i outside
    rcases outside with negative | large
    · exact absurd positive (not_lt.mpr (le_of_lt negative))
    · exact iff_of_false (by simp) (not_lt.mpr large)
  · rename_i fits
    exact iff_of_true rfl (not_le.mp (not_or.mp fits).2)

/-- From an instant after the epoch a deadline can be set until the last of chrono's years. -/
theorem deadline_isSome {seconds : Int} (after : 0 ≤ now) (forward : 0 ≤ seconds) :
    (deadline now seconds).isSome = true ↔
      now + seconds * nanosPerSecond < secondsBefore 262143 * nanosPerSecond := by
  have first : secondsBefore (-262143) = -8334601228800 := by decide
  have last : secondsBefore 262143 = 8210266876800 := by decide
  have nanos : nanosPerSecond = 1000000000 := rfl
  unfold deadline chronoSeconds
  split
  · rw [Option.bind_some, addSeconds, isSome_ite, first, last, nanos]
    omega
  · rename_i long
    rw [last, nanos]
    exact iff_of_false (by simp) (by omega)

/-- Before an instant after the epoch there is room for longer intervals than after it. -/
theorem staleBefore_isSome (after : 0 ≤ now)
    (before : now < secondsBefore 10000 * nanosPerSecond)
    (positive : 1 ≤ config.stored.session.waitingSessionTimeoutSeconds)
    (soon : config.stored.session.waitingSessionTimeoutSeconds ≤ 8210266876800) :
    (staleBefore config now).isSome = true := by
  have first : secondsBefore (-262143) = -8334601228800 := by decide
  have near : secondsBefore 10000 = 253402300800 := by decide
  have last : secondsBefore 262143 = 8210266876800 := by decide
  have nanos : nanosPerSecond = 1000000000 := rfl
  rw [near, nanos] at before
  unfold staleBefore chronoSeconds
  rw [Int.max_eq_left positive, if_pos (by omega), Option.bind_some, addSeconds, isSome_ite, first,
    last, nanos]
  omega

theorem signedWord_of_lt {n : Nat} (small : n < 2 ^ 63) : signedWord n = n := by
  unfold signedWord
  exact Int.bmod_eq_of_le (by omega) (by omega)

/-- None of the conversions of configured values panics at this instant. -/
structure ClockSafe (config : RuntimeConfig) (now : Int) : Prop where
  agents : ∀ agent ∈ config.stored.agents.humanVsAgent,
    (constructionTimeout agent).isSome = true ∧ (startTimeout agent).isSome = true ∧
    (respondTimeout agent).isSome = true ∧ (observeTimeout agent).isSome = true ∧
    (finishTimeout agent).isSome = true
  creation : (waitingDeadline config now).isSome = true ∧
    (lifetimeDeadline config now).isSome = true
  stale : (staleBefore config now).isSome = true
  idle : (startIdleDeadline config now).isSome = true ∧
    (activityIdleDeadline config now).isSome = true
  reconnect : (reconnectDeadline config now).isSome = true
  voice : (voiceEndsAt config now).isSome = true

/-- At an instant before the year 10000, only three of the configured values can be too large. -/
theorem clockSafe_iff (bounded : Bounded config) (after : 0 ≤ now)
    (before : now < secondsBefore 10000 * nanosPerSecond) :
    ClockSafe config now ↔
      (∀ agent ∈ config.stored.agents.humanVsAgent, agent.actTimeoutSeconds < 2 ^ 64) ∧
        now + config.stored.session.waitingSessionTimeoutSeconds * nanosPerSecond <
          secondsBefore 262143 * nanosPerSecond ∧
        now + config.stored.session.sessionMaxLifetimeSeconds * nanosPerSecond <
          secondsBefore 262143 * nanosPerSecond := by
  have near : secondsBefore 10000 = 253402300800 := by decide
  have last : secondsBefore 262143 = 8210266876800 := by decide
  have nanos : nanosPerSecond = 1000000000 := rfl
  have timeout (agent : HumanVsAgentConfig) (mem : agent ∈ config.stored.agents.humanVsAgent) :
      (callbackTimeout agent).isSome = true ↔ agent.actTimeoutSeconds < 2 ^ 64 :=
    durationFromSecsF64_isSome (bounded.agents agent mem)
  have idle := deadline_isSome after (le_of_lt bounded.idle)
  have waiting := deadline_isSome after (le_of_lt bounded.waiting)
  have lifetime := deadline_isSome after (le_of_lt (bounded.idle.trans_le bounded.lifetime))
  constructor
  · intro safe
    exact ⟨fun agent mem => (timeout agent mem).mp (safe.agents agent mem).1,
      waiting.mp safe.creation.1, lifetime.mp safe.creation.2⟩
  · rintro ⟨short, waits, lives⟩
    have shorter := bounded.lifetime
    have idles := idle.mpr (by rw [nanos] at lives ⊢; omega)
    refine ⟨fun agent mem => ?_, ⟨waiting.mpr waits, lifetime.mpr lives⟩, ?_, ⟨idles, idles⟩, ?_, ?_⟩
    · have fits := (timeout agent mem).mpr (short agent mem)
      exact ⟨fits, fits, fits, fits, fits⟩
    · have positive := bounded.waiting
      rw [last, nanos] at waits
      exact staleBefore_isSome after before (by omega) (by omega)
    · obtain ⟨low, high⟩ := bounded.grace
      rw [reconnectDeadline, signedWord_of_lt (by omega)]
      refine (deadline_isSome after (by omega)).mpr ?_
      rw [near, nanos] at before
      rw [last, nanos]
      omega
    · have high := bounded.voice
      rw [voiceEndsAt, signedWord_of_lt (by omega)]
      refine (deadline_isSome after (by omega)).mpr ?_
      rw [near, nanos] at before
      rw [last, nanos]
      omega

/--
An accepted configuration is safe at every reading of the clock from 1970 to 9999 exactly when the
agent's timeout fits a duration and the waiting timeout and the maximum lifetime, which is no less
than the idle timeout, end within chrono's years.
-/
theorem clocks_safe_iff (valid : config.validate formats = .ok ()) :
    (∀ now, secondsBefore 1970 * nanosPerSecond ≤ now →
      now < secondsBefore 10000 * nanosPerSecond → ClockSafe config now) ↔
    (∀ agent ∈ config.stored.agents.humanVsAgent, agent.actTimeoutSeconds < 2 ^ 64) ∧
      config.stored.session.waitingSessionTimeoutSeconds ≤
        secondsBefore 262143 - secondsBefore 10000 ∧
      config.stored.session.sessionMaxLifetimeSeconds ≤
        secondsBefore 262143 - secondsBefore 10000 := by
  have bounded := RuntimeConfig.bounded_of_validate valid
  have epoch : secondsBefore 1970 = 0 := by decide
  have near : secondsBefore 10000 = 253402300800 := by decide
  have last : secondsBefore 262143 = 8210266876800 := by decide
  have nanos : nanosPerSecond = 1000000000 := rfl
  constructor
  · intro safe
    obtain ⟨short, waits, lives⟩ := (clockSafe_iff bounded (by rw [near, nanos]; omega)
      (sub_one_lt _)).mp (safe (secondsBefore 10000 * nanosPerSecond - 1)
        (by rw [near, epoch, nanos]; omega) (sub_one_lt _))
    rw [near, last, nanos] at waits lives
    rw [near, last]
    exact ⟨short, by omega, by omega⟩
  · rintro ⟨short, waits, lives⟩ now after before
    have start : 0 ≤ now := by rwa [epoch, Int.zero_mul] at after
    rw [near, last] at waits lives
    refine (clockSafe_iff bounded start before).mpr ⟨short, ?_, ?_⟩ <;>
      rw [near, nanos] at before <;> rw [last, nanos] <;> omega

/-- A process for sessions with an agent. -/
def withTimeouts (idle : Int) (act : Rat) : RuntimeConfig where
  experimentId := none
  server := {}
  databaseUrl := "sqlite:parlando.db"
  stored := {
    session := { sessionIdleTimeoutSeconds := idle, sessionMaxLifetimeSeconds := idle }
    agents := { mode := .humanVsAgent, humanVsAgent := some { actTimeoutSeconds := act } } }

theorem clocks_safe_iff_default :
    ClockSafe (withTimeouts 1800 10) (secondsBefore 2026 * nanosPerSecond) :=
  (@clocks_safe_iff localFormats (withTimeouts 1800 10) (by decide +kernel)).mpr
    (by decide +kernel) _ (by decide) (by decide)

/-- The lifetime of a session created as 2026 begins, up to the last second of chrono's years. -/
def longest : Int := secondsBefore 262143 - secondsBefore 2026 - 1

/--
Validation lets through a timeout that fits no duration, and a lifetime that a session created as
2026 begins can still be given, while two seconds later its idle deadline cannot be set.
-/
theorem clocks_crash :
    ((withTimeouts longest 10).validate localFormats = .ok () ∧
      (waitingDeadline (withTimeouts longest 10) (secondsBefore 2026 * nanosPerSecond)).isSome ∧
      (lifetimeDeadline (withTimeouts longest 10) (secondsBefore 2026 * nanosPerSecond)).isSome ∧
      (startIdleDeadline (withTimeouts longest 10)
        ((secondsBefore 2026 + 2) * nanosPerSecond)).isNone ∧
      ¬ClockSafe (withTimeouts longest 10) ((secondsBefore 2026 + 2) * nanosPerSecond)) ∧
    (withTimeouts 1800 (2 ^ 64)).validate localFormats = .ok () ∧
      ¬ClockSafe (withTimeouts 1800 (2 ^ 64)) (secondsBefore 2026 * nanosPerSecond) := by
  refine ⟨⟨by decide +kernel, by decide, by decide, by decide, fun safe => ?_⟩, by decide +kernel,
    fun safe => ?_⟩
  · have crashes : startIdleDeadline (withTimeouts longest 10)
        ((secondsBefore 2026 + 2) * nanosPerSecond) = none := by decide
    have fine := safe.idle.1
    rw [crashes] at fine
    cases fine
  · have crashes : startTimeout { actTimeoutSeconds := 2 ^ 64 } = none := by decide +kernel
    have fine := (safe.agents _ rfl).2.1
    rw [crashes] at fine
    cases fine

end Parlando
