import Parlando.Conversation
import Parlando.Data.JsonText
import Parlando.Proofs.Steps

namespace Parlando

open Concurrency

section Steps

variable {G : Game} {config : ExperimentConfig} {texts : SessionTexts} {jsonBytes : Value → Nat}
  {talk talk' : Talk G} {pid : Nat} {input : TalkInput}

/-- A step of a conversation is the step of a task at a time the clock allows. -/
theorem talk_step {task task' : TalkTask G} {started : List (TalkTask G)}
    (h : (talkProgram G config texts jsonBytes).step talk pid task input =
      some (talk', task', started)) :
    task.next config texts jsonBytes talk pid input = some (talk', task', started) ∧
      talk.cell.clock ≤ input.now := by
  change (if input.now < talk.cell.clock then none else _) = some _ at h
  split at h
  · cases h
  · rename_i late
    exact ⟨h, Int.not_lt.mp late⟩

theorem talk_entry {task : TalkTask G}
    (h : (talkProgram G config texts jsonBytes).entry talk task = true) :
    task.entry = true ∧ ∀ own, task = .session own →
      (sessionProgram G config).entry talk.cell own = true := by
  obtain ⟨enter, own⟩ := Bool.and_eq_true_iff.mp h
  refine ⟨enter, ?_⟩
  rintro task rfl
  exact own

/-- The only tasks a step starts are the reconnect timers of the session. -/
theorem TalkTask.mem_started {task task' u : TalkTask G} {started : List (TalkTask G)}
    (h : task.next config texts jsonBytes talk pid input = some (talk', task', started))
    (mem : u ∈ started) : ∃ id deadline wakeAt, u = .session (.timer id deadline (.sleeping wakeAt)) := by
  cases task with
  | session task =>
    obtain ⟨_, hn, he⟩ := Option.map_eq_some_iff.mp h
    cases he
    obtain ⟨new, own, rfl⟩ := List.mem_map.mp mem
    obtain ⟨call, deadline, -, rfl⟩ := Task.mem_started hn own
    exact ⟨_, _, _, rfl⟩
  | _ =>
    obtain ⟨_, -, he⟩ := Option.map_eq_some_iff.mp h
    cases he
    cases mem

namespace TranscriptPc

def isChecking : TranscriptPc → Bool
  | role | active _ | session _ | gameTime _ | claim _ _ _ _ => true
  | _ => false

def isRefused : TranscriptPc → Bool
  | returned (.error _) => true
  | _ => false

end TranscriptPc

inductive TranscriptStep (config : ExperimentConfig) (texts : SessionTexts)
    (jsonBytes : Value → Nat) (call : TranscriptCall) (talk : Talk G) (input : TalkInput) :
    TranscriptPc → Talk G → TranscriptPc → Prop where
  | checks {pc pc' : TranscriptPc} (before : pc.isChecking = true)
    (after : pc'.isChecking = true ∨ pc'.isRefused = true) :
    TranscriptStep config texts jsonBytes call talk input pc talk pc'
  | declines (role : PlayerRole) (start stop : Int) (tokens : List Value)
    (claimed : call.idempotencyKey texts ∈ talk.committed) :
    TranscriptStep config texts jsonBytes call talk input (.claim role start stop tokens)
      { talk with declined := talk.declined ++ [call] } (.returned (.ok none))
  | claims (role : PlayerRole) (start stop : Int) (tokens : List Value)
    (free : call.idempotencyKey texts ∉ talk.committed) :
    TranscriptStep config texts jsonBytes call talk input (.claim role start stop tokens)
      { talk with committed := talk.committed ++ [call.idempotencyKey texts] }
      (.message (call.segment config input.newId role start stop)
        (call.message (call.segment config input.newId role start stop) tokens) .require)
  | commits (segment : TranscriptSegment) (message : MessageCall) (pc pc' : MessagePc)
    (sec : Section G)
    (step : pc.step config texts jsonBytes message talk.cell input = some (sec, pc')) :
    TranscriptStep config texts jsonBytes call talk input (.message segment message pc)
      { talk.applySection config sec input.now with
        stored := if pc'.isStored then talk.stored ++ [call] else talk.stored }
      (.message segment message pc')
  | answers (segment : TranscriptSegment) (message : MessageCall) :
    TranscriptStep config texts jsonBytes call talk input
      (.message segment message (.returned (.ok ()))) talk (.returned (.ok (some segment)))
  | fails (segment : TranscriptSegment) (message : MessageCall) (error : AppError) :
    TranscriptStep config texts jsonBytes call talk input
      (.message segment message (.returned (.error error))) talk (.unclaim error)
  | releases (error : AppError) :
    TranscriptStep config texts jsonBytes call talk input (.unclaim error)
      { talk with committed := talk.committed.erase (call.idempotencyKey texts) }
      (.returned (.error error))

theorem TranscriptPc.step_cases {call : TranscriptCall} {pc pc' : TranscriptPc}
    (h : pc.step config texts jsonBytes call talk input = some (talk', pc')) :
    TranscriptStep config texts jsonBytes call talk input pc talk' pc' := by
  cases pc <;> simp only [step] at h
  case claim role start stop tokens =>
    split at h <;> cases h
    · rename_i claimed
      exact .declines role start stop tokens (by simpa using claimed)
    · rename_i free
      exact .claims role start stop tokens (by simpa using free)
  case message segment message pc =>
    split at h
    · cases h
      exact .answers segment message
    · cases h
      exact .fails segment message _
    · obtain ⟨⟨sec, pc''⟩, hs, he⟩ := Option.map_eq_some_iff.mp h
      cases he
      have commits : TranscriptStep config texts jsonBytes call talk input _ _ _ :=
        .commits segment message _ _ sec hs
      cases stored : pc''.isStored <;>
        simp only [stored, Bool.false_eq_true, if_true, if_false] at commits ⊢ <;>
        exact commits
  case unclaim error =>
    cases h
    exact .releases error
  case returned result => cases h
  all_goals
    repeat' first | split at h | cases h
    all_goals first | exact .checks rfl (.inl rfl) | exact .checks rfl (.inr rfl)

end Steps

abbrev TalkAction := Pool.Action (TalkTask tallyGame) TalkInput

namespace TalkAction

def texts : SessionTexts := ⟨"room", fun _ => "p", fun _ => "t"⟩

/-- No float stands in the values of these runs. -/
def bytes : Value → Nat := Value.jsonBytes fun _ => 0

abbrev machine := talkMachine tallyGame {} texts bytes

def start : Pool (Talk tallyGame) (TalkTask tallyGame) := TallyAction.creation.talk {}

def own : TallyAction → TalkAction
  | .spawn task => .spawn (.session task)
  | .run pid input => .run pid { toInput := input }

def steps (pid count : Nat) (now : Timestamp) : List TalkAction :=
  List.replicate count (.run pid { now })

def greeting : MessageCall := ⟨.human 1, .typed, "hi", none, .null⟩

/-- Human A leaves as task `pid`. -/
def leaving (pid : Nat) (now : Timestamp) : List TalkAction :=
  .spawn (.session (.abandon (.human 1) .participantLeft .request .fetch)) :: steps pid 7 now

end TalkAction

end Parlando
