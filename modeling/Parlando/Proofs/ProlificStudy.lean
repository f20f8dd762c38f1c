import Parlando.Config
import Parlando.ProlificStudy

namespace Parlando.Prolific

/-- Pieces that say themselves where they end can be told apart in a row. -/
theorem flatMap_append_inj {α β : Type*} {f : α → List β} {p : α → Prop}
    (delimited : ∀ a b rest rest', p a → p b → f a ++ rest = f b ++ rest' → a = b ∧ rest = rest')
    {xs ys : List α} (length : xs.length = ys.length) (left : ∀ x ∈ xs, p x) (right : ∀ y ∈ ys, p y)
    {rest rest' : List β} (same : xs.flatMap f ++ rest = ys.flatMap f ++ rest') :
    xs = ys ∧ rest = rest' := by
  induction xs generalizing ys with
  | nil =>
    cases ys with
    | nil => exact ⟨rfl, same⟩
    | cons y ys => cases length
  | cons x xs ih =>
    cases ys with
    | nil => cases length
    | cons y ys =>
      simp only [List.flatMap_cons, List.append_assoc] at same
      obtain ⟨rfl, rests⟩ := delimited _ _ _ _ (left x List.mem_cons_self)
        (right y List.mem_cons_self) same
      obtain ⟨rfl, last⟩ := ih (Nat.succ.inj length)
        (fun x member => left x (List.mem_cons_of_mem _ member))
        (fun y member => right y (List.mem_cons_of_mem _ member)) rests
      exact ⟨rfl, last⟩

theorem beBytes_inj {width a b : Nat} (left : a < 256 ^ width) (right : b < 256 ^ width)
    (same : beBytes width a = beBytes width b) : a = b := by
  have value := congrArg ofBeBytes same
  rwa [ofBeBytes_beBytes, ofBeBytes_beBytes, Nat.mod_eq_of_lt left, Nat.mod_eq_of_lt right] at value

theorem fingerprintText_append_inj {a b : String} {rest rest' : List UInt8}
    (left : a.utf8ByteSize < 2 ^ 64) (right : b.utf8ByteSize < 2 ^ 64)
    (same : fingerprintText a ++ rest = fingerprintText b ++ rest') : a = b ∧ rest = rest' := by
  simp only [fingerprintText, List.append_assoc] at same
  obtain ⟨sizes, same⟩ := List.append_inj same (by simp)
  have size := beBytes_inj left right sizes
  obtain ⟨bytes, rests⟩ := List.append_inj same (by rw [Array.length_toList, Array.length_toList]; exact size)
  refine ⟨String.toByteArray_inj.mp ?_, rests⟩
  exact ByteArray.ext (Array.toList_inj.mp bytes)

theorem i64Bytes_inj {a b : Int} (left : (asI64 a).isSome) (right : (asI64 b).isSome)
    (same : i64Bytes a = i64Bytes b) : a = b := by
  have value := beBytes_inj (by omega) (by omega) same
  simp only [asI64, Option.isSome_ite] at left right
  omega

structure SameContract (a b : RuntimeConfig) : Prop where
  enabled : a.stored.recruitment.prolific.enabled = b.stored.recruitment.prolific.enabled
  studyId : a.stored.recruitment.prolific.studyId = b.stored.recruitment.prolific.studyId
  baseUrl : a.server.publicBaseUrl = b.server.publicBaseUrl
  codes : a.stored.recruitment.prolific.completionPaths.codes =
    b.stored.recruitment.prolific.completionPaths.codes
  waiting : a.stored.session.waitingSessionTimeoutSeconds =
    b.stored.session.waitingSessionTimeoutSeconds
  lifetime : a.stored.session.sessionMaxLifetimeSeconds =
    b.stored.session.sessionMaxLifetimeSeconds

theorem SameContract.studyIssues {a b : RuntimeConfig} (same : SameContract a b) (study : Study)
    (workspace : Except String String) :
    studyIssues a study workspace = Prolific.studyIssues b study workspace := by
  simp only [Prolific.studyIssues, same.studyId, same.baseUrl, same.codes, same.waiting,
    same.lifetime]

theorem codes_of_values {a b : ProlificCompletionPaths}
    (same : a.codes.map Prod.snd = b.codes.map Prod.snd) : a.codes = b.codes := by
  simp only [ProlificCompletionPaths.codes, List.map_cons, List.map_nil, List.cons.injEq] at same ⊢
  simp [same]

/-- A fingerprint tells apart any two configurations that a preflight may judge differently. -/
theorem fingerprint_sameContract {sha256 : List UInt8 → String}
    (injective : Function.Injective sha256) {a b : RuntimeConfig} {url url' : String}
    (left : fits a url) (right : fits b url')
    (same : prolificPreflightFingerprint a sha256 url = prolificPreflightFingerprint b sha256 url') :
    SameContract a b := by
  simp only [fits, Bool.and_eq_true, List.all_eq_true, decide_eq_true_eq] at left right
  obtain ⟨head, same⟩ := List.cons.inj (injective same)
  simp only [List.append_assoc] at same
  obtain ⟨values, same⟩ := flatMap_append_inj (fun _ _ _ _ => fingerprintText_append_inj)
    (by simp [fingerprintValues, ProlificCompletionPaths.codes]) left.1.1 right.1.1 same
  obtain ⟨waiting, lifetime⟩ := List.append_inj same (by simp [i64Bytes])
  simp only [fingerprintValues, List.cons_append, List.nil_append, List.cons.injEq] at values
  obtain ⟨-, -, studyId, baseUrl, codes⟩ := values
  refine ⟨?_, studyId, baseUrl, codes_of_values codes, i64Bytes_inj left.1.2 right.1.2 waiting,
    i64Bytes_inj left.2 right.2 lifetime⟩
  revert head
  cases a.stored.recruitment.prolific.enabled <;> cases b.stored.recruitment.prolific.enabled <;>
    decide

structure Passed (config : RuntimeConfig) (verified : VerifiedProlificStudy) : Prop where
  enabled : config.stored.recruitment.prolific.enabled = true
  issues : studyIssues config verified.study (.ok verified.workspaceId) = []

theorem Passed.of_same {a b : RuntimeConfig} {verified : VerifiedProlificStudy}
    (passed : Passed a verified) (same : SameContract a b) : Passed b verified :=
  ⟨same.enabled ▸ passed.enabled, same.studyIssues verified.study _ ▸ passed.issues⟩

/-- A result without issues vouches for the study it comes with. -/
def Sound (config : RuntimeConfig) (result : Preflight) : Prop :=
  ∀ verified, result.2 = some verified → result.1 = [] → Passed config verified

theorem sound_studyPreflight {config : RuntimeConfig}
    (enabled : config.stored.recruitment.prolific.enabled = true) (study : Study)
    (workspace : Except String String) : Sound config (studyPreflight config study workspace) := by
  intro verified published issues
  simp only [studyPreflight] at published issues
  split at published
  · cases published
    exact ⟨enabled, issues⟩
  · cases published

def deservedAction : ParticipantOutcomeKind → String
  | .completed | .partnerLeft | .technicalFailure | .lifetimeLimitReached => "AUTOMATICALLY_APPROVE"
  | .leftWaitingRoom | .partnerUnavailable | .leftGame | .connectionLost | .idleLimitReached =>
    "REQUEST_RETURN"

/-- The study knows the code, and does with it what the outcome deserves and nothing else. -/
def Honours (study : Study) (code : String) (outcome : ParticipantOutcomeKind) : Prop :=
  ∃ path, study.path? code = some path ∧ path.code = some code ∧
    path.actions = [deservedAction outcome] ∧
    (outcome = .leftWaitingRoom ∨ outcome = .partnerUnavailable → path.codeType ≠ "FIXED_SCREENOUT")

theorem path_of_passed {study : Study} {configured : List (String × String)} {expected : String × String}
    {code : String} (known : configured.lookup expected.1 = some code)
    (passed : completionPathIssue study configured expected = []) :
    ∃ path, study.path? code = some path ∧ path.actions = [expected.2] ∧
      (expected.1 = "game_did_not_start" → path.codeType ≠ "FIXED_SCREENOUT") := by
  simp only [completionPathIssue, known] at passed
  split at passed
  · cases passed
  · rename_i path here
    obtain ⟨actions, screenout⟩ := List.append_eq_nil_iff.mp passed
    refine ⟨path, here, ?_, fun field => ?_⟩
    · simpa using actions
    · simpa [field] using screenout

/-- Under a configuration whose study passed, every code that is handed out is honoured. -/
theorem Passed.honours {config : RuntimeConfig} {verified : VerifiedProlificStudy}
    (passed : Passed config verified) {session : ExperimentConfig}
    (paths : session.completionPaths = config.stored.recruitment.prolific.completionPaths)
    {outcome : ParticipantOutcomeKind} {gameStarted : Bool} {handoff : RecruitmentHandoff}
    (handed : prolificHandoff session outcome gameStarted = some handoff) :
    Honours verified.study handoff.code outcome := by
  have issues := passed.issues
  simp only [studyIssues, List.append_eq_nil_iff, completionPathIssues, List.flatMap_eq_nil_iff]
    at issues
  have listed := issues.1.1.2
  simp only [expectedActions, List.mem_cons, List.not_mem_nil, or_false, forall_eq_or_imp,
    forall_eq] at listed
  obtain ⟨completed, partnerLeft, gameDidNotStart, endedEarly, technicalFailure, -⟩ := listed
  unfold prolificHandoff at handed
  rw [paths] at handed
  simp only at handed
  split at handed
  · cases handed
  cases handed
  have honoured {code field action : String}
      (found : ∃ path, verified.study.path? code = some path ∧ path.actions = [action] ∧
        (field = "game_did_not_start" → path.codeType ≠ "FIXED_SCREENOUT"))
      (deserved : deservedAction outcome = action)
      (unmatched : outcome = .leftWaitingRoom ∨ outcome = .partnerUnavailable →
        field = "game_did_not_start") : Honours verified.study code outcome := by
    obtain ⟨path, here, actions, screenout⟩ := found
    have named := List.find?_some here
    exact ⟨path, here, by simpa using named, deserved ▸ actions,
      fun waited => screenout (unmatched waited)⟩
  have atStart := path_of_passed rfl gameDidNotStart
  have early := path_of_passed rfl endedEarly
  have failure := path_of_passed rfl technicalFailure
  cases outcome with
  | completed => exact honoured (path_of_passed rfl completed) rfl (by simp)
  | partnerLeft => exact honoured (path_of_passed rfl partnerLeft) rfl (by simp)
  | leftWaitingRoom => exact honoured atStart rfl fun _ => rfl
  | partnerUnavailable => exact honoured atStart rfl fun _ => rfl
  | connectionLost =>
    cases gameStarted with
    | true => exact honoured early rfl (by simp)
    | false => exact honoured atStart rfl fun _ => rfl
  | leftGame => exact honoured early rfl (by simp)
  | idleLimitReached => exact honoured early rfl (by simp)
  | technicalFailure => exact honoured failure rfl (by simp)
  | lifetimeLimitReached => exact honoured failure rfl (by simp)

end Parlando.Prolific
