import Parlando.Configuration
import Parlando.Data.Bytes

namespace Parlando

/-- A host without the brackets of an IPv6 address. -/
def trimBrackets (text : String) : String :=
  let isBracket (c : Char) := c == '[' || c == ']'
  .ofList ((text.toList.dropWhile isBracket).reverse.dropWhile isBracket).reverse

/-- Rejects provider addresses without TLS, unless they stay on this machine. -/
def validateProviderHttpUrl (formats : TextFormats) (isLoopback : String → Bool)
    (field value : String) : Except String Unit := do
  validateHttpUrl formats field value
  let uri ← orError (formats.parseUri value) (field ++ " must be a valid URL")
  if uri.scheme != some "http" then return
  let host := trimBrackets (uri.host.getD "")
  check (!(Text.lower host == "localhost" || isLoopback host))
    (field ++ " must use https unless it points to a loopback host")

namespace Prolific

structure CompletionCode where
  code : Option String
  codeType : String
  actions : List String := []

/-- Study fields required for activation and signed launch verification. -/
structure Study where
  id : String
  externalStudyUrl : String
  prolificIdOption : String
  completionCodes : List CompletionCode := []
  /-- In minutes, as is the maximum. -/
  estimatedCompletionTime : Int
  maximumAllowedTime : Option Float := none
  isExternalStudyUrlSecure : Bool := false
  project : Option String := none

structure VerifiedProlificStudy where
  study : Study
  workspaceId : String

/-- The action each of the six fixed completion paths must have. -/
def expectedActions : List (String × String) :=
  [("completed", "AUTOMATICALLY_APPROVE"), ("partner_left", "AUTOMATICALLY_APPROVE"),
    ("game_did_not_start", "REQUEST_RETURN"), ("participation_ended_early", "REQUEST_RETURN"),
    ("technical_failure", "AUTOMATICALLY_APPROVE"), ("no_consent", "REQUEST_RETURN")]

def Study.path? (study : Study) (code : String) : Option CompletionCode :=
  study.completionCodes.find? fun path => path.code == some code

def completionPathIssue (study : Study) (configured : List (String × String))
    (expected : String × String) : List String :=
  match configured.lookup expected.1 with
  | none => ["Prolific completion field " ++ expected.1 ++ " is missing."]
  | some configuredCode =>
    match study.path? configuredCode with
    | none => ["Prolific completion code for " ++ expected.1 ++
        " does not exist in the linked study."]
    | some path =>
      (if path.actions != [expected.2] then
        ["Prolific completion code for " ++ expected.1 ++ " must have exactly the " ++
          expected.2 ++ " action."]
      else []) ++
      (if expected.1 == "game_did_not_start" && path.codeType == "FIXED_SCREENOUT" then
        ["The Game did not start completion path must not use Prolific Screened out."]
      else [])

def completionPathIssues (study : Study) (configured : List (String × String)) : List String :=
  expectedActions.flatMap (completionPathIssue study configured)

variable (config : RuntimeConfig)

def prolificCompletionPathIssues : List String :=
  let prolific := config.stored.recruitment.prolific
  let codes := prolific.completionPaths.codes.map Prod.snd
  if !prolific.enabled then []
  else if codes.any isBlank then
    ["Configure all six Prolific completion paths before starting this experiment."]
  else if codes.dedup.length != codes.length then
    ["Prolific completion path codes must be distinct."]
  else []

/-- Lists missing installation-owned prerequisites without contacting Prolific. -/
def prolificLocalActivationIssues (formats : TextFormats) (isLoopback : String → Bool) :
    List String :=
  if !config.stored.recruitment.prolific.enabled then []
  else
    (if isBlank config.stored.recruitment.prolific.studyId then
      ["Enter the linked Prolific study ID before starting this experiment."] else []) ++
    (if isBlank config.credentials.prolificApiToken then
      ["Connect a Prolific API token in Game Settings before starting this experiment."]
    else []) ++
    match validateProviderHttpUrl formats isLoopback "The Prolific participant URL"
      config.server.publicBaseUrl with
    | .error error => [error]
    | .ok () => []

/-- The exact external-study URL template shown to and verified against Prolific. -/
def prolificSetupUrl (experimentPublicBaseUrl : String) : String :=
  Text.trimEndMatches "/" experimentPublicBaseUrl ++
    "/?PROLIFIC_PID=\x7b\x7b%PROLIFIC_PID%\x7d\x7d" ++
    "&STUDY_ID=\x7b\x7b%STUDY_ID%\x7d\x7d&SESSION_ID=\x7b\x7b%SESSION_ID%\x7d\x7d"

/-- A product as wide as an `i64`, the nearest of them where it is wider. -/
def saturatingMul (a b : Int) : Int := max (-2 ^ 63) (min (2 ^ 63 - 1) (a * b))

/-- What is wrong with the workspace of a study: its project, or what Prolific answers about it. -/
def workspaceIssues (study : Study) (workspace : Except String String) : List String :=
  match study.project, workspace with
  | none, _ => ["The Prolific study has no project workspace."]
  | some _, .error error => ["Could not derive the Prolific study's workspace: " ++ error]
  | some _, .ok _ => []

def studyIssues (study : Study) (workspace : Except String String) : List String :=
  let prolific := config.stored.recruitment.prolific
  let expectedUrl := prolificSetupUrl config.server.publicBaseUrl
  (if study.id != prolific.studyId then ["The Prolific API returned a different study id."]
    else []) ++
  workspaceIssues study workspace ++
  (if study.prolificIdOption != "url_parameters" then
    ["The Prolific study must record participant IDs through URL parameters."] else []) ++
  (if study.externalStudyUrl != expectedUrl then
    ["The Prolific external study URL must exactly match " ++ expectedUrl ++ "."] else []) ++
  completionPathIssues study prolific.completionPaths.codes ++
  (if saturatingMul study.estimatedCompletionTime 60 <
      config.stored.session.waitingSessionTimeoutSeconds then
    ["The Prolific estimated duration is shorter than the maximum partner wait."] else []) ++
  (if study.maximumAllowedTime.any fun minutes =>
      minutes * 60 < Float.ofInt config.stored.session.sessionMaxLifetimeSeconds then
    ["The Prolific maximum allowed time is shorter than Parlando's maximum session lifetime."]
  else [])

/-- What a preflight publishes: the issues, and the study where a workspace is known. -/
abbrev Preflight := List String × Option VerifiedProlificStudy

def studyPreflight (study : Study) (workspace : Except String String) : Preflight :=
  (studyIssues config study workspace,
    match study.project, workspace with
    | some _, .ok workspaceId => some ⟨study, workspaceId⟩
    | _, _ => none)

def fingerprintValues (prolificApiBaseUrl : String) : List String :=
  let prolific := config.stored.recruitment.prolific
  [prolificApiBaseUrl, config.credentials.prolificApiToken, prolific.studyId,
    config.server.publicBaseUrl] ++ prolific.completionPaths.codes.map Prod.snd

def fingerprintText (value : String) : List UInt8 :=
  beBytes 8 value.utf8ByteSize ++ value.toByteArray.data.toList

def i64Bytes (n : Int) : List UInt8 := beBytes 8 (n % 2 ^ 64).toNat

def fingerprintBytes (prolificApiBaseUrl : String) : List UInt8 :=
  UInt8.ofNat config.stored.recruitment.prolific.enabled.toNat ::
    ((fingerprintValues config prolificApiBaseUrl).flatMap fingerprintText ++
      i64Bytes config.stored.session.waitingSessionTimeoutSeconds ++
      i64Bytes config.stored.session.sessionMaxLifetimeSeconds)

/-- Hashes every local value that can change the result of a preflight. -/
def prolificPreflightFingerprint (sha256 : List UInt8 → String) (prolificApiBaseUrl : String) :
    String :=
  sha256 (fingerprintBytes config prolificApiBaseUrl)

/-- Texts and numbers are no larger than the machine holds them. -/
def fits (prolificApiBaseUrl : String) : Bool :=
  (fingerprintValues config prolificApiBaseUrl).all (fun value => value.utf8ByteSize < 2 ^ 64) &&
    (asI64 config.stored.session.waitingSessionTimeoutSeconds).isSome &&
    (asI64 config.stored.session.sessionMaxLifetimeSeconds).isSome

end Prolific

end Parlando
