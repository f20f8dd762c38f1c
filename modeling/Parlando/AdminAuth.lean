import Parlando.AgentConfig
import Parlando.Concurrency.Pool
import Parlando.Transcription

namespace Parlando

open Concurrency

namespace Admin

def adminIdleSeconds : Int := 7 * 24 * 60 * 60

def adminAbsoluteSeconds : Int := 30 * 24 * 60 * 60

def adminTouchSeconds : Int := 5 * 60

structure StoredAdminCredential where
  username : String
  passwordHash : String
  role : String
  deriving DecidableEq

/-- Durable server-side session identified by a hash of its browser token. -/
structure StoredAdminSession where
  tokenDigest : String
  role : String
  csrfToken : String
  createdAt : Int
  lastSeenAt : Int
  deriving DecidableEq

structure AdminStore where
  credential : Option StoredAdminCredential := none
  sessions : List StoredAdminSession := []

namespace AdminStore

variable (store : AdminStore)

/-- The table has room for one row; answers whether this is the one. -/
def createAdminCredential (credential : StoredAdminCredential) : Bool × AdminStore :=
  match store.credential with
  | none => (true, { store with credential := some credential })
  | some _ => (false, store)

/-- `none` where the digest is the key of a row already. -/
def saveAdminSession (session : StoredAdminSession) : Option AdminStore :=
  if store.sessions.any fun row => row.tokenDigest == session.tokenDigest then none
  else some { store with sessions := store.sessions ++ [session] }

def adminSession (tokenDigest : String) : Option StoredAdminSession :=
  store.sessions.find? fun row => row.tokenDigest == tokenDigest

def touchAdminSession (tokenDigest : String) (lastSeenAt : Int) : AdminStore :=
  { store with sessions := store.sessions.map fun row =>
      if row.tokenDigest == tokenDigest then { row with lastSeenAt } else row }

def deleteAdminSession (tokenDigest : String) : AdminStore :=
  { store with sessions := store.sessions.filter fun row => row.tokenDigest != tokenDigest }

def deleteExpiredAdminSessions (idleBefore absoluteBefore : Int) : AdminStore :=
  { store with sessions := store.sessions.filter fun row =>
      !(decide (row.lastSeenAt ≤ idleBefore) || decide (row.createdAt ≤ absoluteBefore)) }

end AdminStore

inductive AdminRole where
  | operator
  | administrator
  deriving DecidableEq

namespace AdminRole

def parse : String → Except String AdminRole
  | "operator" => .ok operator
  | "administrator" => .ok administrator
  | _ => .error "administrator role must be operator or administrator"

def mayMutateExperiments (role : AdminRole) : Bool := role == administrator

def asStr : AdminRole → String
  | operator => "operator"
  | administrator => "administrator"

end AdminRole

structure AdminCredential where
  username : String
  passwordHash : String
  role : AdminRole

abbrev IpAddr := List UInt8

/-- The server's libraries, and what its configuration says of its origin. -/
structure AdminEnv where
  /-- The digest that a bearer token is looked up by. -/
  tokenDigest : String → String
  /-- The keyed digest that a process compares names by. -/
  comparisonDigest : Nat → String → String
  hashPassword : String → String → Except String String
  /-- The algorithm that a password hash names. -/
  algorithm : String → Except String String
  verifyPassword : String → String → Bool
  parseUri : String → Except String UriParts
  /-- The addresses of a network, or `none` where the text names none. -/
  network : String → Option (IpAddr → Bool)
  /-- A text as a message quotes it. -/
  quoted : String → String
  publicBaseUrl : String
  allowedOrigins : List String

variable (env : AdminEnv)

/-- Ensures only Argon2id hashes enter the active credential slot. -/
def validatedCredential (username passwordHash : String) (role : AdminRole) :
    Except String AdminCredential :=
  match env.algorithm passwordHash with
  | .error error => .error ("invalid administrator password hash: " ++ error)
  | .ok algorithm =>
    if algorithm != "argon2id" then .error "administrator password hash must use Argon2id"
    else .ok { username, passwordHash, role }

def credentialFromStored (stored : StoredAdminCredential) : Except String AdminCredential := do
  validatedCredential env stored.username stored.passwordHash (← AdminRole.parse stored.role)

structure AdminHeaders where
  cookie : Option String := none
  csrf : Option String := none
  origin : Option String := none
  host : Option String := none
  secFetchSite : Option String := none

structure AdminRequest where
  /-- The direct peer. -/
  clientIp : Option IpAddr
  isGet : Bool
  path : String
  headers : AdminHeaders

/-- One part of a cookie header, at its first equals sign. -/
def splitOnce (part : List Char) : Option (List Char × List Char) :=
  match part.span (· != '=') with
  | (candidate, _ :: value) => some (candidate, value)
  | (_, []) => none

def cookieValue (headers : AdminHeaders) (name : String) : Option String :=
  headers.cookie.bind fun text =>
    (text.toList.splitOn ';').findSome? fun part =>
      (splitOnce (trim (.ofList part)).toList).bind fun pair =>
        if pair.1 = name.toList then some (.ofList pair.2) else none

def canonicalOrigin (url : String) : Except String String :=
  match env.parseUri url with
  | .error error => .error ("invalid public URL " ++ env.quoted url ++ ": " ++ error)
  | .ok uri =>
    match uri.scheme.filter fun scheme => scheme == "http" || scheme == "https", uri.authority with
    | none, _ => .error "public URL must use http or https"
    | some _, none => .error "public URL must contain an authority"
    | some scheme, some authority => .ok (scheme ++ "://" ++ authority)

/-- Returns whether an origin represents the same authority as the host header. -/
def originMatchesRequestHost (origin : String) (headers : AdminHeaders) : Bool :=
  match headers.host, env.parseUri origin with
  | some host, .ok uri => uri.authority.any fun authority => Text.lower authority == Text.lower host
  | _, _ => false

def isLoopbackOrigin (origin : String) : Bool :=
  Text.startsWith "http://localhost" origin || Text.startsWith "http://127.0.0.1" origin ||
    Text.startsWith "http://[::1]" origin

def validateAdminRequestOrigin (headers : AdminHeaders) : Except AppError Unit :=
  let publicOrigin := (canonicalOrigin env env.publicBaseUrl).mapError fun error =>
    (⟨.internalServerError, error⟩ : AppError)
  if headers.secFetchSite == some "cross-site" then
    .error ⟨.forbidden, "Cross-site administrator request rejected"⟩
  else
    match headers.origin with
    | none => do
      if isLoopbackOrigin (← publicOrigin) then return
      throw ⟨.forbidden, "Administrator Origin header is required"⟩
    | some origin =>
      if originMatchesRequestHost env origin headers then return
      else do
        if (env.allowedOrigins ++ [← publicOrigin]).contains origin then return
        throw ⟨.forbidden, "Administrator origin is not allowed"⟩

def adminNetworkAllows (ranges : List String) (clientIp : Option IpAddr) : Bool :=
  ranges.isEmpty || clientIp.any fun clientIp =>
    ranges.any fun range => (env.network range).any fun contains => contains clientIp

/-- What happens to the stored rows. -/
inductive AdminEvent where
  | created (credential : StoredAdminCredential)
  | signedIn (username password : String) (process : Nat) (session : StoredAdminSession)
  | touched (tokenDigest : String) (now : Int)
  | revoked (tokenDigest : String)
  | expired (tokenDigest : String)
  | cleaned (now : Int)
  /-- The networks of the game settings are others. -/
  | networks (ranges : List String)

/-- A request that was let through, with the row and the instant it was authenticated by. -/
structure Admission where
  request : AdminRequest
  token : String
  row : StoredAdminSession
  now : Int

structure AdminPlane where
  store : AdminStore := {}
  process : Nat := 0
  /-- The credential slot of the process. -/
  credential : Option AdminCredential := none
  loginSlots : Nat := 2
  adminAllowedIpRanges : List String := []
  history : List AdminEvent := []
  admitted : List Admission := []

namespace AdminPlane

variable (s : AdminPlane)

def record (store : AdminStore) (event : AdminEvent) : AdminPlane :=
  { s with store, history := s.history ++ [event] }

def release : AdminPlane := { s with loginSlots := s.loginSlots + 1 }

/-- Another process starts on the store, unless it finds an invalid credential there. -/
def restart : Option AdminPlane :=
  let next := { s with process := s.process + 1, credential := none, loginSlots := 2 }
  match s.store.credential with
  | none => some next
  | some stored =>
    match credentialFromStored env stored with
    | .ok credential => some { next with credential := some credential }
    | .error _ => none

end AdminPlane

structure AdminInput where
  /-- The clock's reading, in seconds. -/
  now : Int := 0
  /-- The store or the blocking task answers. -/
  answers : Bool := true
  /-- What the store says where it fails. -/
  error : String := ""
  /-- The request is given up. -/
  dropped : Bool := false
  salt : String := ""
  token : String := ""
  csrfToken : String := ""

inductive AdminReply where
  | loginPage
  | error (error : AppError)
  /-- Both password-verification slots are occupied. -/
  | busy
  | signedIn (token csrfToken : String)
  | handled
  | loggedOut
  | dropped

structure LoginCall where
  clientIp : Option IpAddr
  headers : AdminHeaders
  username : String
  password : String

inductive LoginPc where
  | network (setup : Bool)
  | setup
  | create (stored : StoredAdminCredential)
  | publish (stored : StoredAdminCredential)
  | origin
  | acquire
  | reading (now : Int)
  | verifying (credential : AdminCredential) (now : Int)
  | saving (credential : AdminCredential) (now : Int)
  | done (reply : AdminReply)

def networkRejection : AppError :=
  ⟨.forbidden, "Administrator access is not available from this network"⟩

def setupComplete : AppError := ⟨.conflict, "Administrator setup is already complete"⟩

def invalidCredentials : AppError := ⟨.unauthorized, "Invalid administrator credentials"⟩

namespace LoginPc

def holdsSlot : LoginPc → Bool
  | reading _ | verifying .. | saving .. => true
  | _ => false

/-- The checks of `setup` before the row is written, and the row. -/
def prepare (call : LoginCall) (s : AdminPlane) (input : AdminInput) :
    Except AppError StoredAdminCredential := do
  validateAdminRequestOrigin env call.headers
  let username := trim call.username
  if username.isEmpty || username.utf8ByteSize > 128 then
    throw ⟨.badRequest, "administrator username must contain 1 to 128 characters"⟩
  if call.password.utf8ByteSize < 12 || call.password.utf8ByteSize > 1024 then
    throw ⟨.badRequest, "administrator password must contain 12 to 1024 characters"⟩
  if s.credential.isSome then throw setupComplete
  match env.hashPassword call.password input.salt with
  | .error error => throw ⟨.badRequest, "failed to hash administrator password: " ++ error⟩
  | .ok passwordHash => return { username, passwordHash, role := AdminRole.administrator.asStr }

/-- The name and the password are those of the credential. -/
def valid (call : LoginCall) (process : Nat) (credential : AdminCredential) : Bool :=
  env.comparisonDigest process call.username == env.comparisonDigest process credential.username &&
    env.verifyPassword call.password credential.passwordHash

def session (credential : AdminCredential) (now : Int) (input : AdminInput) : StoredAdminSession where
  tokenDigest := env.tokenDigest input.token
  role := credential.role.asStr
  csrfToken := input.csrfToken
  createdAt := now
  lastSeenAt := now

def step (call : LoginCall) (s : AdminPlane) (input : AdminInput) :
    LoginPc → Option (AdminPlane × LoginPc)
  | network isSetup =>
    if adminNetworkAllows env s.adminAllowedIpRanges call.clientIp then
      some (s, if isSetup then setup else origin)
    else some (s, done (.error networkRejection))
  | setup =>
    match prepare env call s input with
    | .error error => some (s, done (.error error))
    | .ok stored => some (s, create stored)
  | create stored =>
    if !input.answers then some (s, done (.error ⟨.badRequest, input.error⟩))
    else match s.store.createAdminCredential stored with
      | (true, store) => some (s.record store (.created stored), publish stored)
      | (false, _) => some (s, done (.error setupComplete))
  | publish stored =>
    match credentialFromStored env stored with
    | .error error => some (s, done (.error ⟨.badRequest, error⟩))
    | .ok credential => some ({ s with credential := some credential }, acquire)
  | origin =>
    match validateAdminRequestOrigin env call.headers with
    | .error error => some (s, done (.error error))
    | .ok () => some (s, acquire)
  | acquire =>
    if s.loginSlots = 0 then some (s, done .busy)
    else some ({ s with loginSlots := s.loginSlots - 1 }, reading input.now)
  | reading now =>
    match s.credential with
    | none => some (s.release, done (.error invalidCredentials))
    | some credential => some (s, verifying credential now)
  | verifying credential now =>
    match input.answers, env.algorithm credential.passwordHash with
    | false, _ | _, .error _ => some (s.release, done (.error internalError))
    | true, .ok _ =>
      if valid env call s.process credential then some (s, saving credential now)
      else some (s.release, done (.error invalidCredentials))
  | saving credential now =>
    match input.answers, s.store.saveAdminSession (session env credential now input) with
    | true, some store =>
      some ((s.record store (.signedIn call.username call.password s.process
        (session env credential now input))).release, done (.signedIn input.token input.csrfToken))
    | _, _ => some (s.release, done (.error internalError))
  | done _ => none

end LoginPc

inductive GatePc where
  | network
  | configured (token : String)
  | lookup (token : String)
  | removing (token : String)
  | touching (token : String) (row : StoredAdminSession) (now : Int)
  | deciding (token : String) (row : StoredAdminSession) (now : Int)
  | logout (token : String)
  | done (reply : AdminReply)

namespace GatePc

/-- Pages lead to the login page where the rest of the surface answers an error. -/
def refuse (request : AdminRequest) (error : AppError) : GatePc :=
  done (if request.isGet && Text.startsWith "/admin/" request.path then .loginPage else .error error)

def logoutPath : String := "/api/admin/logout"

/-- What is enforced of an authenticated request. -/
def check (request : AdminRequest) (row : StoredAdminSession) : Except AppError Unit := do
  let role ← (AdminRole.parse row.role).mapError fun _ => internalError
  if !request.isGet then
    validateAdminRequestOrigin env request.headers
    if request.headers.csrf ≠ some row.csrfToken then throw ⟨.forbidden, "Invalid CSRF token"⟩
    if request.path ≠ logoutPath ∧ !role.mayMutateExperiments then
      throw ⟨.forbidden, "Administrator role required"⟩

/-- The row has been idle for too long, or the login is too long ago. -/
def lapsed (row : StoredAdminSession) (now : Int) : Bool :=
  decide (row.lastSeenAt ≤ now - adminIdleSeconds) || decide (row.createdAt ≤ now - adminAbsoluteSeconds)

def step (request : AdminRequest) (s : AdminPlane) (input : AdminInput) :
    GatePc → Option (AdminPlane × GatePc)
  | network =>
    if !adminNetworkAllows env s.adminAllowedIpRanges request.clientIp then
      some (s, done (.error networkRejection))
    else match cookieValue request.headers "parlando_admin" with
      | none => some (s, refuse request ⟨.unauthorized, "Authentication required"⟩)
      | some token => some (s, configured token)
  | configured token =>
    if s.credential.isSome then some (s, lookup token)
    else some (s, refuse request
      ⟨.serviceUnavailable, "Administrator authentication is not configured"⟩)
  | lookup token =>
    if !input.answers then some (s, done (.error internalError))
    else match s.store.adminSession (env.tokenDigest token) with
      | none => some (s, refuse request ⟨.unauthorized, "Invalid administrator session"⟩)
      | some row =>
        if lapsed row input.now then some (s, removing token)
        else if row.lastSeenAt ≤ input.now - adminTouchSeconds then
          some (s, touching token row input.now)
        else some (s, deciding token row input.now)
  | removing token =>
    if !input.answers then some (s, done (.error internalError))
    else some (s.record (s.store.deleteAdminSession (env.tokenDigest token))
      (.expired (env.tokenDigest token)),
      refuse request ⟨.unauthorized, "Invalid administrator session"⟩)
  | touching token row now =>
    if !input.answers then some (s, done (.error internalError))
    else some (s.record (s.store.touchAdminSession (env.tokenDigest token) now)
      (.touched (env.tokenDigest token) now), deciding token row now)
  | deciding token row now =>
    match check env request row with
    | .error error => some (s, done (.error error))
    | .ok () => some ({ s with admitted := s.admitted ++ [⟨request, token, row, now⟩] },
        if !request.isGet && request.path == logoutPath then logout token else done .handled)
  | logout token =>
    if !input.answers then some (s, done (.error internalError))
    else some (s.record (s.store.deleteAdminSession (env.tokenDigest token))
      (.revoked (env.tokenDigest token)), done .loggedOut)
  | done _ => none

end GatePc

inductive AdminWork where
  | login (call : LoginCall) (pc : LoginPc)
  | request (request : AdminRequest) (pc : GatePc)
  /-- One tick of the periodic cleanup. -/
  | cleanup (finished : Bool)
  /-- The networks of the game settings change. -/
  | settings (ranges : List String) (finished : Bool)
  | restart (finished : Bool)

structure AdminTask where
  process : Nat
  work : AdminWork

namespace AdminWork

def starts : AdminWork → Bool
  | login _ (.network _) | request _ .network => true
  | cleanup finished | settings _ finished | restart finished => !finished
  | _ => false

def step (s : AdminPlane) (input : AdminInput) : AdminWork → Option (AdminPlane × AdminWork)
  | login call pc =>
    if input.dropped then
      match pc with
      | .done _ => none
      | _ => some (if pc.holdsSlot then s.release else s, login call (.done .dropped))
    else (pc.step env call s input).map fun next => (next.1, login call next.2)
  | request req pc =>
    if input.dropped then
      match pc with
      | .done _ => none
      | _ => some (s, request req (.done .dropped))
    else (pc.step env req s input).map fun next => (next.1, request req next.2)
  | cleanup false =>
    some (if input.answers then
      s.record (s.store.deleteExpiredAdminSessions (input.now - adminIdleSeconds)
        (input.now - adminAbsoluteSeconds)) (.cleaned input.now) else s, cleanup true)
  | settings ranges false =>
    some ({ s.record s.store (.networks ranges) with adminAllowedIpRanges := ranges },
      settings ranges true)
  | restart false => (s.restart env).map fun next => (next, restart true)
  | cleanup true | settings _ true | restart true => none

end AdminWork

/-- Every administrator surface at work; a process' tasks end with it. -/
def adminProgram : Program AdminPlane AdminTask AdminInput where
  entry s task := task.work.starts && task.process == s.process
  step s _ task input :=
    if task.process = s.process then
      (task.work.step env s input).map fun next => (next.1, { task with work := next.2 }, [])
    else none

end Admin

end Parlando
