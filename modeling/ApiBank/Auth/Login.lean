import ApiBank.Auth.Credentials

/-!
# Login, the second factor and the Google callback

The three routes that issue login sessions. They end the same way: a session row,
and the failure count and the lock of the user cleared. What they test before
differs from route to route.

The rate limiters, the captcha provider and Google answer from outside: their
answers, the clock readings and the random tokens of a request are its draws.
-/

namespace ApiBank.Auth

open ApiBank.Db ApiBank.Relational ApiBank.Transition

set_option autoImplicit false

def loginLockoutThreshold : Int := 5

/-- One minute, then 5, 15, an hour, 6 and 24 hours. -/
def loginLockoutDurations : List Int :=
  [seconds 60, seconds 300, seconds 900, seconds 3600, seconds 21600, seconds 86400]

def pending2faTtl : Int := seconds 300

def totpReplayWindow : Int := seconds 90

def sessionTtl : Int := days 30

def nextLockoutDuration (failedCount : Int) : Int :=
  let surplus := max 0 (failedCount - loginLockoutThreshold)
  let index := min surplus (loginLockoutDurations.length - 1)
  loginLockoutDurations.getD index.toNat 0

structure RateLimitDecision where
  allowed : Bool
  retryAfterSeconds : Int
deriving DecidableEq, Repr

structure LoginRequest where
  email : String
  password : String
  code : Option String
  challengeToken : Option String
  captchaToken : Option String
deriving DecidableEq, Repr

structure TwoFactorChallengeRequest where
  challengeToken : String
  code : String
deriving DecidableEq, Repr

/-- The client address and the header `user-agent`. -/
structure Client where
  host : Option String
  userAgent : Option String
deriving DecidableEq, Repr

/-- The fields of Google's userinfo that are read. -/
structure UserInfo where
  sub : Option String
  email : Option String
  name : Option String
  givenName : Option String
  emailVerified : Bool
deriving DecidableEq, Repr

structure GoogleQuery where
  code : Option String
  state : Option String
  error : Option String
  stateCookie : Option String
deriving DecidableEq, Repr

/-- What a request reads off the clocks, draws at random and is answered. An
answer that fails is absent. -/
structure Draws where
  now : Int
  challengeReadAt : Int
  usedAt : Int
  totpAt : Int
  verifiedAt : Int
  issuedAt : Int
  emailDecision : RateLimitDecision
  ipDecision : RateLimitDecision
  captchaSecret : String
  captchaAnswer : Option Bool
  googleEnabled : Bool
  googleAnswer : Option UserInfo
  salt : String
  userId : String
  identityId : String
  challengeId : String
  rawChallenge : String
  sessionId : String
  rawToken : String
deriving DecidableEq, Repr

inductive Response where
  | challenge (token : String)
  | loggedIn (user : User) (has2fa : Bool) (cookie : String)
  | redirect (url : String) (cookie : Option String)
deriving DecidableEq, Repr

def given (value : Option String) : Bool := value.any fun text => !text.isEmpty

def enforceAuthRateLimit (decision : RateLimitDecision) : Work Unit :=
  if decision.allowed then pure ()
  else raise (.httpException 429 "too many auth attempts; try again later")

def enforceIpRateLimit (host : Option String) (decision : RateLimitDecision) : Work Unit :=
  if !given host || decision.allowed then pure ()
  else raise (.httpException 429 "too many requests from this IP")

def verifyCaptcha (token : Option String) (draws : Draws) : Work Unit :=
  if draws.captchaSecret.isEmpty then pure ()
  else if !given token then raise (.httpException 400 "captcha required")
  else
    match draws.captchaAnswer with
    | none => raise (.httpException 400 "captcha verification unavailable")
    | some false => raise (.httpException 400 "captcha invalid")
    | some true => pure ()

def locked (user : User) (now : Int) : Bool :=
  user.lockedUntil.any fun lockedUntil => now < lockedUntil.aware.instant

def countFailure (now : Int) (user : User) : User :=
  let failedLoginCount := user.failedLoginCount + 1
  { user with
    failedLoginCount
    lockedUntil :=
      if loginLockoutThreshold ≤ failedLoginCount then
        some (.utc (now + nextLockoutDuration failedLoginCount))
      else user.lockedUntil }

theorem id_countFailure (now : Int) (user : User) : (countFailure now user).id = user.id := rfl

def rehash (passwordHash : String) (user : User) : User := { user with passwordHash }

theorem id_rehash (passwordHash : String) (user : User) :
    (rehash passwordHash user).id = user.id := rfl

def enter (now : Int) (user : User) : User :=
  { user with lastLoginAt := some (.utc now), failedLoginCount := 0, lockedUntil := none }

theorem id_enter (now : Int) (user : User) : (enter now user).id = user.id := rfl

def confirmEmail (now : Int) (user : User) : User :=
  { user with emailVerifiedAt := user.emailVerifiedAt.or (some (.utc now)) }

theorem id_confirmEmail (now : Int) (user : User) : (confirmEmail now user).id = user.id := rfl

def TwoFactor.setTotp (code : String) (now : Int) (twofa : TwoFactor) : TwoFactor :=
  { twofa with lastTotpCode := some code, lastTotpUsedAt := some (.utc now) }

theorem TwoFactor.userId_setTotp (code : String) (now : Int) (twofa : TwoFactor) :
    (twofa.setTotp code now).userId = twofa.userId := rfl

def TwoFactor.setCodes (recoveryCodesEnc : List (String × String)) (twofa : TwoFactor) :
    TwoFactor := { twofa with recoveryCodesEnc }

theorem TwoFactor.userId_setCodes (recoveryCodesEnc : List (String × String))
    (twofa : TwoFactor) : (twofa.setCodes recoveryCodesEnc).userId = twofa.userId := rfl

def EmailToken.use (now : Int) (token : EmailToken) : EmailToken :=
  { token with usedAt := some (.utc now) }

theorem EmailToken.id_use (now : Int) (token : EmailToken) : (token.use now).id = token.id := rfl

def useToken (tokenId : String) (now : Int) : Work Unit :=
  modify fun db => { db with
    emailTokens := db.emailTokens.modify tokenId (EmailToken.use now) (EmailToken.id_use now) }

def userHas2fa (userId : String) (db : Accounts) : Bool :=
  (db.twoFactors.find? userId).any fun twofa => twofa.enabledAt.isSome

variable (runtime : Runtime)

def replayed (twofa : TwoFactor) (code : String) (now : Int) : Bool :=
  twofa.lastTotpCode = some code && twofa.lastTotpUsedAt.any fun lastUsedAt =>
    now - lastUsedAt.aware.instant < totpReplayWindow

def verify2faCode (userId code : String) (draws : Draws) : Work Bool := do
  let db ← get
  match db.twoFactors.find? userId with
  | none => pure false
  | some twofa =>
      if twofa.enabledAt.isNone then pure false
      else
        let code := strip runtime code
        if verifyTotp runtime twofa.secretEnc code draws.totpAt then
          if replayed twofa code draws.verifiedAt then pure false
          else
            modifyTwoFactor userId (TwoFactor.setTotp code draws.verifiedAt)
              (TwoFactor.userId_setTotp code draws.verifiedAt)
            pure true
        else
          match useRecoveryCode runtime (upper runtime code) twofa.recoveryCodesEnc with
          | none => pure false
          | some codes =>
              modifyTwoFactor userId (TwoFactor.setCodes codes) (TwoFactor.userId_setCodes codes)
              pure true

def findChallenge (rawToken : String) (db : Accounts) : Option EmailToken :=
  db.emailTokens.rows.find? fun token =>
    token.tokenHash = hashToken runtime rawToken && token.kind = .twoFactor

/-- Usable when it is stored for the user, unused, and not past its end. -/
def consume2faChallenge (user : User) (rawToken : String) (draws : Draws) : Work Bool := do
  let db ← get
  let record := db.emailTokens.rows.find? fun token =>
    token.tokenHash = hashToken runtime rawToken && token.kind = .twoFactor &&
      token.userId = user.id
  match record with
  | none => pure false
  | some record =>
      if record.usedAt.isSome then pure false
      else if record.expiresAt.aware.instant < draws.challengeReadAt then pure false
      else
        useToken record.id draws.usedAt
        pure true

/-- The challenge of the first step, kept as a one-time token. -/
def issueChallenge (user : User) (draws : Draws) : Work Response := do
  let db ← get
  let token : EmailToken := {
    id := draws.challengeId
    userId := user.id
    kind := .twoFactor
    tokenHash := hashToken runtime draws.rawChallenge
    expiresAt := .utc (draws.now + pending2faTtl)
    usedAt := none
    createdAt := .utc draws.now }
  let emailTokens ← integrity (db.emailTokens.insertUnique?
    (fun row other => row.tokenHash = other.tokenHash) token)
  set { db with emailTokens }
  pure (.challenge draws.rawChallenge)

def newSession (user : User) (client : Client) (draws : Draws) : SessionModel where
  id := draws.sessionId
  userId := user.id
  tokenHash := hashToken runtime draws.rawToken
  ip := client.host
  userAgent :=
    let shortened := String.ofList ((client.userAgent.getD "").toList.take 512)
    if shortened.isEmpty then none else some shortened
  expiresAt := .utc (draws.issuedAt + sessionTtl)
  revokedAt := none
  createdAt := .utc draws.issuedAt
  lastSeenAt := .utc draws.issuedAt

def issueSession (user : User) (client : Client) (draws : Draws) : Work Unit := do
  let db ← get
  let sessions ← integrity (db.sessions.insertUnique?
    (fun row other => row.tokenHash = other.tokenHash) (newSession runtime user client draws))
  set { db with sessions }

/-- How each of the routes ends: the session row, and the user's failures cleared. -/
def openSession (user : User) (client : Client) (draws : Draws) : Work Unit := do
  issueSession runtime user client draws
  modifyUser user.id (enter draws.now) (id_enter draws.now)

/-- The response body is built after the commit. -/
def loginResponse (user : User) (draws : Draws) : Work Response := do
  let db ← get
  let current := (db.users.find? user.id).getD user
  pure (.loggedIn current (userHas2fa user.id db) draws.rawToken)

def refuse (user : User) (draws : Draws) (detail : String) : Work Response := do
  modifyUser user.id (countFailure draws.now) (id_countFailure draws.now)
  commitAndRaise (.httpException 401 detail)

/-- How both routes that take a code end. -/
def enterWithCode (user : User) (code : String) (client : Client) (draws : Draws) :
    Work Response := do
  let verified ← verify2faCode runtime user.id code draws
  if !verified then refuse user draws "invalid 2fa code"
  else
    openSession runtime user client draws
    loginResponse user draws

/-- The login after a correct password. -/
def secondStep (user : User) (request : LoginRequest) (client : Client) (draws : Draws) :
    Work Response := do
  let db ← get
  if userHas2fa user.id db then
    if !given request.code then issueChallenge runtime user draws
    else if !given request.challengeToken then
      raise (.httpException 401 "missing challenge_token")
    else
      let consumed ← consume2faChallenge runtime user (request.challengeToken.getD "") draws
      if !consumed then raise (.httpException 401 "invalid or expired challenge_token")
      else enterWithCode runtime user (request.code.getD "") client draws
  else
    openSession runtime user client draws
    loginResponse user draws

def captchaAfterFailures (user : User) (token : Option String) (draws : Draws) : Work Unit :=
  if 3 ≤ user.failedLoginCount then verifyCaptcha token draws else pure ()

/-- A password hash of an older cost or kind is replaced. -/
def refreshHash (user : User) (password : String) (draws : Draws) : Work Unit :=
  if needsRehash runtime user.passwordHash then
    match hashPassword runtime password draws.salt with
    | .error failure => raise failure
    | .ok passwordHash => modifyUser user.id (rehash passwordHash) (id_rehash passwordHash)
  else pure ()

def firstStep (user : User) (request : LoginRequest) (client : Client) (draws : Draws) :
    Work Response := do
  captchaAfterFailures user request.captchaToken draws
  if locked user draws.now then raise (.httpException 423 "account temporarily locked")
  else if !verifyPassword runtime request.password user.passwordHash then
    refuse user draws "invalid credentials"
  else
    refreshHash runtime user request.password draws
    secondStep runtime user request client draws

def login (request : LoginRequest) (client : Client) (draws : Draws) : Work Response := do
  let email := strip runtime (lower runtime request.email)
  enforceAuthRateLimit draws.emailDecision
  enforceIpRateLimit client.host draws.ipDecision
  let db ← get
  match db.users.rows.find? fun user => user.email = email with
  | none => raise (.httpException 401 "invalid credentials")
  | some user =>
      if user.status ≠ .active then raise (.httpException 401 "invalid credentials")
      else firstStep runtime user request client draws

/-- The second step of a login, by the challenge alone. -/
def twoFactorChallenge (request : TwoFactorChallengeRequest) (client : Client) (draws : Draws) :
    Work Response := do
  let db ← get
  let invalid := Error.httpException 401 "invalid or expired challenge_token"
  match findChallenge runtime request.challengeToken db with
  | none => raise invalid
  | some record =>
      if record.usedAt.isSome then raise invalid
      else if record.expiresAt.aware.instant < draws.now then raise invalid
      else
        match db.users.find? record.userId with
        | none => raise (.httpException 401 "invalid credentials")
        | some user =>
            if user.status ≠ .active then raise (.httpException 401 "invalid credentials")
            else
              useToken record.id draws.now
              enterWithCode runtime user request.code client draws

/-- `exchange_code` as far as it is read: the email in lower case. -/
def googleProfile (info : UserInfo) : Option (String × String) :=
  let email := lower runtime (info.email.getD "")
  if !given info.sub || email.isEmpty then none else some (info.sub.getD "", email)

def findIdentity (sub : String) (db : Accounts) : Option OAuthIdentity :=
  db.oauthIdentities.rows.find? fun identity =>
    identity.provider = "google" && identity.subject = sub

def googleUser (sub email : String) (db : Accounts) : Option User :=
  ((findIdentity sub db).bind fun identity => db.users.find? identity.userId).or
    (db.users.rows.find? fun user => user.email = email)

def newGoogleUser (email : String) (info : UserInfo) (draws : Draws) : User where
  id := draws.userId
  email := email
  emailVerifiedAt := if info.emailVerified then some (.utc draws.now) else none
  passwordHash := "!oauth"
  fullName := if given info.name then info.name else info.givenName
  role := "user"
  status := .active
  lastLoginAt := none
  failedLoginCount := 0
  lockedUntil := none

def createGoogleUser (email : String) (info : UserInfo) (draws : Draws) : Work User := do
  let db ← get
  let user := newGoogleUser email info draws
  let users ← integrity (db.users.insertUnique? (fun row other => row.email = other.email) user)
  set { db with users }
  pure user

def linkIdentity (user : User) (sub email : String) (draws : Draws) : Work Unit := do
  let db ← get
  if (findIdentity sub db).isSome then pure ()
  else
    let identity : OAuthIdentity :=
      ⟨draws.identityId, user.id, "google", sub, some email⟩
    let oauthIdentities ← integrity (db.oauthIdentities.insertUnique?
      (fun row other => row.provider = other.provider && row.subject = other.subject) identity)
    set { db with oauthIdentities }

def findOrCreateGoogleUser (sub email : String) (info : UserInfo) (draws : Draws) :
    Work User := do
  let db ← get
  match googleUser sub email db with
  | some user => pure user
  | none => createGoogleUser email info draws

def confirmVerified (user : User) (info : UserInfo) (draws : Draws) : Work Unit :=
  if info.emailVerified then
    modifyUser user.id (confirmEmail draws.now) (id_confirmEmail draws.now)
  else pure ()

/-- The callback once Google has named a subject and an email. -/
def enterWithGoogle (sub email : String) (info : UserInfo) (client : Client) (draws : Draws) :
    Work Response := do
  let user ← findOrCreateGoogleUser sub email info draws
  linkIdentity user sub email draws
  confirmVerified user info draws
  openSession runtime user client draws
  pure (.redirect "/app" (some draws.rawToken))

def googleCallback (query : GoogleQuery) (client : Client) (draws : Draws) : Work Response := do
  if given query.error then
    pure (.redirect ("/login?google_error=" ++ query.error.getD "") none)
  else if !given query.code || !given query.state then
    raise (.httpException 400 "missing code or state")
  else if !given query.stateCookie || query.stateCookie ≠ query.state then
    raise (.httpException 400 "invalid state")
  else if !draws.googleEnabled then raise (.httpException 404 "google oauth disabled")
  else
    match draws.googleAnswer with
    | none => pure (.redirect "/login?google_error=exchange_failed" none)
    | some info =>
        match googleProfile runtime info with
        | none => raise (.httpException 400 "invalid google profile")
        | some (sub, email) => enterWithGoogle runtime sub email info client draws

inductive Request where
  | login (request : LoginRequest) (client : Client) (draws : Draws)
  | challenge (request : TwoFactorChallengeRequest) (client : Client) (draws : Draws)
  | google (query : GoogleQuery) (client : Client) (draws : Draws)

def Request.draws : Request → Draws
  | .login _ _ draws => draws
  | .challenge _ _ draws => draws
  | .google _ _ draws => draws

def perform : Request → Work Response
  | .login request client draws => login runtime request client draws
  | .challenge request client draws => twoFactorChallenge runtime request client draws
  | .google query client draws => googleCallback runtime query client draws

def serve (db : Accounts) (request : Request) : Accounts :=
  (finish (perform runtime request) db).2

end ApiBank.Auth
