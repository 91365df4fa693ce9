import ApiBank.Auth.IssuanceGate

/-!
# One-time codes that are sent again

Three codes of a user are valid at any moment, and a row of `two_factors` remembers one: the
text last accepted, with the time. A request whose code is valid is refused if that text comes
again within the replay window. So a code of a step is accepted once if and only if every
further request with its value finds it remembered, as it was written.
-/

namespace ApiBank.Auth.TotpReplay

open ApiBank.Db ApiBank.Relational ApiBank.Transition ApiBank.Transition.Effect Outcomes
  IssuanceGate

set_option autoImplicit false

variable {runtime : Runtime}

/-! ## Submissions -/

/-- A valid code as it was sent, without the spaces around it, and the clock readings of its
check. -/
structure Submission where
  userId : String
  secretEnc : String
  spelled : String
  totpAt : Int
  verifiedAt : Int
deriving DecidableEq, Repr

/-- The value that `pyotp` is asked about. -/
def Submission.value (runtime : Runtime) (sent : Submission) : String :=
  String.ofList ((strip runtime sent.spelled).toList.filter fun char => char != Char.ofNat 32)

def totpSent (runtime : Runtime) (userId code : String) (draws : Draws) (db : Accounts) :
    Option Submission :=
  (db.twoFactors.find? userId).bind fun twofa =>
    let spelled := strip runtime code
    if twofa.enabledAt.isSome && verifyTotp runtime twofa.secretEnc spelled draws.totpAt then
      some ⟨userId, twofa.secretEnc, spelled, draws.totpAt, draws.verifiedAt⟩
    else none

def accepted (runtime : Runtime) (db : Accounts) (request : Request) : Option Submission :=
  match (finish (perform runtime request) db).1, codeOf request with
  | .ok (.loggedIn user _ _), some code => totpSent runtime user.id code request.draws db
  | _, _ => none

/-- The step of 30 seconds is the previous, the current or the next one. -/
def InWindow (step at' : Int) : Prop :=
  step - 1 ≤ at' / seconds 30 ∧ at' / seconds 30 ≤ step + 1

instance (step at' : Int) : Decidable (InWindow step at') := inferInstanceAs (Decidable (_ ∧ _))

def Submission.Of (runtime : Runtime) (totp : String → Int → String) (step : Int)
    (sent : Submission) : Prop :=
  InWindow step sent.totpAt ∧ totp sent.secretEnc step = sent.value runtime

/-- `pyotp.TOTP(secret).verify` with a window of one step. -/
def Window (runtime : Runtime) (totp : String → Int → String) : Prop :=
  ∀ secret code at', runtime.totpVerify secret code at' = true ↔
    ∃ step, InWindow step at' ∧ totp secret step = code

def Again (runtime : Runtime) (totp : String → Int → String) (earlier later : Submission) : Prop :=
  earlier.userId = later.userId ∧ earlier.value runtime = later.value runtime ∧
    ∃ step, earlier.Of runtime totp step ∧ later.Of runtime totp step

/-! ## The requests that get as far as the code -/

def captchaPassed (user : User) (token : Option String) (draws : Draws) : Bool :=
  user.failedLoginCount < 3 || draws.captchaSecret.isEmpty ||
    given token && draws.captchaAnswer = some true

def challengeUsable (runtime : Runtime) (userId rawToken : String) (draws : Draws)
    (db : Accounts) : Bool :=
  let record := db.emailTokens.rows.find? fun token =>
    token.tokenHash = hashToken runtime rawToken && token.kind = .twoFactor &&
      token.userId = userId
  record.any fun record =>
    record.usedAt.isNone && !decide (record.expiresAt.aware.instant < draws.challengeReadAt)

def judgedLogin (runtime : Runtime) (request : LoginRequest) (draws : Draws) (db : Accounts)
    (user : User) : Option (User × String) :=
  if captchaPassed user request.captchaToken draws && !locked user draws.now &&
      verifyPassword runtime request.password user.passwordHash then
    if userHas2fa user.id db && given request.code && given request.challengeToken &&
        challengeUsable runtime user.id (request.challengeToken.getD "") draws db then
      some (user, request.code.getD "")
    else none
  else none

def addressed (runtime : Runtime) (request : LoginRequest) (client : Client) (draws : Draws)
    (db : Accounts) : Option User :=
  if draws.emailDecision.allowed && (!given client.host || draws.ipDecision.allowed) then
    let email := strip runtime (lower runtime request.email)
    (db.users.rows.find? fun user => user.email = email).filter fun user => user.status = .active
  else none

def judged (runtime : Runtime) (db : Accounts) : Request → Option (User × String)
  | .login request client draws =>
      (addressed runtime request client draws db).bind (judgedLogin runtime request draws db)
  | .challenge request _ draws =>
      (challenged runtime request.challengeToken draws db).map fun user => (user, request.code)
  | .google _ _ _ => none

/-- A valid code on whose acceptance a session would be opened. -/
def submitted (runtime : Runtime) (db : Accounts) (request : Request) : Option Submission :=
  (judged runtime db request).bind fun (user, code) =>
    if freshSession runtime request.draws db then totpSent runtime user.id code request.draws db
    else none

/-- The row of the user refuses the code as a repetition. -/
def remembered (db : Accounts) (sent : Submission) : Bool :=
  (db.twoFactors.find? sent.userId).any fun twofa => replayed twofa sent.spelled sent.verifiedAt

/-- What the row of a user remembers. -/
def memory (userId : String) (db : Accounts) : Option (Option String × Option DateTime) :=
  (db.twoFactors.find? userId).map fun twofa => (twofa.lastTotpCode, twofa.lastTotpUsedAt)

section Codes

variable {db mid : Accounts} {userId code : String} {draws : Draws} {client : Client}
  {user : User}

theorem totpSent_eq_some_iff {sent : Submission} :
    totpSent runtime userId code draws db = some sent ↔
      ∃ twofa, db.twoFactors.find? userId = some twofa ∧ twofa.enabledAt.isSome = true ∧
        verifyTotp runtime twofa.secretEnc (strip runtime code) draws.totpAt = true ∧
        sent = ⟨userId, twofa.secretEnc, strip runtime code, draws.totpAt, draws.verifiedAt⟩ := by
  unfold totpSent
  rw [Option.bind_eq_some_iff]
  constructor
  · rintro ⟨twofa, found, sends⟩
    obtain ⟨valid, same⟩ := Option.ite_none_right_eq_some.mp sends
    obtain ⟨enabled, verified⟩ := Bool.and_eq_true_iff.mp valid
    exact ⟨twofa, found, enabled, verified, (Option.some.inj same).symm⟩
  · rintro ⟨twofa, found, enabled, verified, rfl⟩
    exact ⟨twofa, found, if_pos (Bool.and_eq_true_iff.mpr ⟨enabled, verified⟩)⟩

def totpAccepted (runtime : Runtime) (userId code : String) (draws : Draws) (db : Accounts) :
    Option Submission :=
  (totpSent runtime userId code draws db).filter fun sent => !remembered db sent

/-- What the row remembers after an acceptance. -/
def Noted (before after : Accounts) (noted : Option Submission) : Prop :=
  ∀ userId, memory userId after =
    match noted with
    | some sent =>
        if userId = sent.userId then some (some sent.spelled, some (.utc sent.verifiedAt))
        else memory userId before
    | none => memory userId before

theorem noted_of_same {before after : Accounts} (same : after.twoFactors = before.twoFactors) :
    Noted before after none := by
  intro userId
  unfold memory
  rw [same]

theorem noted_setTotp {twofa : TwoFactor} (found : db.twoFactors.find? userId = some twofa)
    (spelled : String) (totpAt verifiedAt : Int) :
    Noted db { db with
        twoFactors := db.twoFactors.modify userId (.setTotp spelled verifiedAt)
          (TwoFactor.userId_setTotp spelled verifiedAt) }
      (some ⟨userId, twofa.secretEnc, spelled, totpAt, verifiedAt⟩) := by
  intro otherId
  unfold memory
  rw [Table.find?_modify]
  by_cases own : otherId = userId
  · subst own
    simp [found, TwoFactor.setTotp]
  · simp [own]

theorem noted_setCodes (userId : String) (codes : List (String × String)) :
    Noted db { db with
        twoFactors := db.twoFactors.modify userId (.setCodes codes)
          (TwoFactor.userId_setCodes codes) } none := by
  intro otherId
  unfold memory
  rw [Table.find?_modify]
  by_cases own : otherId = userId
  · subst own
    cases db.twoFactors.find? otherId with
    | none => simp
    | some twofa => simp [TwoFactor.setCodes]
  · simp [own]

/-- What a check of a code answers and writes. -/
structure Checked (runtime : Runtime) (userId code : String) (draws : Draws) (before : Accounts)
    (verified : Bool) (after : Accounts) : Prop where
  beside : ∃ twoFactors, after = { before with twoFactors }
  noted : Noted before after (totpAccepted runtime userId code draws before)
  sent : verified = true →
    totpAccepted runtime userId code draws before = totpSent runtime userId code draws before
  refused : verified = false → totpAccepted runtime userId code draws before = none

theorem ensures_checked (userId code : String) (draws : Draws) :
    Ensures (verify2faCode runtime userId code draws) db
      (Checked runtime userId code draws db) fun _ _ => False := by
  have without {verified : Bool} (unsent : totpSent runtime userId code draws db = none) :
      totpAccepted runtime userId code draws db = none ∧
        Checked runtime userId code draws db verified db := by
    have accepted : totpAccepted runtime userId code draws db = none := by
      rw [totpAccepted, unsent]
      rfl
    refine ⟨accepted, ⟨_, rfl⟩, ?_, fun _ => accepted.trans unsent.symm, fun _ => accepted⟩
    rw [accepted]
    exact noted_of_same rfl
  unfold verify2faCode
  apply ensures_get
  cases found : db.twoFactors.find? userId with
  | none => exact ensures_pure (without (by rw [totpSent, found]; rfl)).2
  | some twofa =>
      dsimp only
      cases enabled : twofa.enabledAt with
      | none => exact ensures_pure (without (by simp [totpSent, found, enabled])).2
      | some enabledAt =>
          simp only [Option.isNone_some, Bool.false_eq_true, if_false]
          cases totp : verifyTotp runtime twofa.secretEnc (strip runtime code) draws.totpAt with
          | true =>
              have sent : totpSent runtime userId code draws db = some ⟨userId, twofa.secretEnc,
                  strip runtime code, draws.totpAt, draws.verifiedAt⟩ :=
                totpSent_eq_some_iff.mpr ⟨twofa, found, by simp [enabled], totp, rfl⟩
              simp only [if_true]
              cases again : replayed twofa (strip runtime code) draws.verifiedAt with
              | true =>
                  have accepted : totpAccepted runtime userId code draws db = none := by
                    simp [totpAccepted, sent, remembered, found, again]
                  refine ensures_pure ⟨⟨_, rfl⟩, ?_, ?_, fun _ => accepted⟩
                  · rw [accepted]
                    exact noted_of_same rfl
                  · intro wrong
                    cases wrong
              | false =>
                  have accepted : totpAccepted runtime userId code draws db =
                      totpSent runtime userId code draws db := by
                    simp [totpAccepted, sent, remembered, found, again]
                  refine ensures_modify (ensures_pure ⟨⟨_, rfl⟩, ?_, fun _ => accepted, ?_⟩)
                  · rw [accepted, sent]
                    exact noted_setTotp found _ _ _
                  · intro wrong
                    cases wrong
          | false =>
              obtain ⟨accepted, checked⟩ : totpAccepted runtime userId code draws db = none ∧
                  Checked runtime userId code draws db false db :=
                without (by simp [totpSent, found, totp])
              simp only [Bool.false_eq_true, if_false]
              cases useRecoveryCode runtime (upper runtime (strip runtime code))
                twofa.recoveryCodesEnc with
              | none => exact ensures_pure checked
              | some codes =>
                  refine ensures_modify (ensures_pure ⟨⟨_, rfl⟩, ?_, ?_, fun _ => accepted⟩)
                  · rw [accepted]
                    exact noted_setCodes userId codes
                  · intro _
                    simp [accepted, totpSent, found, totp]

theorem ensures_opened (user : User) (client : Client) (draws : Draws) :
    Ensures (openSession runtime user client draws) mid
      (fun _ after => freshSession runtime draws mid = true ∧ after.twoFactors = mid.twoFactors)
      fun raised _ => Discards raised ∧ freshSession runtime draws mid = false := by
  have row : (mid.sessions.insertUnique? (fun row other => row.tokenHash = other.tokenHash)
      (newSession runtime user client draws)).isSome ↔ freshSession runtime draws mid = true :=
    insertUnique_isSome_iff user client draws
  apply ensures_bind
  apply ensures_get
  apply ensures_bind
  cases inserted : mid.sessions.insertUnique? (fun row other => row.tokenHash = other.tokenHash)
      (newSession runtime user client draws) with
  | none =>
      rw [inserted] at row
      exact ensures_throw ⟨⟨_, rfl⟩, by simpa using row⟩
  | some sessions =>
      rw [inserted] at row
      exact ⟨row.mp rfl, rfl⟩

/-- How a request that has its code checked ends. -/
theorem ensures_enterWithCode (user : User) (code : String) (client : Client) (draws : Draws) :
    Ensures (enterWithCode runtime user code client draws) mid
      (fun response after => freshSession runtime draws mid = true ∧
        (∃ current has2fa cookie, response = .loggedIn current has2fa cookie ∧
          current.id = user.id) ∧
        totpAccepted runtime user.id code draws mid = totpSent runtime user.id code draws mid ∧
        Noted mid after (totpAccepted runtime user.id code draws mid))
      fun raised after =>
        (Discards raised ∨ Noted mid after none) ∧
          (freshSession runtime draws mid = true →
            totpAccepted runtime user.id code draws mid = none) := by
  apply ensures_bind
  apply ensures_mono (ensures_checked user.id code draws) _ fun _ _ => False.elim
  rintro verified _ ⟨⟨twoFactors, rfl⟩, noted, sent, refused⟩
  cases verified with
  | false =>
      have unsent := refused rfl
      refine ensures_modify (ensures_throw ⟨.inr ?_, fun _ => unsent⟩)
      rw [unsent] at noted
      exact noted
  | true =>
      apply ensures_bind
      apply ensures_mono (ensures_opened user client draws)
      · rintro ⟨⟩ after ⟨fresh, same⟩
        refine ⟨fresh, ⟨_, _, _, rfl, ?_⟩, sent rfl, ?_⟩
        · cases stored : after.users.find? user.id with
          | none => rfl
          | some current => exact Table.key_of_find? stored
        · intro userId
          rw [← noted userId]
          unfold memory
          rw [same]
      · rintro raised after ⟨discards, used⟩
        refine ⟨.inl discards, fun fresh => ?_⟩
        have opened : freshSession runtime draws mid = false := used
        rw [fresh] at opened
        cases opened

end Codes

/-! ## Where the requests lead -/

section Requests

variable {db mid : Accounts} {client : Client} {draws : Draws} {user : User}
  {work : Work Response}

/-- A request that leaves the second factors alone and logs in no user who has one. -/
def Unjudged (db : Accounts) (work : Work Response) (start : Accounts) : Prop :=
  Ensures work start
    (fun response after => after.twoFactors = db.twoFactors ∧
      ∀ user has2fa cookie, response = .loggedIn user has2fa cookie →
        userHas2fa user.id db = false)
    fun raised after => Discards raised ∨ after.twoFactors = db.twoFactors

/-- The request comes down to the check of a code, or it is not judged. -/
def LeadsTo (runtime : Runtime) (db : Accounts) (client : Client) (draws : Draws)
    (work : Work Response) (start : Accounts) : Option (User × String) → Prop
  | none => Unjudged db work start
  | some (user, code) => ∃ mid, work start = enterWithCode runtime user code client draws mid ∧
      mid.twoFactors = db.twoFactors ∧ mid.sessions = db.sessions

theorem unjudged_raise (failure : Error) (start : Accounts) :
    Unjudged db (raise failure) start := ensures_throw (.inl ⟨_, rfl⟩)

theorem unjudged_opened (factors : mid.twoFactors = db.twoFactors)
    (single : userHas2fa user.id db = false) :
    Unjudged db (do openSession runtime user client draws; loginResponse user draws) mid := by
  apply ensures_bind
  apply ensures_mono (ensures_opened user client draws)
  · rintro ⟨⟩ after ⟨-, same⟩
    refine ⟨same.trans factors, ?_⟩
    rintro current has2fa cookie ⟨⟩
    cases stored : after.users.find? user.id with
    | none => exact single
    | some found =>
        have key : found.id = user.id := Table.key_of_find? stored
        simpa [key] using single
  · rintro raised after ⟨discards, -⟩
    exact .inl discards

/-- The answer of a password login with a second factor is a challenge. -/
theorem unjudged_challenge (factors : mid.twoFactors = db.twoFactors) :
    Unjudged db (issueChallenge runtime user draws) mid := by
  apply ensures_get
  apply ensures_bind
  apply ensures_mono (ensures_integrity _)
  · rintro emailTokens _ ⟨-, rfl⟩
    refine ensures_set (ensures_pure ⟨factors, ?_⟩)
    rintro _ _ _ ⟨⟩
  · exact fun _ _ => .inl

theorem consume_eq (runtime : Runtime) (tokens : mid.emailTokens = db.emailTokens) (user : User)
    (rawToken : String) (draws : Draws) :
    ∃ emailTokens, consume2faChallenge runtime user rawToken draws mid =
      .ok (challengeUsable runtime user.id rawToken draws db) { mid with emailTokens } := by
  unfold consume2faChallenge challengeUsable
  rw [← tokens]
  simp only [bind, EStateM.bind, get_apply]
  cases mid.emailTokens.rows.find? fun token => token.tokenHash = hashToken runtime rawToken &&
      token.kind = .twoFactor && token.userId = user.id with
  | none => exact ⟨_, rfl⟩
  | some record =>
      simp only [Option.any_some]
      cases used : record.usedAt with
      | some usedAt => exact ⟨_, rfl⟩
      | none =>
          by_cases ended : record.expiresAt.aware.instant < draws.challengeReadAt
          · simp only [Option.isSome_none, Bool.false_eq_true, if_false, if_pos ended]
            rw [decide_eq_true ended]
            exact ⟨_, rfl⟩
          · simp only [Option.isSome_none, Bool.false_eq_true, if_false, if_neg ended]
            rw [decide_eq_false ended]
            exact ⟨_, rfl⟩

theorem leadsTo_secondStep (user : User) (request : LoginRequest) (client : Client) (draws : Draws)
    (factors : mid.twoFactors = db.twoFactors) (sessions : mid.sessions = db.sessions)
    (tokens : mid.emailTokens = db.emailTokens) :
    LeadsTo runtime db client draws (secondStep runtime user request client draws) mid
      (if userHas2fa user.id db && given request.code && given request.challengeToken &&
          challengeUsable runtime user.id (request.challengeToken.getD "") draws db then
        some (user, request.code.getD "") else none) := by
  have second : userHas2fa user.id mid = userHas2fa user.id db := by
    unfold userHas2fa
    rw [factors]
  unfold secondStep
  cases has : userHas2fa user.id db with
  | false =>
      have opened : Unjudged db (do
          openSession runtime user client draws
          loginResponse user draws) mid := unjudged_opened factors has
      apply ensures_get
      rw [second, has]
      exact opened
  | true =>
      simp only [Bool.true_and]
      cases code : given request.code with
      | false =>
          apply ensures_get
          rw [second, has]
          simp only [if_true, Bool.not_false]
          exact unjudged_challenge factors
      | true =>
          cases challenge : given request.challengeToken with
          | false =>
              apply ensures_get
              rw [second, has]
              exact unjudged_raise ..
          | true =>
              let rawToken := request.challengeToken.getD ""
              obtain ⟨emailTokens, consumed⟩ := consume_eq runtime tokens user rawToken draws
              simp only [Bool.true_and]
              cases usable : challengeUsable runtime user.id rawToken draws db with
              | false =>
                  apply ensures_get
                  rw [second, has]
                  apply ensures_bind
                  unfold Ensures
                  rw [consumed, usable]
                  exact .inl ⟨_, rfl⟩
              | true =>
                  refine ⟨{ mid with emailTokens }, ?_, factors, sessions⟩
                  simp only [bind, EStateM.bind, get_apply, second, has, if_true, Bool.not_true,
                    Bool.false_eq_true, if_false, rawToken, consumed, usable]

theorem leadsTo_of_eq {start next : Accounts} {other : Work Response}
    {judged : Option (User × String)} (same : work start = other next)
    (leads : LeadsTo runtime db client draws other next judged) :
    LeadsTo runtime db client draws work start judged := by
  cases judged with
  | none =>
      have ends : Unjudged db other next := leads
      show Unjudged db work start
      unfold Unjudged Ensures at ends ⊢
      rw [same]
      exact ends
  | some sent =>
      obtain ⟨mid, comes, factors, sessions⟩ := leads
      exact ⟨mid, same.trans comes, factors, sessions⟩

theorem captcha_cases (user : User) (token : Option String) (draws : Draws) :
    if captchaPassed user token draws then captchaAfterFailures user token draws = pure ()
    else ∃ failure, captchaAfterFailures user token draws = raise failure := by
  unfold captchaPassed captchaAfterFailures
  by_cases few : user.failedLoginCount < 3
  · rw [if_neg (Int.not_le.mpr few), decide_eq_true few]
    rfl
  · rw [if_pos (Int.not_lt.mp few), decide_eq_false few, Bool.false_or]
    unfold verifyCaptcha
    cases draws.captchaSecret.isEmpty with
    | true => rfl
    | false =>
        cases given token with
        | false => exact ⟨_, rfl⟩
        | true =>
            cases draws.captchaAnswer with
            | none => exact ⟨_, rfl⟩
            | some answer =>
                cases answer with
                | false => exact ⟨_, rfl⟩
                | true => rfl

theorem refreshHash_returns {request : LoginRequest} (draws : Draws) (db : Accounts)
    (verified : verifyPassword runtime request.password user.passwordHash = true) :
    ∃ users, refreshHash runtime user request.password draws db = .ok () { db with users } := by
  have written : request.password.isEmpty = false := by
    cases empty : request.password.isEmpty with
    | false => rfl
    | true => simp [verifyPassword, empty] at verified
  unfold refreshHash
  split
  · unfold hashPassword
    rw [written]
    exact ⟨_, rfl⟩
  · exact ⟨_, rfl⟩

theorem leadsTo_firstStep (user : User) (request : LoginRequest) (client : Client)
    (draws : Draws) :
    LeadsTo runtime db client draws (firstStep runtime user request client draws) db
      (judgedLogin runtime request draws db user) := by
  have captcha := captcha_cases user request.captchaToken draws
  unfold firstStep judgedLogin
  cases passed : captchaPassed user request.captchaToken draws with
  | false =>
      rw [passed] at captcha
      obtain ⟨failure, raises⟩ := captcha
      rw [raises]
      exact unjudged_raise failure db
  | true =>
      rw [passed] at captcha
      rw [captcha]
      simp only [pure_bind, Bool.true_and]
      cases locked user draws.now with
      | true => exact unjudged_raise ..
      | false =>
          simp only [Bool.false_eq_true, if_false, Bool.not_false, Bool.true_and]
          cases verified : verifyPassword runtime request.password user.passwordHash with
          | false =>
              have refused : Unjudged db (refuse user draws "invalid credentials") db :=
                ensures_modify (ensures_throw (.inr rfl))
              exact refused
          | true =>
              obtain ⟨users, refreshed⟩ := refreshHash_returns draws db verified
              simp only [Bool.not_true, Bool.false_eq_true, if_false, if_true]
              have goesOn : (refreshHash runtime user request.password draws >>= fun _ =>
                  secondStep runtime user request client draws) db =
                    secondStep runtime user request client draws { db with users } := by
                simp only [bind, EStateM.bind, refreshed]
              exact leadsTo_of_eq goesOn (leadsTo_secondStep user request client draws rfl rfl rfl)

theorem login_cases (runtime : Runtime) (request : LoginRequest) (client : Client) (draws : Draws)
    (db : Accounts) :
    (addressed runtime request client draws db = none ∧
      ∃ failure, login runtime request client draws db = raise failure db) ∨
    ∃ user, addressed runtime request client draws db = some user ∧
      login runtime request client draws db = firstStep runtime user request client draws db := by
  unfold addressed login enforceAuthRateLimit enforceIpRateLimit
  cases draws.emailDecision.allowed with
  | false => exact .inl ⟨rfl, _, rfl⟩
  | true =>
      cases !given client.host || draws.ipDecision.allowed with
      | false => exact .inl ⟨rfl, _, rfl⟩
      | true =>
          simp only [Bool.and_self, if_true, pure_bind]
          simp only [bind, EStateM.bind, get_apply]
          cases db.users.rows.find? fun user =>
              decide (user.email = strip runtime (lower runtime request.email)) with
          | none => exact .inl ⟨rfl, _, rfl⟩
          | some user =>
              by_cases active : user.status = .active
              · refine .inr ⟨user, by simp [active], ?_⟩
                simp only [active, ne_eq, not_true, if_false]
              · refine .inl ⟨by simp [active], .httpException 401 "invalid credentials", ?_⟩
                simp only [active, ne_eq, not_false_eq_true, if_true]

theorem leadsTo_raise {failure : Error} {start next : Accounts}
    (raises : work start = raise failure next) :
    LeadsTo runtime db client draws work start none := by
  have ends : Unjudged db (raise failure) next := unjudged_raise failure next
  exact leadsTo_of_eq raises ends

theorem leadsTo_login (runtime : Runtime) (request : LoginRequest) (client : Client)
    (draws : Draws) (db : Accounts) :
    LeadsTo runtime db client draws (login runtime request client draws) db
      (judged runtime db (.login request client draws)) := by
  rcases login_cases runtime request client draws db with
    ⟨missing, failure, raises⟩ | ⟨user, found, goesOn⟩
  · simp only [judged, missing, Option.bind_none]
    exact leadsTo_raise raises
  · simp only [judged, found, Option.bind_some]
    exact leadsTo_of_eq goesOn (leadsTo_firstStep user request client draws)

theorem leadsTo_challenge (runtime : Runtime) (request : TwoFactorChallengeRequest)
    (client : Client) (draws : Draws) (db : Accounts) :
    LeadsTo runtime db client draws (twoFactorChallenge runtime request client draws) db
      (judged runtime db (.challenge request client draws)) := by
  unfold judged
  rcases @challenge_cases runtime request client draws db with
    ⟨missing, raises⟩ | ⟨user, emailTokens, found, goesOn⟩
  · simp only [missing, Option.map_none]
    exact ensures_mono raises (fun _ _ => False.elim) fun _ _ => .inl
  · simp only [found, Option.map_some]
    exact ⟨_, goesOn, rfl, rfl⟩

/-- The callback neither reads nor writes a second factor. -/
def SameFactors (before after : Accounts) : Prop := after.twoFactors = before.twoFactors

theorem settles_findOrCreate (sub email : String) (info : UserInfo) (draws : Draws) :
    Ensures (findOrCreateGoogleUser sub email info draws) db (fun _ => SameFactors db)
      fun raised _ => Discards raised := by
  apply ensures_get
  cases googleUser sub email db with
  | some user => exact ensures_pure rfl
  | none =>
      apply ensures_get
      apply ensures_bind
      apply ensures_mono (ensures_integrity _) _ fun _ _ discards => discards
      rintro users _ ⟨-, rfl⟩
      exact ensures_set (ensures_pure rfl)

theorem settles_linkIdentity (user : User) (sub email : String) (draws : Draws) :
    Ensures (linkIdentity user sub email draws) db (fun _ => SameFactors db)
      fun raised _ => Discards raised := by
  apply ensures_get
  split
  · exact ensures_pure rfl
  · apply ensures_bind
    apply ensures_mono (ensures_integrity _) _ fun _ _ discards => discards
    rintro identities _ ⟨-, rfl⟩
    exact rfl

theorem settles_google (query : GoogleQuery) (client : Client) (draws : Draws) (db : Accounts) :
    Settles (SameFactors db) (googleCallback runtime query client draws) db := by
  rcases googleCallback_cases runtime query client draws db with
    ⟨-, unchanged⟩ | ⟨info, sub, email, -, entering⟩
  · apply ensures_mono unchanged
    · rintro _ _ rfl
      exact rfl
    · exact fun _ _ => .inl
  · rw [entering]
    apply ensures_bind
    apply ensures_mono (settles_findOrCreate sub email info draws) _ fun _ _ => .inl
    intro user created same
    apply ensures_bind
    apply ensures_mono (settles_linkIdentity user sub email draws) _ fun _ _ => .inl
    intro _ linked still
    apply ensures_bind
    have confirmed : Ensures (confirmVerified user info draws) linked (fun _ => SameFactors linked)
        fun _ _ => False := by
      unfold confirmVerified
      split
      · exact rfl
      · exact ensures_pure rfl
    apply ensures_mono confirmed _ fun _ _ => False.elim
    intro _ verified kept
    apply ensures_bind
    apply ensures_mono (ensures_opened user client draws)
    · rintro _ after ⟨-, last⟩
      exact last.trans (kept.trans (still.trans same))
    · rintro raised after ⟨discards, -⟩
      exact .inl discards

/-! ## One request -/

theorem totpSent_of_same {userId code : String} (factors : mid.twoFactors = db.twoFactors) :
    totpSent runtime userId code draws mid = totpSent runtime userId code draws db := by
  unfold totpSent
  rw [factors]

theorem totpSent_of_single {userId : String} (single : userHas2fa userId db = false)
    (code : String) : totpSent runtime userId code draws db = none := by
  rw [Option.eq_none_iff_forall_ne_some]
  intro sent sends
  obtain ⟨twofa, found, enabled, -⟩ := totpSent_eq_some_iff.mp sends
  simp [userHas2fa, found, enabled] at single

/-- A request accepts the code that it judges unless the row remembers it, and notes it. -/
structure Settled (runtime : Runtime) (db : Accounts) (request : Request) : Prop where
  accepted : accepted runtime db request =
    (submitted runtime db request).filter fun sent => !remembered db sent
  noted : Noted db (serve runtime db request) (TotpReplay.accepted runtime db request)

theorem settled_of_none {request : Request} (unsent : submitted runtime db request = none)
    (refused : accepted runtime db request = none)
    (same : (serve runtime db request).twoFactors = db.twoFactors) :
    Settled runtime db request where
  accepted := by
    rw [refused, unsent]
    rfl
  noted := by
    rw [refused]
    exact noted_of_same same

theorem settled_of_unjudged {request : Request} (unsent : judged runtime db request = none)
    (ends : Unjudged db (perform runtime request) db) : Settled runtime db request := by
  have unsubmitted : submitted runtime db request = none := by
    rw [submitted, unsent]
    rfl
  unfold Unjudged Ensures at ends
  cases ran : perform runtime request db with
  | ok response after =>
      rw [ran] at ends
      obtain ⟨same, single⟩ := ends
      apply settled_of_none unsubmitted
      · unfold accepted
        simp only [finish, ran]
        cases response with
        | loggedIn user has2fa cookie =>
            cases codeOf request with
            | none => rfl
            | some code => exact totpSent_of_single (single user has2fa cookie rfl) code
        | challenge token => rfl
        | redirect url cookie => rfl
      · simp only [serve, finish, ran]
        exact same
  | error raised after =>
      rw [ran] at ends
      have refused : accepted runtime db request = none := by
        unfold accepted
        cases raised <;> simp only [finish, ran]
      apply settled_of_none unsubmitted refused
      cases raised with
      | discarding failure => simp only [serve, finish, ran]
      | committed failure =>
          simp only [serve, finish, ran]
          rcases ends with ⟨other, wrong⟩ | same
          · cases wrong
          · exact same

theorem settled_of_judged {request : Request} {code : String} {client : Client}
    (sent : judged runtime db request = some (user, code)) (carried : codeOf request = some code)
    (goesOn : perform runtime request db =
      enterWithCode runtime user code client request.draws mid)
    (factors : mid.twoFactors = db.twoFactors) (sessions : mid.sessions = db.sessions) :
    Settled runtime db request := by
  have ends : Ensures (enterWithCode runtime user code client request.draws) mid _ _ :=
    ensures_enterWithCode user code client request.draws
  have fresh : freshSession runtime request.draws mid = freshSession runtime request.draws db := by
    unfold freshSession
    rw [sessions]
  have judging : totpAccepted runtime user.id code request.draws mid =
      totpAccepted runtime user.id code request.draws db := by
    unfold totpAccepted remembered
    rw [totpSent_of_same factors, factors]
  have noting {after : Accounts} {noted : Option Submission} (kept : Noted mid after noted) :
      Noted db after noted := by
    unfold Noted memory at kept ⊢
    rw [← factors]
    exact kept
  rw [fresh, judging, totpSent_of_same factors, Ensures] at ends
  have submission : (submitted runtime db request).filter (fun sent => !remembered db sent) =
      if freshSession runtime request.draws db then
        totpAccepted runtime user.id code request.draws db
      else none := by
    rw [submitted, sent, Option.bind_some]
    dsimp only
    split
    · rfl
    · rfl
  cases ran : perform runtime request db with
  | ok response after =>
      rw [← goesOn, ran] at ends
      obtain ⟨opened, ⟨current, has2fa, cookie, rfl, own⟩, all, noted⟩ := ends
      have taken : accepted runtime db request =
          totpAccepted runtime user.id code request.draws db := by
        unfold accepted
        simp only [finish, ran, carried, own, all]
      constructor
      · rw [taken, submission, if_pos opened]
      · rw [taken]
        simp only [serve, finish, ran]
        exact noting noted
  | error raised after =>
      rw [← goesOn, ran] at ends
      obtain ⟨kept, stopped⟩ := ends
      have refused : accepted runtime db request = none := by
        unfold accepted
        cases raised <;> simp only [finish, ran]
      have unsent : (submitted runtime db request).filter (fun sent => !remembered db sent) =
          none := by
        rw [submission]
        split
        · rename_i opened
          exact stopped opened
        · rfl
      refine ⟨refused.trans unsent.symm, ?_⟩
      rw [refused]
      cases raised with
      | discarding failure =>
          simp only [serve, finish, ran]
          exact noted_of_same rfl
      | committed failure =>
          simp only [serve, finish, ran]
          rcases kept with ⟨other, wrong⟩ | same
          · cases wrong
          · exact noting same

theorem settled_of_leadsTo {request : Request} (client : Client)
    (leads : LeadsTo runtime db client request.draws (perform runtime request) db
      (judged runtime db request))
    (carried : ∀ user code, judged runtime db request = some (user, code) →
      codeOf request = some code) :
    Settled runtime db request := by
  cases sent : judged runtime db request with
  | none =>
      rw [sent] at leads
      exact settled_of_unjudged sent leads
  | some pair =>
      obtain ⟨user, code⟩ := pair
      rw [sent] at leads
      obtain ⟨mid, goesOn, factors, sessions⟩ := leads
      exact settled_of_judged sent (carried user code sent) goesOn factors sessions

theorem settled (runtime : Runtime) (db : Accounts) (request : Request) :
    Settled runtime db request := by
  cases request with
  | login request client draws =>
      apply settled_of_leadsTo client (leadsTo_login runtime request client draws db)
      intro user code sent
      obtain ⟨named, -, leads⟩ := Option.bind_eq_some_iff.mp sent
      obtain ⟨-, leads⟩ := Option.ite_none_right_eq_some.mp leads
      obtain ⟨asked, same⟩ := Option.ite_none_right_eq_some.mp leads
      obtain rfl : request.code.getD "" = code := congrArg Prod.snd (Option.some.inj same)
      simp only [Bool.and_eq_true] at asked
      cases written : request.code with
      | none => simp [given, written] at asked
      | some text => simp [codeOf, written]
  | challenge request client draws =>
      apply settled_of_leadsTo client (leadsTo_challenge runtime request client draws db)
      intro user code sent
      obtain ⟨named, -, same⟩ := Option.map_eq_some_iff.mp sent
      exact congrArg some (congrArg Prod.snd same)
  | google query client draws =>
      apply settled_of_none rfl
      · unfold accepted
        cases (finish (perform runtime (.google query client draws)) db).1 with
        | error failure => rfl
        | ok response => cases response <;> rfl
      · have same : SameFactors db (finish (googleCallback runtime query client draws) db).2 :=
          finish_settles rfl (settles_google query client draws db)
        exact same

end Requests

/-! ## Runs -/

section Runs

variable {totp : String → Int → String}

/-- The codes accepted in a run, oldest first. -/
def acceptances (runtime : Runtime) : Accounts → List Request → List Submission
  | _, [] => []
  | db, request :: rest =>
      (accepted runtime db request).toList ++ acceptances runtime (serve runtime db request) rest

/-- The accounts, and the codes accepted so far with the last one first. -/
def serveLogged (runtime : Runtime) (state : Accounts × List Submission) (request : Request) :
    Accounts × List Submission :=
  (serve runtime state.1 request, (accepted runtime state.1 request).toList ++ state.2)

def FirstTime (runtime : Runtime) (totp : String → Int → String)
    (state : Accounts × List Submission) (request : Request) : Prop :=
  ∀ sent, accepted runtime state.1 request = some sent →
    ∀ earlier ∈ state.2, ¬Again runtime totp earlier sent

def lastOf (userId : String) (log : List Submission) : Option Submission :=
  log.find? fun sent => sent.userId = userId

/-- A value that comes again within its step is the text that was accepted last from the user,
less than the replay window ago. -/
def ComesAlike (runtime : Runtime) (totp : String → Int → String)
    (state : Accounts × List Submission) (request : Request) : Prop :=
  ∀ sent, submitted runtime state.1 request = some sent →
    (∃ earlier ∈ state.2, Again runtime totp earlier sent) →
      ∃ last, lastOf sent.userId state.2 = some last ∧ last.spelled = sent.spelled ∧
        sent.verifiedAt - last.verifiedAt < totpReplayWindow

def RemembersLast (state : Accounts × List Submission) : Prop :=
  ∀ userId last, lastOf userId state.2 = some last →
    memory userId state.1 = some (some last.spelled, some (.utc last.verifiedAt))

theorem remembered_iff {state : Accounts × List Submission} (remembers : RemembersLast state)
    {sent last : Submission} (latest : lastOf sent.userId state.2 = some last) :
    remembered state.1 sent = true ↔
      last.spelled = sent.spelled ∧ sent.verifiedAt - last.verifiedAt < totpReplayWindow := by
  have noted := remembers sent.userId last latest
  unfold memory at noted
  obtain ⟨twofa, found, same⟩ := Option.map_eq_some_iff.mp noted
  obtain ⟨code, at'⟩ := Prod.mk.inj same
  simp [remembered, found, replayed, code, at']

theorem firstTime_iff (state : Accounts × List Submission) (request : Request)
    (remembers : RemembersLast state) :
    FirstTime runtime totp state request ↔ ComesAlike runtime totp state request := by
  have taken {sent : Submission} : accepted runtime state.1 request = some sent ↔
      submitted runtime state.1 request = some sent ∧ remembered state.1 sent = false := by
    rw [(settled runtime state.1 request).accepted, Option.filter_eq_some_iff, Bool.not_eq_true']
  constructor
  · rintro first sent sends ⟨earlier, listed, again⟩
    obtain ⟨last, latest⟩ : ∃ last, lastOf sent.userId state.2 = some last := by
      rw [← Option.isSome_iff_exists, lastOf, List.find?_isSome]
      exact ⟨earlier, listed, by simpa using again.1⟩
    refine ⟨last, latest, (remembered_iff remembers latest).mp ?_⟩
    by_contra forgotten
    rw [Bool.not_eq_true] at forgotten
    exact first sent (taken.mpr ⟨sends, forgotten⟩) earlier listed again
  · intro alike sent accepts earlier listed again
    obtain ⟨sends, forgotten⟩ := taken.mp accepts
    obtain ⟨last, latest, same⟩ := alike sent sends ⟨earlier, listed, again⟩
    rw [(remembered_iff remembers latest).mpr same] at forgotten
    cases forgotten

theorem remembersLast_step (state : Accounts × List Submission) (request : Request)
    (remembers : RemembersLast state) : RemembersLast (serveLogged runtime state request) := by
  have noted := (settled runtime state.1 request).noted
  intro userId last latest
  unfold serveLogged at latest ⊢
  dsimp only at latest ⊢
  rw [noted userId]
  cases taken : accepted runtime state.1 request with
  | none =>
      rw [taken] at latest
      exact remembers userId last latest
  | some sent =>
      rw [taken] at latest
      simp only [lastOf, Option.toList_some, List.singleton_append, List.find?_cons] at latest
      dsimp only
      split at latest
      · rename_i own
        rw [decide_eq_true_eq] at own
        obtain rfl := Option.some.inj latest
        rw [if_pos own.symm]
      · rename_i other
        rw [decide_eq_false_iff_not] at other
        rw [if_neg (Ne.symm other)]
        exact remembers userId last latest

theorem acceptances_apart_iff (runtime : Runtime) (totp : String → Int → String)
    (start : Accounts) (log : List Submission) (requests : List Request) :
    Run.Along (FirstTime runtime totp) (serveLogged runtime) (start, log) requests ↔
      (acceptances runtime start requests).Pairwise
          (fun earlier later => ¬Again runtime totp earlier later) ∧
        ∀ later ∈ acceptances runtime start requests, ∀ earlier ∈ log,
          ¬Again runtime totp earlier later := by
  induction requests generalizing start log with
  | nil => simp [Run.Along, acceptances]
  | cons request rest ih =>
      rw [Run.Along, serveLogged, ih]
      simp only [acceptances, FirstTime]
      cases accepted runtime start request with
      | none => simp
      | some sent =>
          simp only [Option.toList_some, List.singleton_append, List.pairwise_cons,
            List.forall_mem_cons, Option.some.injEq, forall_eq']
          constructor
          · rintro ⟨now, later, both⟩
            exact ⟨⟨fun other listed => (both other listed).1, later⟩, now,
              fun other listed => (both other listed).2⟩
          · rintro ⟨⟨beside, later⟩, now, both⟩
            exact ⟨now, later, fun other listed => ⟨beside other listed, both other listed⟩⟩

/-- In every run the value of a step is accepted at most once from each user, if and only if
a value that comes again within its step always comes as the text accepted last, and within
90 seconds. -/
theorem totp_once_iff (runtime : Runtime) (totp : String → Int → String) (start : Accounts)
    (requests : List Request) :
    (acceptances runtime start requests).Pairwise
        (fun earlier later => ¬Again runtime totp earlier later) ↔
      Run.Along (ComesAlike runtime totp) (serveLogged runtime) (start, []) requests := by
  have apart := acceptances_apart_iff runtime totp start [] requests
  rw [← Run.along_iff RemembersLast firstTime_iff
    (fun state request remembers _ => remembersLast_step state request remembers)
    (fun _ _ unlogged => by cases unlogged), apart]
  simp

/-- Every acceptance is of the value of a step that is valid at its time. -/
theorem accepted_of_step (window : Window runtime totp) {db : Accounts} {request : Request}
    {sent : Submission} (accepts : accepted runtime db request = some sent) :
    ∃ step, sent.Of runtime totp step := by
  rw [(settled runtime db request).accepted] at accepts
  obtain ⟨submits, -⟩ := Option.filter_eq_some_iff.mp accepts
  obtain ⟨⟨user, code⟩, -, sends⟩ := Option.bind_eq_some_iff.mp submits
  obtain ⟨-, sends⟩ := Option.ite_none_right_eq_some.mp sends
  obtain ⟨twofa, -, -, verified, rfl⟩ := totpSent_eq_some_iff.mp sends
  unfold verifyTotp at verified
  dsimp only at verified
  split at verified
  · exact absurd verified Bool.false_ne_true
  · exact (window ..).mp verified

/-- Three neighbouring codes of one secret. -/
def sampleTotp (secret : String) (step : Int) : String :=
  if secret = "JBSWY3DPEHPK3PXP" then
    if step = 33333332 then "087082"
    else if step = 33333333 then "949556"
    else if step = 33333334 then "310976"
    else ""
  else ""

def windowRuntime : Runtime := { sampleRuntime with
  sha256Hex := fun token =>
    if token = "challenge-1" then
      "023212d1fd4f0a3ad03c45c52a40871f468abc416ec181f6eebfc3226cc4753c"
    else if token = "challenge-2" then
      "b16b36bff6d0baefb5cda5f800d778c852cb838fcdca8c35f2bc9214172ae3d1"
    else if token = "session-1" then
      "84097828fc31a8c8d29210df48901a85de7fd013f686b17be77d1be29cb7a98b"
    else if token = "session-2" then
      "5d9061408048c12d053925aed45333a142997f26a2cd1e0c4a87678c53a1e3ae"
    else ""
  totpVerify := fun secret code at' =>
    [at' / seconds 30 - 1, at' / seconds 30, at' / seconds 30 + 1].any fun step =>
      sampleTotp secret step = code }

theorem window_sample : Window windowRuntime sampleTotp := by
  intro secret code at'
  simp only [windowRuntime, List.any_cons, List.any_nil, Bool.or_false, Bool.or_eq_true,
    decide_eq_true_eq, InWindow]
  constructor
  · rintro (same | same | same)
    · exact ⟨_, by omega, same⟩
    · exact ⟨_, by omega, same⟩
    · exact ⟨_, by omega, same⟩
  · rintro ⟨step, near, same⟩
    obtain rfl | rfl | rfl : step = at' / seconds 30 - 1 ∨ step = at' / seconds 30 ∨
        step = at' / seconds 30 + 1 := by omega
    · exact .inl same
    · exact .inr (.inl same)
    · exact .inr (.inr same)

def twoChallenges : List EmailToken := [
  ⟨"e1", "u1", .twoFactor, "023212d1fd4f0a3ad03c45c52a40871f468abc416ec181f6eebfc3226cc4753c",
    .utc (seconds 1000000240), none, .utc (seconds 999999940)⟩,
  ⟨"e2", "u1", .twoFactor, "b16b36bff6d0baefb5cda5f800d778c852cb838fcdca8c35f2bc9214172ae3d1",
    .utc (seconds 1000000250), none, .utc (seconds 999999950)⟩]

theorem twoChallenges_distinct : (twoChallenges.map EmailToken.id).Nodup := by decide

def paired : TwoFactor := ⟨"u1", "JBSWY3DPEHPK3PXP", [], some (.utc 0), none, none⟩

theorem paired_distinct : ([paired].map TwoFactor.userId).Nodup := List.nodup_singleton _

/-- A user who has passed the password step twice. -/
def twiceChallenged : Accounts := { Accounts.empty with
  users := ⟨[⟨"u1", "a@example.com", none, "!oauth", none, "user", .active, none, 0, none⟩],
    List.nodup_singleton _⟩
  twoFactors := ⟨[paired], paired_distinct⟩
  emailTokens := ⟨twoChallenges, twoChallenges_distinct⟩ }

/-- The code, and the same code with a space in it. -/
def spelledTwice : List Request := [
  .challenge ⟨"challenge-1", "949556"⟩ browser sampleDraws,
  .challenge ⟨"challenge-2", "949 556"⟩ browser
    { sampleDraws with sessionId := "s2", rawToken := "session-2" }]

theorem spelled_twice_accepted : ¬∀ runtime totp start requests, Window runtime totp →
    (acceptances runtime start requests).Pairwise
      (fun earlier later => ¬Again runtime totp earlier later) := by
  intro all
  have apart := all windowRuntime sampleTotp twiceChallenged spelledTwice window_sample
  have taken : acceptances windowRuntime twiceChallenged spelledTwice = [
      ⟨"u1", "JBSWY3DPEHPK3PXP", "949556", seconds 1000000000, seconds 1000000000⟩,
      ⟨"u1", "JBSWY3DPEHPK3PXP", "949 556", seconds 1000000000, seconds 1000000000⟩] := by
    decide +kernel
  rw [taken, List.pairwise_cons] at apart
  refine apart.1 _ List.mem_cons_self ⟨rfl, by decide +kernel, 33333333, ⟨by decide, ?_⟩,
    ⟨by decide, ?_⟩⟩
  · decide +kernel
  · decide +kernel

end Runs

end ApiBank.Auth.TotpReplay
