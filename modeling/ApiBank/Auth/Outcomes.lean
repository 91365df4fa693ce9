import ApiBank.Auth.Login
import ApiBank.Transition.Postconditions

/-!
# What the login routes leave behind

A request ends in one of two ways: without a session, the failures and locks of
all users in force, or with one session more, for one user. For the challenge
route and the Google callback the user is named in terms of the request and the
accounts before it.
-/

namespace ApiBank.Auth.Outcomes

open ApiBank.Db ApiBank.Relational ApiBank.Transition ApiBank.Transition.Effect

set_option autoImplicit false

variable {runtime : Runtime}

/-! ## Failures and locks -/

/-- The failure count has not gone down, and the lock is the old one or a new one
that has not ended. -/
structure KeepsFailures (now : Int) (user after : User) : Prop where
  count : user.failedLoginCount ≤ after.failedLoginCount
  lock : after.lockedUntil = user.lockedUntil ∨
    ∃ lockedUntil, after.lockedUntil = some lockedUntil ∧ now < lockedUntil.aware.instant

theorem keepsFailures_of_same {now : Int} {user after : User}
    (count : after.failedLoginCount = user.failedLoginCount)
    (lock : after.lockedUntil = user.lockedUntil) : KeepsFailures now user after where
  count := Int.le_of_eq count.symm
  lock := .inl lock

theorem nextLockoutDuration_pos (failedCount : Int) : 0 < nextLockoutDuration failedCount := by
  have every : ∀ index < 6, 0 < loginLockoutDurations.getD index 0 := by decide
  apply every
  have slots : (loginLockoutDurations.length : Int) = 6 := rfl
  omega

theorem keepsFailures_countFailure {now : Int} {user current : User}
    (count : current.failedLoginCount = user.failedLoginCount)
    (lock : current.lockedUntil = user.lockedUntil) :
    KeepsFailures now user (countFailure now current) where
  count := by
    simp only [countFailure, count]
    omega
  lock := by
    unfold countFailure
    dsimp only
    split
    · refine .inr ⟨_, rfl, ?_⟩
      have later := nextLockoutDuration_pos (current.failedLoginCount + 1)
      simp only [DateTime.instant_aware, DateTime.instant_utc]
      omega
    · exact .inl lock

/-! ## The ways a request can leave the accounts -/

/-- So far the request has opened nothing and touched no failure count or lock. -/
structure Prepared (db mid : Accounts) : Prop where
  sessions : mid.sessions = db.sessions
  failures : ∀ userId user, db.users.find? userId = some user →
    ∃ current, mid.users.find? userId = some current ∧
      current.failedLoginCount = user.failedLoginCount ∧
      current.lockedUntil = user.lockedUntil

/-- The request has ended without a session. -/
structure Quiet (now : Int) (db after : Accounts) : Prop where
  sessions : after.sessions = db.sessions
  failures : ∀ userId user, db.users.find? userId = some user →
    ∃ current, after.users.find? userId = some current ∧ KeepsFailures now user current

/-- The request has opened a session for one user. -/
structure Opens (now : Int) (db : Accounts) (userId : String) (after : Accounts) : Prop where
  added : ∃ row : SessionModel, row.userId = userId ∧
    after.sessions.rows = db.sessions.rows ++ [row] ∧ db.sessions.find? row.id = none
  others : ∀ otherId user, otherId ≠ userId → db.users.find? otherId = some user →
    ∃ current, after.users.find? otherId = some current ∧ KeepsFailures now user current

theorem prepared_refl (db : Accounts) : Prepared db db where
  sessions := rfl
  failures := fun _ user stored => ⟨user, stored, rfl, rfl⟩

theorem quiet_of_prepared {now : Int} {db mid : Accounts} (prepared : Prepared db mid) :
    Quiet now db mid where
  sessions := prepared.sessions
  failures := by
    intro userId user stored
    obtain ⟨current, found, count, lock⟩ := prepared.failures userId user stored
    exact ⟨current, found, keepsFailures_of_same count lock⟩

theorem Prepared.beside {db mid : Accounts} (prepared : Prepared db mid)
    (twoFactors : Table TwoFactor.userId) (emailTokens : Table EmailToken.id)
    (oauthIdentities : Table OAuthIdentity.id) :
    Prepared db { mid with twoFactors, emailTokens, oauthIdentities } where
  sessions := prepared.sessions
  failures := prepared.failures

theorem Prepared.write {db mid : Accounts} (prepared : Prepared db mid) {writtenId : String}
    {change : User → User} {keeps : ∀ user, (change user).id = user.id}
    (count : ∀ user, (change user).failedLoginCount = user.failedLoginCount)
    (lock : ∀ user, (change user).lockedUntil = user.lockedUntil) :
    Prepared db { mid with users := mid.users.modify writtenId change keeps } where
  sessions := prepared.sessions
  failures := by
    intro userId user stored
    obtain ⟨current, found, sameCount, sameLock⟩ := prepared.failures userId user stored
    rw [Table.find?_modify, found]
    split
    · exact ⟨change current, rfl, (count current).trans sameCount,
        (lock current).trans sameLock⟩
    · exact ⟨current, rfl, sameCount, sameLock⟩

theorem quiet_countFailure {now : Int} {db mid : Accounts} (prepared : Prepared db mid)
    (failedId : String) : Quiet now db { mid with
      users := mid.users.modify failedId (countFailure now) (id_countFailure now) } where
  sessions := prepared.sessions
  failures := by
    intro userId user stored
    obtain ⟨current, found, count, lock⟩ := prepared.failures userId user stored
    rw [Table.find?_modify, found]
    split
    · exact ⟨_, rfl, keepsFailures_countFailure count lock⟩
    · exact ⟨current, rfl, keepsFailures_of_same count lock⟩

theorem opens_enter {now enteredAt : Int} {db mid : Accounts} {sessions : Table SessionModel.id}
    {row : SessionModel} {clash : SessionModel → SessionModel → Bool}
    (prepared : Prepared db mid) (inserted : mid.sessions.insertUnique? clash row = some sessions) :
    Opens now db row.userId { mid with
      sessions
      users := mid.users.modify row.userId (enter enteredAt) (id_enter enteredAt) } where
  added := by
    have insertion := ((Table.insertUnique?_eq_some_iff ..).mp inserted).2
    rw [prepared.sessions] at insertion
    exact ⟨row, rfl, Table.rows_of_insert? insertion, Table.fresh_of_insert? insertion⟩
  others := by
    intro otherId user different stored
    obtain ⟨current, found, count, lock⟩ := prepared.failures otherId user stored
    rw [Table.find?_modify, if_neg different]
    exact ⟨current, found, keepsFailures_of_same count lock⟩

/-! ## What the parts of the routes do -/

/-- Nothing is committed before this raise. -/
def Discards (raised : Raised) : Prop := ∃ failure, raised = .discarding failure

section Parts

variable {db : Accounts}

/-- The answer of `verify2faCode`. -/
def acceptsCode (runtime : Runtime) (userId code : String) (draws : Draws) (db : Accounts) :
    Bool :=
  (db.twoFactors.find? userId).any fun twofa => twofa.enabledAt.isSome &&
    let stripped := strip runtime code
    if verifyTotp runtime twofa.secretEnc stripped draws.totpAt then
      !replayed twofa stripped draws.verifiedAt
    else (useRecoveryCode runtime (upper runtime stripped) twofa.recoveryCodesEnc).isSome

theorem unused_of_useRecoveryCode {code : String} {codes : List (String × String)}
    (used : (useRecoveryCode runtime code codes).isSome) :
    ∃ key hashed, (key, hashed) ∈ codes ∧ hashed ≠ "USED" ∧
      verifyRecoveryCode runtime code hashed = true := by
  induction codes with
  | nil => contradiction
  | cons entry rest ih =>
      obtain ⟨key, hashed⟩ := entry
      unfold useRecoveryCode at used
      split at used
      · rename_i matched
        obtain ⟨unused, verified⟩ := Bool.and_eq_true_iff.mp matched
        exact ⟨key, hashed, List.mem_cons_self, by simpa using unused, verified⟩
      · rw [Option.isSome_map] at used
        obtain ⟨key', hashed', member, found⟩ := ih used
        exact ⟨key', hashed', List.mem_cons_of_mem _ member, found⟩

theorem ensures_verify2faCode (userId code : String) (draws : Draws) :
    Ensures (verify2faCode runtime userId code draws) db
      (fun verified after => verified = acceptsCode runtime userId code draws db ∧
        ∃ twoFactors, after = { db with twoFactors }) fun _ _ => False := by
  unfold verify2faCode acceptsCode
  apply ensures_get
  cases found : db.twoFactors.find? userId with
  | none => exact ensures_pure ⟨rfl, _, rfl⟩
  | some twofa =>
      simp only [Option.any_some]
      cases enabled : twofa.enabledAt with
      | none => exact ensures_pure ⟨rfl, _, rfl⟩
      | some enabledAt =>
          simp only [Option.isNone_some, Option.isSome_some, Bool.true_and, Bool.false_eq_true,
            if_false]
          cases totp : verifyTotp runtime twofa.secretEnc (strip runtime code) draws.totpAt with
          | true =>
              simp only [if_true]
              cases replayed twofa (strip runtime code) draws.verifiedAt with
              | true => exact ensures_pure ⟨rfl, _, rfl⟩
              | false => exact ensures_modify (ensures_pure ⟨rfl, _, rfl⟩)
          | false =>
              simp only [Bool.false_eq_true, if_false]
              cases useRecoveryCode runtime (upper runtime (strip runtime code))
                twofa.recoveryCodesEnc with
              | none => exact ensures_pure ⟨rfl, _, rfl⟩
              | some codes => exact ensures_modify (ensures_pure ⟨rfl, _, rfl⟩)

theorem ensures_consume2faChallenge (user : User) (rawToken : String) (draws : Draws) :
    Ensures (consume2faChallenge runtime user rawToken draws) db
      (fun _ after => ∃ emailTokens, after = { db with emailTokens }) fun _ _ => False := by
  unfold consume2faChallenge
  apply ensures_get
  dsimp only
  split
  · exact ensures_pure ⟨_, rfl⟩
  · split
    · exact ensures_pure ⟨_, rfl⟩
    · split
      · exact ensures_pure ⟨_, rfl⟩
      · exact ensures_modify (ensures_pure ⟨_, rfl⟩)

theorem ensures_integrity {Value : Type} (written : Option Value) :
    Ensures (integrity written) db (fun value after => written = some value ∧ after = db)
      fun raised _ => Discards raised := by
  cases written with
  | none => exact ensures_throw ⟨_, rfl⟩
  | some value => exact ensures_pure ⟨rfl, rfl⟩

theorem ensures_issueChallenge (user : User) (draws : Draws) :
    Ensures (issueChallenge runtime user draws) db
      (fun _ after => ∃ emailTokens, after = { db with emailTokens })
      fun raised _ => Discards raised := by
  apply ensures_get
  apply ensures_bind
  apply ensures_mono (ensures_integrity _) _ fun _ _ discards => discards
  rintro emailTokens after ⟨-, rfl⟩
  exact ensures_set (ensures_pure ⟨emailTokens, rfl⟩)

theorem ensures_openSession {now : Int} {start : Accounts} (prepared : Prepared start db)
    (user : User) (client : Client) (draws : Draws) :
    Ensures (openSession runtime user client draws) db
      (fun _ after => Opens now start user.id after) fun raised _ => Discards raised := by
  apply ensures_bind
  apply ensures_get
  apply ensures_bind
  apply ensures_mono (ensures_integrity _) _ fun _ _ discards => discards
  rintro sessions after ⟨inserted, rfl⟩
  exact opens_enter prepared inserted

/-- How a request may end: having made `Leaves` true, or discarded. -/
def Settles {Value : Type} (Leaves : Accounts → Prop) (work : Work Value) (before : Accounts) :
    Prop :=
  Ensures work before (fun _ after => Leaves after)
    fun raised after => Discards raised ∨ Leaves after

theorem settles_mono {Value : Type} {Leaves Weaker : Accounts → Prop} {work : Work Value}
    (settles : Settles Leaves work db) (implies : ∀ after, Leaves after → Weaker after) :
    Settles Weaker work db :=
  ensures_mono settles (fun _ => implies) fun _ after => Or.imp_right (implies after)

theorem settles_refuse {now : Int} {start : Accounts} (prepared : Prepared start db) (user : User)
    (draws : Draws) (detail : String) (reading : draws.now = now) :
    Settles (Quiet now start) (refuse user draws detail) db := by
  subst reading
  exact ensures_modify (ensures_throw (.inr (quiet_countFailure prepared user.id)))

theorem finish_settles {Value : Type} {Leaves : Accounts → Prop} {work : Work Value}
    (base : Leaves db) (settles : Settles Leaves work db) : Leaves (finish work db).2 := by
  unfold finish
  split
  · rename_i value after ran
    exact ensures_of_ok settles ran
  · exact base
  · rename_i failure after ran
    rcases ensures_of_error settles ran with ⟨other, discarded⟩ | leaves
    · cases discarded
    · exact leaves

variable {mid : Accounts} {client : Client} {draws : Draws} {user : User}

theorem settles_enter {Leaves : Accounts → Prop} (prepared : Prepared db mid)
    (entered : ∀ after, Opens draws.now db user.id after → Leaves after) :
    Settles Leaves (do openSession runtime user client draws; loginResponse user draws) mid := by
  apply ensures_bind
  apply ensures_mono (ensures_openSession prepared user client draws)
  · exact fun _ => entered
  · exact fun _ _ discards => .inl discards

theorem settles_enterWithCode {Leaves : Accounts → Prop} {code : String}
    (prepared : Prepared db mid) (refused : ∀ after, Quiet draws.now db after → Leaves after)
    (entered : acceptsCode runtime user.id code draws mid = true →
      ∀ after, Opens draws.now db user.id after → Leaves after) :
    Settles Leaves (enterWithCode runtime user code client draws) mid := by
  apply ensures_bind
  apply ensures_mono (ensures_verify2faCode user.id code draws) _ fun _ _ => False.elim
  rintro verified _ ⟨accepted, twoFactors, rfl⟩
  have ready := prepared.beside twoFactors mid.emailTokens mid.oauthIdentities
  cases verified with
  | false => exact settles_mono (settles_refuse ready user draws _ rfl) refused
  | true => exact settles_enter ready (entered accepted.symm)

/-- Tests that write nothing. -/
def Tests (work : Work Unit) (before : Accounts) : Prop :=
  Ensures work before (fun _ after => after = before) fun raised _ => Discards raised

theorem tests_enforceAuthRateLimit (decision : RateLimitDecision) :
    Tests (enforceAuthRateLimit decision) db := by
  unfold enforceAuthRateLimit
  split
  · exact ensures_pure rfl
  · exact ensures_throw ⟨_, rfl⟩

theorem tests_enforceIpRateLimit (host : Option String) (decision : RateLimitDecision) :
    Tests (enforceIpRateLimit host decision) db := by
  unfold enforceIpRateLimit
  split
  · exact ensures_pure rfl
  · exact ensures_throw ⟨_, rfl⟩

theorem tests_verifyCaptcha (token : Option String) (draws : Draws) :
    Tests (verifyCaptcha token draws) db := by
  unfold verifyCaptcha
  split
  · exact ensures_pure rfl
  · split
    · exact ensures_throw ⟨_, rfl⟩
    · split
      · exact ensures_throw ⟨_, rfl⟩
      · exact ensures_throw ⟨_, rfl⟩
      · exact ensures_pure rfl

theorem settles_after {Value : Type} {Leaves : Accounts → Prop} {test : Work Unit}
    {rest : Unit → Work Value} (tests : Tests test db) (settles : Settles Leaves (rest ()) db) :
    Settles Leaves (test >>= rest) db := by
  apply ensures_bind
  apply ensures_mono tests
  · rintro ⟨⟩ after rfl
    exact settles
  · exact fun _ _ discards => .inl discards

end Parts

/-! ## The challenge route -/

section Challenge

variable {db mid : Accounts} {client : Client} {draws : Draws} {user : User}

def freshSession (runtime : Runtime) (draws : Draws) (db : Accounts) : Bool :=
  (db.sessions.find? draws.sessionId).isNone &&
    db.sessions.rows.all fun row => row.tokenHash ≠ hashToken runtime draws.rawToken

theorem insertUnique_isSome_iff (user : User) (client : Client) (draws : Draws) :
    (db.sessions.insertUnique? (fun row other => row.tokenHash = other.tokenHash)
      (newSession runtime user client draws)).isSome ↔ freshSession runtime draws db = true := by
  rw [Option.isSome_iff_exists]
  simp only [Table.insertUnique?_eq_some_iff, freshSession, Bool.and_eq_true,
    Option.isNone_iff_eq_none, List.all_eq_true, decide_eq_true_eq, decide_eq_false_iff_not]
  constructor
  · rintro ⟨sessions, apart, inserted⟩
    exact ⟨Table.fresh_of_insert? inserted, fun row member same => apart row member same.symm⟩
  · rintro ⟨unused, apart⟩
    obtain ⟨sessions, inserted⟩ := Table.insert?_of_fresh
      (show db.sessions.find? (newSession runtime user client draws).id = none from unused)
    exact ⟨sessions, fun row member same => apart row member same.symm, inserted⟩

theorem openSession_returns {now : Int} (prepared : Prepared db mid)
    (fresh : freshSession runtime draws db = true) (user : User) (client : Client) :
    Ensures (openSession runtime user client draws) mid
      (fun _ after => Opens now db user.id after) fun _ _ => False := by
  have inserts := (insertUnique_isSome_iff user client draws).mpr fresh
  rw [← prepared.sessions] at inserts
  obtain ⟨sessions, inserted⟩ := Option.isSome_iff_exists.mp inserts
  apply ensures_bind
  apply ensures_get
  apply ensures_bind
  rw [inserted]
  exact opens_enter prepared inserted

theorem openSession_refused (prepared : Prepared db mid)
    (used : freshSession runtime draws db = false) (user : User) (client : Client) :
    Ensures (openSession runtime user client draws) mid (fun _ _ => False)
      fun raised _ => Discards raised := by
  have refuses : mid.sessions.insertUnique? (fun row other => row.tokenHash = other.tokenHash)
      (newSession runtime user client draws) = none := by
    rw [prepared.sessions, ← Option.not_isSome_iff_eq_none, insertUnique_isSome_iff, used]
    exact Bool.false_ne_true
  apply ensures_bind
  apply ensures_get
  apply ensures_bind
  rw [refuses]
  exact ensures_throw ⟨_, rfl⟩

theorem finish_returns {Value : Type} {Leaves : Accounts → Prop} {work : Work Value}
    (returns : Ensures work db (fun _ after => Leaves after) fun _ _ => False) :
    Leaves (finish work db).2 := by
  unfold finish
  split
  · rename_i value after ran
    exact ensures_of_ok returns ran
  · rename_i ran
    exact (ensures_of_error returns ran).elim
  · rename_i ran
    exact (ensures_of_error returns ran).elim

def challenged (runtime : Runtime) (challengeToken : String) (draws : Draws) (db : Accounts) :
    Option User :=
  match findChallenge runtime challengeToken db with
  | none => none
  | some record =>
      if record.usedAt.isSome || record.expiresAt.aware.instant < draws.now then none
      else (db.users.find? record.userId).filter fun user => user.status = .active

def challengedUser (runtime : Runtime) (request : TwoFactorChallengeRequest) (draws : Draws)
    (db : Accounts) : Option User :=
  (challenged runtime request.challengeToken draws db).filter fun user =>
    acceptsCode runtime user.id request.code draws db && freshSession runtime draws db

theorem challengedUser_eq_some_iff (runtime : Runtime) (request : TwoFactorChallengeRequest)
    (draws : Draws) (db : Accounts) (user : User) :
    challengedUser runtime request draws db = some user ↔
      challenged runtime request.challengeToken draws db = some user ∧
        acceptsCode runtime user.id request.code draws db = true ∧
        freshSession runtime draws db = true := by
  simp [challengedUser, Option.filter_eq_some_iff]

theorem challenge_cases (request : TwoFactorChallengeRequest) (client : Client) (draws : Draws)
    (db : Accounts) :
    (challenged runtime request.challengeToken draws db = none ∧
      Ensures (twoFactorChallenge runtime request client draws) db (fun _ _ => False)
        fun raised _ => Discards raised) ∨
    ∃ user emailTokens, challenged runtime request.challengeToken draws db = some user ∧
      twoFactorChallenge runtime request client draws db =
        enterWithCode runtime user request.code client draws { db with emailTokens } := by
  unfold challenged twoFactorChallenge
  cases found : findChallenge runtime request.challengeToken db with
  | none =>
      refine .inl ⟨rfl, ensures_get ?_⟩
      rw [found]
      exact ensures_throw ⟨_, rfl⟩
  | some record =>
      cases used : record.usedAt.isSome with
      | true =>
          refine .inl ⟨by simp [used], ensures_get ?_⟩
          simp only [found, used, if_true]
          exact ensures_throw ⟨_, rfl⟩
      | false =>
          by_cases ended : record.expiresAt.aware.instant < draws.now
          · refine .inl ⟨if_pos ?_, ensures_get ?_⟩
            · rw [used, Bool.false_or, decide_eq_true_eq]
              exact ended
            · simp only [found, used, Bool.false_eq_true, if_false, if_pos ended]
              exact ensures_throw ⟨_, rfl⟩
          · have usable : ¬(record.usedAt.isSome ||
                decide (record.expiresAt.aware.instant < draws.now)) = true := by
              rw [used, Bool.false_or, decide_eq_true_eq]
              exact ended
            dsimp only
            rw [if_neg usable]
            cases stored : db.users.find? record.userId with
            | none =>
                refine .inl ⟨rfl, ensures_get ?_⟩
                simp only [found, used, Bool.false_eq_true, if_false, if_neg ended, stored]
                exact ensures_throw ⟨_, rfl⟩
            | some user =>
                by_cases active : user.status = .active
                · refine .inr ⟨user, db.emailTokens.modify record.id (EmailToken.use draws.now)
                    (EmailToken.id_use draws.now), by simp [active], ?_⟩
                  simp only [bind, EStateM.bind, get_apply, found, used, Bool.false_eq_true,
                    if_false, if_neg ended, stored, active, ne_eq, not_true]
                  rfl
                · refine .inl ⟨by simp [active], ensures_get ?_⟩
                  simp only [found, used, Bool.false_eq_true, if_false, if_neg ended, stored,
                    ne_eq, active, not_false_eq_true, if_true]
                  exact ensures_throw ⟨_, rfl⟩

theorem enterWithCode_returns {code : String} (prepared : Prepared db mid)
    (accepted : acceptsCode runtime user.id code draws mid = true)
    (fresh : freshSession runtime draws db = true) :
    Ensures (enterWithCode runtime user code client draws) mid
      (fun _ after => Opens draws.now db user.id after) fun _ _ => False := by
  apply ensures_bind
  apply ensures_mono (ensures_verify2faCode user.id code draws) _ fun _ _ => False.elim
  rintro verified _ ⟨same, twoFactors, rfl⟩
  obtain rfl : verified = true := same.trans accepted
  have ready := prepared.beside twoFactors mid.emailTokens mid.oauthIdentities
  apply ensures_bind
  exact ensures_mono (openSession_returns ready fresh user client) (fun _ _ opens => opens)
    fun _ _ => False.elim

theorem enterWithCode_stops {code : String} (prepared : Prepared db mid)
    (stops : ¬(acceptsCode runtime user.id code draws mid = true ∧
      freshSession runtime draws db = true)) :
    Settles (Quiet draws.now db) (enterWithCode runtime user code client draws) mid := by
  apply ensures_bind
  apply ensures_mono (ensures_verify2faCode user.id code draws) _ fun _ _ => False.elim
  rintro verified _ ⟨same, twoFactors, rfl⟩
  have ready := prepared.beside twoFactors mid.emailTokens mid.oauthIdentities
  cases verified with
  | false => exact settles_refuse ready user draws _ rfl
  | true =>
      have used : freshSession runtime draws db = false := by
        by_contra fresh
        exact stops ⟨same.symm, by simpa using fresh⟩
      apply ensures_bind
      exact ensures_mono (openSession_refused ready used user client) (fun _ _ => False.elim)
        fun _ _ => .inl

theorem challenge_opens {request : TwoFactorChallengeRequest}
    (completes : challengedUser runtime request draws db = some user) :
    Opens draws.now db user.id (serve runtime db (.challenge request client draws)) := by
  obtain ⟨found, accepted, fresh⟩ := (challengedUser_eq_some_iff ..).mp completes
  rcases challenge_cases request client draws db with
    ⟨missing, -⟩ | ⟨other, emailTokens, stored, entering⟩
  · rw [found] at missing
    contradiction
  · obtain rfl : user = other := Option.some.inj (found.symm.trans stored)
    have ready := (prepared_refl db).beside db.twoFactors emailTokens db.oauthIdentities
    apply finish_returns
    have returns : Ensures (enterWithCode runtime user request.code client draws)
        { db with emailTokens } (fun _ after => Opens draws.now db user.id after)
        fun _ _ => False := enterWithCode_returns ready accepted fresh
    unfold Ensures at returns ⊢
    rwa [← entering] at returns

theorem challenge_quiet {request : TwoFactorChallengeRequest}
    (stops : challengedUser runtime request draws db = none) :
    Quiet draws.now db (serve runtime db (.challenge request client draws)) := by
  have still : Quiet draws.now db db := quiet_of_prepared (prepared_refl db)
  rcases challenge_cases request client draws db with
    ⟨-, refused⟩ | ⟨user, emailTokens, stored, entering⟩
  · exact finish_settles still (ensures_mono refused (fun _ _ => False.elim) fun _ _ => .inl)
  · have ready := (prepared_refl db).beside db.twoFactors emailTokens db.oauthIdentities
    apply finish_settles still
    have settles : Settles (Quiet draws.now db)
        (enterWithCode runtime user request.code client draws) { db with emailTokens } := by
      apply enterWithCode_stops ready
      simpa [challengedUser, stored, acceptsCode] using stops
    unfold Settles Ensures at settles ⊢
    rwa [← entering] at settles

end Challenge

/-! ## The Google callback -/

section Google

variable {db mid : Accounts} {client : Client} {draws : Draws} {sub email : String}
variable {info : UserInfo}

/-- The profile of a callback that gets past its tests. -/
def googleAnswered (runtime : Runtime) (query : GoogleQuery) (draws : Draws) :
    Option (UserInfo × String × String) :=
  if given query.error then none
  else if !given query.code || !given query.state then none
  else if !given query.stateCookie || query.stateCookie ≠ query.state then none
  else if !draws.googleEnabled then none
  else draws.googleAnswer.bind fun info => (googleProfile runtime info).map (Prod.mk info)

def googleUserId (sub email : String) (draws : Draws) (db : Accounts) : Option String :=
  match googleUser sub email db with
  | some user => some user.id
  | none => if (db.users.find? draws.userId).isNone then some draws.userId else none

def identityLinks (sub : String) (draws : Draws) (db : Accounts) : Bool :=
  (findIdentity sub db).isSome || (db.oauthIdentities.find? draws.identityId).isNone

/-- The user for whom a callback completes. -/
def googleEntrant (runtime : Runtime) (query : GoogleQuery) (draws : Draws) (db : Accounts) :
    Option String :=
  (googleAnswered runtime query draws).bind fun (_, sub, email) =>
    (googleUserId sub email draws db).filter fun _ =>
      identityLinks sub draws db && freshSession runtime draws db

theorem googleCallback_cases (runtime : Runtime) (query : GoogleQuery) (client : Client)
    (draws : Draws) (db : Accounts) :
    (googleAnswered runtime query draws = none ∧
      Ensures (googleCallback runtime query client draws) db (fun _ after => after = db)
        fun raised _ => Discards raised) ∨
    ∃ info sub email, googleAnswered runtime query draws = some (info, sub, email) ∧
      googleCallback runtime query client draws =
        enterWithGoogle runtime sub email info client draws := by
  unfold googleAnswered googleCallback
  split
  · exact .inl ⟨rfl, rfl⟩
  · split
    · exact .inl ⟨rfl, ensures_throw ⟨_, rfl⟩⟩
    · split
      · exact .inl ⟨rfl, ensures_throw ⟨_, rfl⟩⟩
      · split
        · exact .inl ⟨rfl, ensures_throw ⟨_, rfl⟩⟩
        · cases draws.googleAnswer with
          | none => exact .inl ⟨rfl, rfl⟩
          | some info =>
              cases profile : googleProfile runtime info with
              | none =>
                  refine .inl ⟨by simp [profile], ?_⟩
                  simp only [profile]
                  exact ensures_throw ⟨_, rfl⟩
              | some named =>
                  obtain ⟨sub, email⟩ := named
                  refine .inr ⟨info, sub, email, by simp [profile], ?_⟩
                  simp only [profile]

theorem Prepared.insertUser {users : Table User.id} {user : User}
    {clash : User → User → Bool} (inserted : db.users.insertUnique? clash user = some users) :
    Prepared db { db with users } where
  sessions := rfl
  failures := by
    intro userId other stored
    have insertion := ((Table.insertUnique?_eq_some_iff ..).mp inserted).2
    have fresh := Table.fresh_of_insert? insertion
    refine ⟨other, ?_, rfl, rfl⟩
    rw [Table.find?_insert? insertion, if_neg]
    · exact stored
    · rintro rfl
      rw [fresh] at stored
      cases stored

theorem created (unknown : googleUser sub email db = none)
    (unused : db.users.find? draws.userId = none) (info : UserInfo) :
    ∃ users, db.users.insertUnique? (fun row other => row.email = other.email)
      (newGoogleUser email info draws) = some users := by
  obtain ⟨users, inserted⟩ := Table.insert?_of_fresh
    (show db.users.find? (newGoogleUser email info draws).id = none from unused)
  refine ⟨users, (Table.insertUnique?_eq_some_iff ..).mpr ⟨?_, inserted⟩⟩
  intro other member
  have named := (Option.or_eq_none_iff.mp unknown).2
  have apart := List.find?_eq_none.mp named other member
  rw [decide_eq_true_eq] at apart
  exact decide_eq_false fun same => apart same.symm

theorem findOrCreate_returns {userId : String}
    (found : googleUserId sub email draws db = some userId) :
    Ensures (findOrCreateGoogleUser sub email info draws) db
      (fun user after => user.id = userId ∧ Prepared db after ∧
        after.oauthIdentities = db.oauthIdentities) fun _ _ => False := by
  unfold googleUserId at found
  unfold findOrCreateGoogleUser
  apply ensures_get
  cases stored : googleUser sub email db with
  | some user =>
      simp only [stored, Option.some.injEq] at found
      exact ensures_pure ⟨found, prepared_refl db, rfl⟩
  | none =>
      simp only [stored] at found
      split at found
      · rename_i unused
        obtain rfl := Option.some.inj found
        obtain ⟨users, inserted⟩ := created stored (Option.isNone_iff_eq_none.mp unused) info
        apply ensures_get
        apply ensures_bind
        rw [inserted]
        have prepared : Prepared db { db with users } := .insertUser inserted
        exact ⟨rfl, prepared, rfl⟩
      · contradiction

theorem findOrCreate_refused (unfound : googleUserId sub email draws db = none) :
    Ensures (findOrCreateGoogleUser sub email info draws) db (fun _ _ => False)
      fun raised _ => Discards raised := by
  unfold googleUserId at unfound
  unfold findOrCreateGoogleUser
  apply ensures_get
  cases stored : googleUser sub email db with
  | some user => simp [stored] at unfound
  | none =>
      have used : db.users.find? draws.userId ≠ none := by simpa [stored] using unfound
      have refuses : db.users.insertUnique? (fun row other => row.email = other.email)
          (newGoogleUser email info draws) = none := by
        by_contra accepted
        obtain ⟨users, inserted⟩ := Option.ne_none_iff_exists'.mp accepted
        exact used (Table.fresh_of_insert? ((Table.insertUnique?_eq_some_iff ..).mp inserted).2)
      apply ensures_get
      apply ensures_bind
      rw [refuses]
      exact ensures_throw ⟨_, rfl⟩

theorem linkIdentity_returns (user : User) (email : String)
    (links : identityLinks sub draws mid = true) :
    Ensures (linkIdentity user sub email draws) mid
      (fun _ after => ∃ oauthIdentities, after = { mid with oauthIdentities })
      fun _ _ => False := by
  apply ensures_get
  cases known : findIdentity sub mid with
  | some identity => exact ensures_pure ⟨_, rfl⟩
  | none =>
      have unused : mid.oauthIdentities.find? draws.identityId = none := by
        simpa [identityLinks, known] using links
      let row : OAuthIdentity := ⟨draws.identityId, user.id, "google", sub, some email⟩
      obtain ⟨oauthIdentities, inserted⟩ := Table.insert?_of_fresh
        (show mid.oauthIdentities.find? row.id = none from unused)
      have accepted : mid.oauthIdentities.insertUnique? (fun row other =>
          row.provider = other.provider && row.subject = other.subject) row =
          some oauthIdentities := by
        refine (Table.insertUnique?_eq_some_iff ..).mpr ⟨?_, inserted⟩
        intro other member
        have apart := List.find?_eq_none.mp known other member
        rw [Bool.not_eq_true] at apart
        rw [← apart]
        exact congrArg₂ and (decide_eq_decide.mpr eq_comm) (decide_eq_decide.mpr eq_comm)
      apply ensures_bind
      rw [accepted]
      exact ⟨oauthIdentities, rfl⟩

theorem linkIdentity_refused (user : User) (email : String)
    (clashes : identityLinks sub draws mid = false) :
    Ensures (linkIdentity user sub email draws) mid (fun _ _ => False)
      fun raised _ => Discards raised := by
  obtain ⟨unknown, used⟩ := Bool.or_eq_false_iff.mp clashes
  have known : findIdentity sub mid = none := by simpa using unknown
  apply ensures_get
  rw [known]
  apply ensures_bind
  apply ensures_mono (ensures_integrity _) _ fun _ _ discards => discards
  rintro oauthIdentities after ⟨inserted, rfl⟩
  have free := Table.fresh_of_insert? ((Table.insertUnique?_eq_some_iff ..).mp inserted).2
  simp [free] at used

theorem ensures_confirmVerified (prepared : Prepared db mid) (user : User) :
    Ensures (confirmVerified user info draws) mid (fun _ after => Prepared db after)
      fun _ _ => False := by
  unfold confirmVerified
  split
  · exact prepared.write (fun _ => rfl) fun _ => rfl
  · exact prepared

theorem identityLinks_same (same : mid.oauthIdentities = db.oauthIdentities) :
    identityLinks sub draws mid = identityLinks sub draws db := by
  unfold identityLinks findIdentity
  rw [same]

theorem enterWithGoogle_returns {userId : String}
    (found : googleUserId sub email draws db = some userId)
    (links : identityLinks sub draws db = true) (fresh : freshSession runtime draws db = true) :
    Ensures (enterWithGoogle runtime sub email info client draws) db
      (fun _ after => Opens draws.now db userId after) fun _ _ => False := by
  apply ensures_bind
  apply ensures_mono (findOrCreate_returns found) _ fun _ _ => False.elim
  rintro user mid ⟨rfl, prepared, identities⟩
  apply ensures_bind
  apply ensures_mono (linkIdentity_returns user email ((identityLinks_same identities).trans links))
    _ fun _ _ => False.elim
  rintro ⟨⟩ _ ⟨oauthIdentities, rfl⟩
  apply ensures_bind
  apply ensures_mono (ensures_confirmVerified (prepared.beside _ _ oauthIdentities) user) _
    fun _ _ => False.elim
  intro _ after ready
  apply ensures_bind
  exact openSession_returns ready fresh user client

theorem enterWithGoogle_stops
    (stops : ¬((googleUserId sub email draws db).isSome = true ∧
      identityLinks sub draws db = true ∧ freshSession runtime draws db = true)) :
    Ensures (enterWithGoogle runtime sub email info client draws) db (fun _ _ => False)
      fun raised _ => Discards raised := by
  apply ensures_bind
  cases found : googleUserId sub email draws db with
  | none =>
      exact ensures_mono (findOrCreate_refused found) (fun _ _ => False.elim)
        fun _ _ discards => discards
  | some userId =>
      apply ensures_mono (findOrCreate_returns found) _ fun _ _ => False.elim
      rintro user mid ⟨rfl, prepared, identities⟩
      apply ensures_bind
      cases links : identityLinks sub draws mid with
      | false =>
          exact ensures_mono (linkIdentity_refused user email links) (fun _ _ => False.elim)
            fun _ _ discards => discards
      | true =>
          apply ensures_mono (linkIdentity_returns user email links) _ fun _ _ => False.elim
          rintro ⟨⟩ _ ⟨oauthIdentities, rfl⟩
          have used : freshSession runtime draws db = false := by
            rw [identityLinks_same identities] at links
            simpa [found, links] using stops
          apply ensures_bind
          apply ensures_mono (ensures_confirmVerified (prepared.beside _ _ oauthIdentities) user) _
            fun _ _ => False.elim
          intro _ after ready
          apply ensures_bind
          exact ensures_mono (openSession_refused ready used user client) (fun _ _ => False.elim)
            fun _ _ discards => discards

theorem google_opens {query : GoogleQuery} {userId : String}
    (completes : googleEntrant runtime query draws db = some userId) :
    Opens draws.now db userId (serve runtime db (.google query client draws)) := by
  apply finish_returns
  rcases googleCallback_cases runtime query client draws db with
    ⟨missing, -⟩ | ⟨info, sub, email, answered, entering⟩
  · simp [googleEntrant, missing] at completes
  · obtain ⟨found, links, fresh⟩ : googleUserId sub email draws db = some userId ∧
        identityLinks sub draws db = true ∧ freshSession runtime draws db = true := by
      simpa [googleEntrant, answered, Option.filter_eq_some_iff] using completes
    change Ensures (googleCallback runtime query client draws) _ _ _
    rw [entering]
    exact enterWithGoogle_returns found links fresh

theorem google_quiet {query : GoogleQuery}
    (stops : googleEntrant runtime query draws db = none) :
    Quiet draws.now db (serve runtime db (.google query client draws)) := by
  have still : Quiet draws.now db db := quiet_of_prepared (prepared_refl db)
  apply finish_settles still
  change Settles (Quiet draws.now db) (googleCallback runtime query client draws) db
  rcases googleCallback_cases runtime query client draws db with
    ⟨-, unchanged⟩ | ⟨info, sub, email, answered, entering⟩
  · apply ensures_mono unchanged
    · rintro _ _ rfl
      exact still
    · exact fun _ _ => .inl
  · rw [entering]
    apply ensures_mono (enterWithGoogle_stops _) (fun _ _ => False.elim) fun _ _ => .inl
    rintro ⟨found, links, fresh⟩
    obtain ⟨userId, found⟩ := Option.isSome_iff_exists.mp found
    simp [googleEntrant, answered, found, links, fresh] at stops

end Google

end ApiBank.Auth.Outcomes
