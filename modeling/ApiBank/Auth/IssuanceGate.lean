import ApiBank.Auth.Outcomes
import ApiBank.Transition.Run

/-!
# What a login session is issued for

A session should only be opened for a user that is active, not locked, and has
shown a second factor if one is enabled; any other request should leave the
user's failure count and lock in force. `login` tests all three, the challenge
route does not test the lock, and the Google callback tests none. So the gate
holds in exactly the runs in which these two routes happen to complete only for
users that pass what they do not test.
-/

namespace ApiBank.Auth.IssuanceGate

open ApiBank.Db ApiBank.Relational ApiBank.Transition ApiBank.Transition.Effect Outcomes

set_option autoImplicit false

variable {runtime : Runtime}

/-! ## The gate -/

def codeOf : Request → Option String
  | .login request _ _ => request.code
  | .challenge request _ _ => some request.code
  | .google _ _ _ => none

def SecondFactor (runtime : Runtime) (twofa : TwoFactor) (code : String) (draws : Draws) : Prop :=
  verifyTotp runtime twofa.secretEnc (strip runtime code) draws.totpAt = true ∨
    ∃ key hashed, (key, hashed) ∈ twofa.recoveryCodesEnc ∧ hashed ≠ "USED" ∧
      verifyRecoveryCode runtime (upper runtime (strip runtime code)) hashed = true

/-- The request may open a session for the user. -/
structure Admitted (runtime : Runtime) (db : Accounts) (request : Request) (user : User) :
    Prop where
  active : user.status = .active
  unlocked : ∀ lockedUntil, user.lockedUntil = some lockedUntil →
    lockedUntil.aware.instant ≤ request.draws.now
  verified : ∀ twofa, db.twoFactors.find? user.id = some twofa → twofa.enabledAt.isSome →
    ∃ code, codeOf request = some code ∧ SecondFactor runtime twofa code request.draws

/-- Sessions are opened for admitted users only, and a user who is not admitted
keeps failures and lock. -/
structure Gated (runtime : Runtime) (db : Accounts) (request : Request) : Prop where
  sessions : ∀ row ∈ (serve runtime db request).sessions.rows,
    db.sessions.find? row.id = none → ∀ user, db.users.find? row.userId = some user →
      Admitted runtime db request user
  failures : ∀ userId user, db.users.find? userId = some user →
    ¬Admitted runtime db request user →
      ∃ after, (serve runtime db request).users.find? userId = some after ∧
        KeepsFailures request.draws.now user after

theorem gated_of_quiet {db : Accounts} (request : Request)
    (quiet : Quiet request.draws.now db (serve runtime db request)) :
    Gated runtime db request where
  sessions := by
    intro row member new
    rw [quiet.sessions] at member
    rw [Table.find?_of_mem member] at new
    cases new
  failures := fun userId user stored _ => quiet.failures userId user stored

theorem gated_iff_of_opens {db : Accounts} (request : Request) {userId : String}
    (opens : Opens request.draws.now db userId (serve runtime db request)) :
    Gated runtime db request ↔
      ∀ user, db.users.find? userId = some user → Admitted runtime db request user := by
  obtain ⟨⟨row, owner, rows, new⟩, others⟩ := opens
  constructor
  · intro gated user stored
    apply gated.sessions row _ new user (owner ▸ stored)
    rw [rows]
    exact List.mem_append_right _ (List.mem_singleton_self row)
  · intro admitted
    constructor
    · intro other member absent user stored
      rw [rows] at member
      rcases List.mem_append.mp member with old | added
      · rw [Table.find?_of_mem old] at absent
        cases absent
      · obtain rfl := List.mem_singleton.mp added
        exact admitted user (owner ▸ stored)
    · intro otherId user stored refused
      apply others otherId user _ stored
      rintro rfl
      exact refused (admitted user stored)

theorem secondFactor_of_accepts {db : Accounts} {userId code : String} {draws : Draws}
    {twofa : TwoFactor}
    (accepted : acceptsCode runtime userId code draws db = true)
    (found : db.twoFactors.find? userId = some twofa) :
    SecondFactor runtime twofa code draws := by
  simp only [acceptsCode, found, Option.any_some, Bool.and_eq_true] at accepted
  obtain ⟨-, accepted⟩ := accepted
  split at accepted
  · rename_i totp
    exact .inl totp
  · exact .inr (unused_of_useRecoveryCode accepted)

/-! ## Login -/

section Login

variable {db mid : Accounts} {request : LoginRequest} {client : Client} {draws : Draws}
variable {user : User}

def Proper (runtime : Runtime) (db : Accounts) (request : Request) (after : Accounts) : Prop :=
  Quiet request.draws.now db after ∨
    ∃ user, db.users.find? user.id = some user ∧ Admitted runtime db request user ∧
      Opens request.draws.now db user.id after

theorem gated_of_proper {request : Request}
    (proper : Proper runtime db request (serve runtime db request)) :
    Gated runtime db request := by
  rcases proper with quiet | ⟨user, stored, admitted, opens⟩
  · exact gated_of_quiet request quiet
  · refine (gated_iff_of_opens request opens).mpr ?_
    intro other found
    obtain rfl : user = other := Option.some.inj (stored.symm.trans found)
    exact admitted

theorem locked_eq_false_iff (user : User) (now : Int) :
    locked user now = false ↔ ∀ lockedUntil, user.lockedUntil = some lockedUntil →
      lockedUntil.aware.instant ≤ now := by
  unfold locked
  cases user.lockedUntil with
  | none => simp
  | some lockedUntil => simp

theorem settles_secondStep (prepared : Prepared db mid) (factors : mid.twoFactors = db.twoFactors)
    (stored : db.users.find? user.id = some user) (active : user.status = .active)
    (free : locked user draws.now = false) :
    Settles (Proper runtime db (.login request client draws))
      (secondStep runtime user request client draws) mid := by
  apply ensures_get
  cases second : userHas2fa user.id mid with
  | false =>
      simp only [Bool.false_eq_true, if_false]
      apply settles_enter prepared
      intro after opens
      refine .inr ⟨user, stored, ⟨active, (locked_eq_false_iff ..).mp free, ?_⟩, opens⟩
      intro twofa found enabled
      simp [userHas2fa, factors, found, enabled] at second
  | true =>
      simp only [if_true]
      cases code : given request.code with
      | false =>
          simp only [Bool.not_false, if_true]
          apply ensures_mono (ensures_issueChallenge user draws)
          · rintro _ _ ⟨emailTokens, rfl⟩
            exact .inl (quiet_of_prepared (prepared.beside _ emailTokens _))
          · exact fun _ _ discards => .inl discards
      | true =>
          simp only [Bool.not_true, Bool.false_eq_true, if_false]
          cases given request.challengeToken with
          | false => exact ensures_throw (.inl ⟨_, rfl⟩)
          | true =>
              simp only [Bool.not_true, Bool.false_eq_true, if_false]
              apply ensures_bind
              apply ensures_mono (ensures_consume2faChallenge user _ draws) _ fun _ _ => False.elim
              rintro consumed _ ⟨emailTokens, rfl⟩
              cases consumed with
              | false => exact ensures_throw (.inl ⟨_, rfl⟩)
              | true =>
                  simp only [Bool.not_true, Bool.false_eq_true, if_false]
                  have ready := prepared.beside mid.twoFactors emailTokens mid.oauthIdentities
                  apply settles_enterWithCode ready (fun _ => .inl)
                  intro accepted after opens
                  have unlocked := (locked_eq_false_iff ..).mp free
                  refine .inr ⟨user, stored, ⟨active, unlocked, ?_⟩, opens⟩
                  intro twofa found _
                  obtain ⟨text, present⟩ : ∃ text, request.code = some text := by
                    unfold given at code
                    cases written : request.code with
                    | none => simp [written] at code
                    | some text => exact ⟨text, rfl⟩
                  rw [present] at accepted
                  exact ⟨text, present,
                    secondFactor_of_accepts accepted (factors.symm ▸ found)⟩

theorem settles_firstStep (stored : db.users.find? user.id = some user)
    (active : user.status = .active) :
    Settles (Proper runtime db (.login request client draws))
      (firstStep runtime user request client draws) db := by
  have captcha : Tests (captchaAfterFailures user request.captchaToken draws) db := by
    unfold captchaAfterFailures
    split
    · exact tests_verifyCaptcha _ _
    · exact ensures_pure rfl
  apply settles_after captcha
  cases free : locked user draws.now with
  | true => exact ensures_throw (.inl ⟨_, rfl⟩)
  | false =>
      simp only [Bool.false_eq_true, if_false]
      cases verifyPassword runtime request.password user.passwordHash with
      | false =>
          exact settles_mono (settles_refuse (prepared_refl db) user draws _ rfl) fun _ => .inl
      | true =>
          simp only [Bool.not_true, Bool.false_eq_true, if_false]
          apply ensures_bind
          unfold refreshHash
          split
          · split
            · exact ensures_throw (.inl ⟨_, rfl⟩)
            · exact settles_secondStep ((prepared_refl db).write (fun _ => rfl) fun _ => rfl) rfl
                stored active free
          · exact settles_secondStep (prepared_refl db) rfl stored active free

theorem login_gated (db : Accounts) (request : LoginRequest) (client : Client) (draws : Draws) :
    Gated runtime db (.login request client draws) := by
  apply gated_of_proper
  apply finish_settles (.inl (quiet_of_prepared (prepared_refl db)))
  apply settles_after (tests_enforceAuthRateLimit _)
  apply settles_after (tests_enforceIpRateLimit _ _)
  apply ensures_get
  split
  · exact ensures_throw (.inl ⟨_, rfl⟩)
  · rename_i user found
    have stored : db.users.find? user.id = some user :=
      Table.find?_of_mem (List.mem_of_find?_eq_some found)
    split
    · exact ensures_throw (.inl ⟨_, rfl⟩)
    · rename_i active
      exact settles_firstStep stored (not_not.mp active)

end Login

/-! ## Runs -/

/-- What the route does not test holds of the user it completes for. -/
def Covered (runtime : Runtime) (db : Accounts) : Request → Prop
  | .login _ _ _ => True
  | .challenge request _ draws => ∀ user,
      challengedUser runtime request draws db = some user → locked user draws.now = false
  | .google query _ draws => ∀ userId user,
      googleEntrant runtime query draws db = some userId →
        db.users.find? userId = some user →
          user.status = .active ∧ locked user draws.now = false ∧ userHas2fa user.id db = false

theorem challenged_user {db : Accounts} {challengeToken : String} {draws : Draws} {user : User}
    (found : challenged runtime challengeToken draws db = some user) :
    db.users.find? user.id = some user ∧ user.status = .active := by
  unfold challenged at found
  split at found
  · contradiction
  · split at found
    · contradiction
    · obtain ⟨stored, active⟩ := Option.filter_eq_some_iff.mp found
      rw [Table.key_of_find? stored]
      exact ⟨stored, by simpa using active⟩

theorem challenge_gated_iff (db : Accounts) (request : TwoFactorChallengeRequest)
    (client : Client) (draws : Draws) :
    Gated runtime db (.challenge request client draws) ↔
      Covered runtime db (.challenge request client draws) := by
  cases completes : challengedUser runtime request draws db with
  | none =>
      apply iff_of_true
        (gated_of_quiet (.challenge request client draws) (challenge_quiet completes))
      intro user found
      rw [completes] at found
      contradiction
  | some user =>
      obtain ⟨found, accepted, -⟩ := (challengedUser_eq_some_iff ..).mp completes
      obtain ⟨stored, active⟩ := challenged_user found
      rw [gated_iff_of_opens (.challenge request client draws) (challenge_opens completes)]
      constructor
      · intro admitted other same
        obtain rfl : user = other := Option.some.inj (completes.symm.trans same)
        exact (locked_eq_false_iff ..).mpr (admitted user stored).unlocked
      · intro covered other same
        obtain rfl : user = other := Option.some.inj (stored.symm.trans same)
        refine ⟨active, (locked_eq_false_iff ..).mp (covered user completes), ?_⟩
        intro twofa factor _
        exact ⟨request.code, rfl, secondFactor_of_accepts accepted factor⟩

theorem google_gated_iff (db : Accounts) (query : GoogleQuery) (client : Client) (draws : Draws) :
    Gated runtime db (.google query client draws) ↔
      Covered runtime db (.google query client draws) := by
  cases completes : googleEntrant runtime query draws db with
  | none =>
      apply iff_of_true (gated_of_quiet (.google query client draws) (google_quiet completes))
      intro userId user found
      rw [completes] at found
      contradiction
  | some userId =>
      rw [gated_iff_of_opens (.google query client draws) (google_opens completes)]
      constructor
      · intro admitted otherId user same stored
        obtain rfl : userId = otherId := Option.some.inj (completes.symm.trans same)
        obtain ⟨active, unlocked, verified⟩ := admitted user stored
        refine ⟨active, (locked_eq_false_iff ..).mpr unlocked, ?_⟩
        rw [Bool.eq_false_iff]
        intro second
        obtain ⟨twofa, factor, enabled⟩ := (Option.any_eq_true ..).mp second
        -- the callback carries no code
        obtain ⟨code, absent, -⟩ := verified twofa factor enabled
        cases absent
      · intro covered user stored
        obtain ⟨active, free, single⟩ := covered userId user completes stored
        refine ⟨active, (locked_eq_false_iff ..).mp free, ?_⟩
        intro twofa factor enabled
        simp [userHas2fa, factor, enabled] at single

theorem gated_iff_covered (db : Accounts) (request : Request) :
    Gated runtime db request ↔ Covered runtime db request := by
  cases request with
  | login request client draws => exact iff_of_true (login_gated db request client draws) trivial
  | challenge request client draws => exact challenge_gated_iff db request client draws
  | google query client draws => exact google_gated_iff db query client draws

/-- From every state and for every sequence of requests: the gate holds at each of
them if and only if each challenge and each callback completes only for users that
pass what the route leaves out. -/
theorem session_gate_iff (runtime : Runtime) (start : Accounts) (requests : List Request) :
    Run.Along (Gated runtime) (serve runtime) start requests ↔
      Run.Along (Covered runtime) (serve runtime) start requests :=
  ⟨Run.along_mono fun db request => (gated_iff_covered db request).mp,
    Run.along_mono fun db request => (gated_iff_covered db request).mpr⟩

/-- ASCII text, and the hashes and the one-time code of the texts used below. -/
def sampleRuntime : Runtime where
  isSpace := Char.isWhitespace
  isDigit := Char.isDigit
  lower := List.map Char.toLower
  upper := List.map Char.toUpper
  int := String.toInt?
  prehash := fun _ => []
  sha256Hex := fun token =>
    if token = "challenge-1" then
      "023212d1fd4f0a3ad03c45c52a40871f468abc416ec181f6eebfc3226cc4753c"
    else if token = "session-1" then
      "84097828fc31a8c8d29210df48901a85de7fd013f686b17be77d1be29cb7a98b"
    else ""
  checkpw := fun _ _ => none
  hashpw := fun _ _ => ""
  totpVerify := fun secret code at' =>
    secret = "JBSWY3DPEHPK3PXP" && code = "949556" && at' / seconds 30 = 33333333

def lockedUser : User :=
  ⟨"u1", "a@example.com", none, "!oauth", none, "user", .active, none, 5,
    some (.utc (seconds 1000000060))⟩

/-- One user with a second factor, who passed the password step a minute ago and
has been locked since. -/
def lockedAccount : Accounts := { Accounts.empty with
  users := ⟨[lockedUser], List.nodup_singleton _⟩
  twoFactors := ⟨[⟨"u1", "JBSWY3DPEHPK3PXP", [], some (.utc 0), none, none⟩],
    List.nodup_singleton _⟩
  emailTokens := ⟨[⟨"e1", "u1", .twoFactor,
      "023212d1fd4f0a3ad03c45c52a40871f468abc416ec181f6eebfc3226cc4753c",
      .utc (seconds 1000000240), none, .utc (seconds 999999940)⟩], List.nodup_singleton _⟩ }

def sampleDraws : Draws where
  now := seconds 1000000000
  challengeReadAt := seconds 1000000000
  usedAt := seconds 1000000000
  totpAt := seconds 1000000000
  verifiedAt := seconds 1000000000
  issuedAt := seconds 1000000000
  emailDecision := ⟨true, 0⟩
  ipDecision := ⟨true, 0⟩
  captchaSecret := ""
  captchaAnswer := none
  googleEnabled := true
  googleAnswer := some ⟨some "g1", some "a@example.com", none, none, true⟩
  salt := ""
  userId := "u2"
  identityId := "i1"
  challengeId := "e2"
  rawChallenge := "challenge-2"
  sessionId := "s1"
  rawToken := "session-1"

def browser : Client := ⟨some "203.0.113.7", none⟩

/-- The pending challenge and the Google callback both open a session for the
locked user, the callback without the second factor. -/
theorem locked_user_enters :
    (¬Run.Along (Gated sampleRuntime) (serve sampleRuntime) lockedAccount
      [.challenge ⟨"challenge-1", "949556"⟩ browser sampleDraws]) ∧
    ¬Run.Along (Gated sampleRuntime) (serve sampleRuntime) lockedAccount
      [.google ⟨some "code-1", some "state-1", none, some "state-1"⟩ browser sampleDraws] := by
  constructor
  · rintro ⟨gated, -⟩
    have covered := (gated_iff_covered ..).mp gated
    have free := covered lockedUser (by decide +kernel)
    revert free
    decide
  · rintro ⟨gated, -⟩
    have covered := (gated_iff_covered ..).mp gated
    obtain ⟨-, free, -⟩ := covered "u1" lockedUser (by decide +kernel) (by decide +kernel)
    revert free
    decide

end ApiBank.Auth.IssuanceGate
