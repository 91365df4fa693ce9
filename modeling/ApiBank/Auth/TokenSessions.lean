import ApiBank.Auth.Login
import ApiBank.Transition.Interleaving

/-!
# One-time tokens in concurrent sessions

Six functions use up a row of `email_tokens`: each selects the row by its hash, tests `used_at`
and `expires_at` on what it has read, sets `used_at` on the object and commits later, with an
`UPDATE` that has no condition. Requests with one token that overlap between the `SELECT` and
the commit all read it as unused. So a token is used once if and only if no request succeeds
after another one has succeeded since its own `SELECT`.

What else decides over a request (the user's status, the code, the address, the settings) is
left to the environment.
-/

namespace ApiBank.Auth.TokenSessions

open ApiBank.Db ApiBank.Relational ApiBank.Transition

set_option autoImplicit false

/-- What a function does between its `SELECT` and its commit, up to the await that follows:
`used_at` is set to the reading of the clock at the check or to a second one, a further test
refuses the request without a commit, and a wrong code refuses it with one. -/
inductive Stage where
  | check
  | mark
  | markAgain
  | test
  | code
deriving DecidableEq

/-- One of the functions: the kind and, where it is compared, the user of the row, and its stages
in order. -/
structure Consumption where
  kind : TokenKind
  userId : Option String
  stages : List Stage
  checks : .check ∈ stages
  marks : .mark ∈ stages ∨ .markAgain ∈ stages

def consumeEmailToken (kind : TokenKind) : Consumption where
  kind := kind
  userId := none
  stages := [.check, .mark, .test]
  checks := by decide
  marks := by decide

def changeEmailConfirm (userId : String) : Consumption where
  kind := .changeEmail
  userId := some userId
  stages := [.check, .test, .mark]
  checks := by decide
  marks := by decide

def twoFactorChallenge : Consumption where
  kind := .twoFactor
  userId := none
  stages := [.check, .test, .mark, .code]
  checks := by decide
  marks := by decide

/-- `_consume_2fa_challenge` in `login`. -/
def consume2faChallenge (userId : String) : Consumption where
  kind := .twoFactor
  userId := some userId
  stages := [.check, .markAgain, .code]
  checks := by decide
  marks := by decide

def consumeLinkToken : Consumption where
  kind := .tgLink
  userId := none
  stages := [.check, .mark, .test]
  checks := by decide
  marks := by decide

def consumeUserLinkToken : Consumption where
  kind := .userTgLink
  userId := none
  stages := [.check, .test, .mark]
  checks := by decide
  marks := by decide

theorem tokenHash_use (usedAt : Int) (token : EmailToken) :
    (token.use usedAt).tokenHash = token.tokenHash := rfl

/-- A request that was committed as a success. -/
structure Success where
  tokenHash : String
  expiresAt : DateTime
  checkedAt : Int
  committedAt : Int

/-- The clock, the committed rows (`token_hash` is unique), and the successes, latest first. -/
structure Shared where
  now : Int
  tokens : Table EmailToken.tokenHash
  successes : List Success

/-- A request that has found its row: the row as it was read, the successes up to then, the
stages ahead, the reading of the clock at the check, the value set for `used_at`, and whether
nothing has refused the request. -/
structure Request where
  row : EmailToken
  before : List Success
  stages : List Stage
  checkedAt : Int
  usedAt : Option Int
  accepted : Bool

inductive Local where
  | idle
  | running (request : Request)

/-- The steps of a request; `wait` is time that passes. The flag of `advance` is the verdict of a
test or a code. -/
inductive Action where
  | wait (elapsed : Nat)
  | select (consumption : Consumption) (tokenHash : String)
  | advance (passes : Bool)
  | commit
  | abort

/-- One stage; without a request left the session has been rolled back. -/
def Request.stage (now : Int) (passes : Bool) (request : Request) (rest : List Stage) :
    Stage → Local
  | .check =>
      if request.row.usedAt.isSome || request.row.expiresAt.aware.instant < now then .idle
      else .running { request with stages := rest, checkedAt := now }
  | .mark => .running { request with stages := rest, usedAt := some request.checkedAt }
  | .markAgain => .running { request with stages := rest, usedAt := some now }
  | .test => if passes then .running { request with stages := rest } else .idle
  | .code =>
      if passes then .running { request with stages := rest }
      else .running { request with stages := [], accepted := false }

def Request.success (now : Int) (request : Request) : Success where
  tokenHash := request.row.tokenHash
  expiresAt := request.row.expiresAt
  checkedAt := request.checkedAt
  committedAt := now

/-- The `UPDATE` of the commit, and the answer. -/
def Request.commit (shared : Shared) (request : Request) : Shared := { shared with
  tokens :=
    match request.usedAt with
    | none => shared.tokens
    | some usedAt => shared.tokens.modify request.row.tokenHash (EmailToken.use usedAt)
        (tokenHash_use usedAt)
  successes :=
    if request.accepted then request.success shared.now :: shared.successes
    else shared.successes }

def Consumption.selects (consumption : Consumption) (token : EmailToken) : Bool :=
  token.kind = consumption.kind && consumption.userId.all fun userId => token.userId = userId

def advance (_ : SessionId) (shared : Shared) :
    Local → Action → Option (Unit × Shared × Local)
  | own, .wait elapsed => some ((), { shared with now := shared.now + elapsed }, own)
  | .idle, .select consumption tokenHash =>
      match (shared.tokens.find? tokenHash).filter consumption.selects with
      | none => some ((), shared, .idle)
      | some row => some ((), shared,
          .running ⟨row, shared.successes, consumption.stages, shared.now, none, true⟩)
  | .running request, .advance passes =>
      match request.stages with
      | [] => none
      | stage :: rest => some ((), shared, request.stage shared.now passes rest stage)
  | .running request, .commit =>
      if request.stages.isEmpty then some ((), request.commit shared, .idle) else none
  | .running _, .abort => some ((), shared, .idle)
  | _, _ => none

def opening (now : Int) (tokens : Table EmailToken.tokenHash) : Interleaved Shared Local where
  shared := ⟨now, tokens, []⟩
  sessions := fun _ => .idle

/-- No token has two successes, and none came after its end: neither was the token checked, nor
the request committed. -/
structure SingleUse (successes : List Success) : Prop where
  once : (successes.map Success.tokenHash).Nodup
  checked : ∀ success ∈ successes, success.checkedAt ≤ success.expiresAt.instant
  committed : ∀ success ∈ successes, success.committedAt ≤ success.expiresAt.instant

/-- A request that succeeds has not been overtaken: no other one has succeeded with its token
since its `SELECT`, and the token has not run out since its check. -/
def NotOvertaken (_ : SessionId) (shared : Shared) : Local → Action → Prop
  | .running request, .commit => request.accepted = true →
      (∀ success ∈ shared.successes, success.tokenHash = request.row.tokenHash →
        success ∈ request.before) ∧ shared.now ≤ request.row.expiresAt.instant
  | _, _ => True

/-- What is known of a request that nothing has refused. -/
structure Vetted (request : Request) : Prop where
  before : ∀ success ∈ request.before, success.tokenHash = request.row.tokenHash →
    request.row.usedAt ≠ none
  checked : .check ∈ request.stages ∨
    request.row.usedAt = none ∧ request.checkedAt ≤ request.row.expiresAt.instant
  marked : .mark ∈ request.stages ∨ .markAgain ∈ request.stages ∨ request.usedAt ≠ none

def Used (shared : Shared) : Prop :=
  ∀ success ∈ shared.successes, ∃ row,
    shared.tokens.find? success.tokenHash = some row ∧ row.usedAt ≠ none

def InOrder (_ : SessionId) (shared : Shared) : Local → Prop
  | .idle => True
  | .running request => (shared.tokens.find? request.row.tokenHash).isSome ∧
      (request.accepted = true → Vetted request)

section Steps

variable {actor : SessionId} {shared shared' : Shared} {state state' : Local} {action : Action}

/-- What a step can be. -/
inductive Advanced (shared : Shared) : Local → Action → Shared → Local → Prop where
  | waited (state : Local) (elapsed : Nat) :
      Advanced shared state (.wait elapsed) { shared with now := shared.now + elapsed } state
  | unknown (consumption : Consumption) (tokenHash : String) :
      Advanced shared .idle (.select consumption tokenHash) shared .idle
  | selected (consumption : Consumption) (row : EmailToken)
      (found : shared.tokens.find? row.tokenHash = some row) :
      Advanced shared .idle (.select consumption row.tokenHash) shared
        (.running ⟨row, shared.successes, consumption.stages, shared.now, none, true⟩)
  | staged (request : Request) (passes : Bool) (stage : Stage) (rest : List Stage)
      (stages : request.stages = stage :: rest) :
      Advanced shared (.running request) (.advance passes) shared
        (request.stage shared.now passes rest stage)
  | committed (request : Request) (done : request.stages = []) :
      Advanced shared (.running request) .commit (request.commit shared) .idle
  | aborted (request : Request) : Advanced shared (.running request) .abort shared .idle

theorem advanced_of_some (ran : advance actor shared state action = some ((), shared', state')) :
    Advanced shared state action shared' state' := by
  cases action with
  | wait elapsed =>
      cases ran
      exact .waited state elapsed
  | select consumption tokenHash =>
      cases state with
      | running request => contradiction
      | idle =>
          simp only [advance] at ran
          split at ran
          · cases ran
            exact .unknown consumption tokenHash
          · rename_i row selected
            cases ran
            obtain ⟨found, -⟩ := Option.filter_eq_some_iff.mp selected
            obtain rfl := Table.key_of_find? found
            exact .selected consumption row found
  | advance passes =>
      cases state with
      | idle => contradiction
      | running request =>
          simp only [advance] at ran
          split at ran
          · contradiction
          · rename_i stage rest stages
            cases ran
            exact .staged request passes stage rest stages
  | commit =>
      cases state with
      | idle => contradiction
      | running request =>
          simp only [advance] at ran
          split at ran
          · rename_i done
            cases ran
            exact .committed request (List.isEmpty_iff.mp done)
          · contradiction
  | abort =>
      cases state with
      | idle => contradiction
      | running request =>
          cases ran
          exact .aborted request

section Stages

variable {request next : Request} {stage : Stage} {rest : List Stage}

/-- The check stays ahead or done when another stage is done. -/
theorem Vetted.checked_rest (vetted : Vetted request) (stages : request.stages = stage :: rest)
    (other : stage ≠ .check) : .check ∈ rest ∨
      request.row.usedAt = none ∧ request.checkedAt ≤ request.row.expiresAt.instant := by
  have checked := vetted.checked
  rw [stages, List.mem_cons, or_iff_right other.symm] at checked
  exact checked

theorem Vetted.marked_rest (vetted : Vetted request) (stages : request.stages = stage :: rest)
    (other : stage ≠ .mark) (again : stage ≠ .markAgain) :
    .mark ∈ rest ∨ .markAgain ∈ rest ∨ request.usedAt ≠ none := by
  have marked := vetted.marked
  rw [stages, List.mem_cons, List.mem_cons, or_iff_right other.symm,
    or_iff_right again.symm] at marked
  exact marked

theorem stage_vetted {now : Int} {passes : Bool} (stages : request.stages = stage :: rest)
    (staged : request.stage now passes rest stage = .running next) :
    next.row = request.row ∧ (next.accepted = true → request.accepted = true ∧
      (Vetted request → Vetted next)) := by
  cases stage with
  | check =>
      simp only [Request.stage] at staged
      split at staged
      · contradiction
      · rename_i usable
        cases staged
        simp only [Bool.or_eq_true, decide_eq_true_eq, not_or, Option.isSome_iff_ne_none,
          not_not, DateTime.instant_aware, Int.not_lt] at usable
        refine ⟨rfl, fun accepted => ⟨accepted, fun vetted => ⟨vetted.before, .inr usable, ?_⟩⟩⟩
        exact vetted.marked_rest stages (by decide) (by decide)
  | mark =>
      cases staged
      refine ⟨rfl, fun accepted => ⟨accepted, fun vetted => ⟨vetted.before, ?_, ?_⟩⟩⟩
      · exact vetted.checked_rest stages (by decide)
      · exact .inr (.inr (Option.some_ne_none _))
  | markAgain =>
      cases staged
      refine ⟨rfl, fun accepted => ⟨accepted, fun vetted => ⟨vetted.before, ?_, ?_⟩⟩⟩
      · exact vetted.checked_rest stages (by decide)
      · exact .inr (.inr (Option.some_ne_none _))
  | test =>
      simp only [Request.stage] at staged
      split at staged
      · cases staged
        refine ⟨rfl, fun accepted => ⟨accepted, fun vetted => ⟨vetted.before, ?_, ?_⟩⟩⟩
        · exact vetted.checked_rest stages (by decide)
        · exact vetted.marked_rest stages (by decide) (by decide)
      · contradiction
  | code =>
      simp only [Request.stage] at staged
      split at staged
      · cases staged
        refine ⟨rfl, fun accepted => ⟨accepted, fun vetted => ⟨vetted.before, ?_, ?_⟩⟩⟩
        · exact vetted.checked_rest stages (by decide)
        · exact vetted.marked_rest stages (by decide) (by decide)
      · cases staged
        refine ⟨rfl, fun accepted => ?_⟩
        contradiction

end Stages

/-- Whoever succeeds has set `used_at`, on a row that was unused at its `SELECT`. -/
theorem Vetted.done {request : Request} (vetted : Vetted request) (done : request.stages = []) :
    request.row.usedAt = none ∧ request.checkedAt ≤ request.row.expiresAt.instant ∧
      ∃ usedAt, request.usedAt = some usedAt := by
  have checked := vetted.checked
  have marked := vetted.marked
  rw [done] at checked marked
  simp only [List.not_mem_nil, false_or] at checked marked
  exact ⟨checked.1, checked.2, Option.ne_none_iff_exists'.mp marked⟩

theorem tokens_commit {request : Request} {tokenHash : String} :
    (((request.commit shared).tokens.find? tokenHash).isSome ↔
      (shared.tokens.find? tokenHash).isSome) := by
  unfold Request.commit
  dsimp only
  split
  · exact Iff.rfl
  · rw [Table.find?_modify]
    split
    · simp
    · exact Iff.rfl

theorem used_kept {request : Request} {tokenHash : String} {row : EmailToken}
    (found : shared.tokens.find? tokenHash = some row) (used : row.usedAt ≠ none) :
    ∃ after, (request.commit shared).tokens.find? tokenHash = some after ∧
      after.usedAt ≠ none := by
  unfold Request.commit
  dsimp only
  split
  · exact ⟨row, found, used⟩
  · rename_i usedAt _
    rw [Table.find?_modify, found]
    split
    · exact ⟨row.use usedAt, rfl, Option.some_ne_none _⟩
    · exact ⟨row, rfl, used⟩

theorem used_commit {request : Request} (used : Used shared)
    (own : InOrder actor shared (.running request)) (done : request.stages = []) :
    Used (request.commit shared) := by
  obtain ⟨stored, vetted⟩ := own
  have earlier : ∀ success ∈ shared.successes, ∃ row,
      (request.commit shared).tokens.find? success.tokenHash = some row ∧ row.usedAt ≠ none := by
    intro success member
    obtain ⟨row, found, marked⟩ := used success member
    exact used_kept found marked
  intro success member
  cases accepted : request.accepted with
  | false =>
      simp only [Request.commit, accepted, Bool.false_eq_true, if_false] at member
      exact earlier success member
  | true =>
      simp only [Request.commit, accepted, if_true] at member
      rcases List.mem_cons.mp member with rfl | old
      · obtain ⟨row, found⟩ := Option.isSome_iff_exists.mp stored
        obtain ⟨-, -, usedAt, marked⟩ := (vetted accepted).done done
        refine ⟨row.use usedAt, ?_, Option.some_ne_none _⟩
        simp only [Request.commit, marked, Request.success]
        rw [Table.find?_modify, if_pos rfl, found]
        rfl
      · exact earlier success old

/-- The part of the invariant that the acting session keeps. -/
theorem own_step (used : Used shared) (own : InOrder actor shared state)
    (advanced : Advanced shared state action shared' state') :
    Used shared' ∧ InOrder actor shared' state' := by
  cases advanced with
  | waited => exact ⟨used, by cases state with | idle => trivial | running => exact own⟩
  | unknown => exact ⟨used, trivial⟩
  | selected consumption row found =>
      refine ⟨used, by simp [found], fun _ => ⟨?_, .inl consumption.checks, ?_⟩⟩
      · intro success member sameToken
        obtain ⟨stored, storedFound, marked⟩ := used success member
        rw [sameToken, found] at storedFound
        obtain rfl := Option.some.inj storedFound
        exact marked
      · rcases consumption.marks with mark | again
        · exact .inl mark
        · exact .inr (.inl again)
  | staged request passes stage rest stages =>
      refine ⟨used, ?_⟩
      cases staged : request.stage shared.now passes rest stage with
      | idle => trivial
      | running next =>
          obtain ⟨sameRow, goes⟩ := stage_vetted stages staged
          refine ⟨sameRow ▸ own.1, ?_⟩
          intro accepted
          obtain ⟨before, keeps⟩ := goes accepted
          exact keeps (own.2 before)
  | committed request done => exact ⟨used_commit used own done, trivial⟩
  | aborted => exact ⟨used, trivial⟩

/-- What the others have is not disturbed. -/
theorem frame_step {other : SessionId} {otherState : Local}
    (advanced : Advanced shared state action shared' state')
    (owned : InOrder other shared otherState) : InOrder other shared' otherState := by
  cases otherState with
  | idle => trivial
  | running request =>
      cases advanced with
      | committed acting done => exact ⟨tokens_commit.mpr owned.1, owned.2⟩
      | waited | unknown | selected | staged | aborted => exact owned

theorem success_singleUse_iff {success : Success} {successes : List Success}
    (single : SingleUse successes) (checked : success.checkedAt ≤ success.expiresAt.instant) :
    SingleUse (success :: successes) ↔
      (∀ earlier ∈ successes, earlier.tokenHash ≠ success.tokenHash) ∧
        success.committedAt ≤ success.expiresAt.instant := by
  constructor
  · intro after
    have once := after.once
    rw [List.map_cons, List.nodup_cons] at once
    refine ⟨?_, after.committed success List.mem_cons_self⟩
    intro earlier member same
    exact once.1 (List.mem_map.mpr ⟨earlier, member, same⟩)
  · rintro ⟨other, inTime⟩
    refine ⟨?_, ?_, ?_⟩
    · rw [List.map_cons, List.nodup_cons]
      refine ⟨?_, single.once⟩
      intro member
      obtain ⟨earlier, listed, same⟩ := List.mem_map.mp member
      exact other earlier listed same
    · exact List.forall_mem_cons.mpr ⟨checked, single.checked⟩
    · exact List.forall_mem_cons.mpr ⟨inTime, single.committed⟩

theorem single_step_iff (single : SingleUse shared.successes)
    (own : InOrder actor shared state) (advanced : Advanced shared state action shared' state') :
    SingleUse shared'.successes ↔ NotOvertaken actor shared state action := by
  cases advanced with
  | waited => exact iff_of_true single (by cases state <;> trivial)
  | unknown | selected | staged | aborted => exact iff_of_true single trivial
  | committed request done =>
      cases accepted : request.accepted with
      | false =>
          have same : (request.commit shared).successes = shared.successes := by
            simp [Request.commit, accepted]
          rw [same]
          refine iff_of_true single ?_
          intro refused
          rw [accepted] at refused
          contradiction
      | true =>
          have vetted := own.2 accepted
          obtain ⟨unused, checked, -⟩ := vetted.done done
          have grown : (request.commit shared).successes =
              request.success shared.now :: shared.successes := by
            simp [Request.commit, accepted]
          rw [grown, success_singleUse_iff single checked]
          constructor
          · rintro ⟨other, inTime⟩ _
            refine ⟨?_, inTime⟩
            intro success member same
            exact absurd same (other success member)
          · intro guarded
            obtain ⟨known, inTime⟩ := guarded accepted
            refine ⟨?_, inTime⟩
            intro earlier member same
            exact vetted.before earlier (known earlier member same) same unused

theorem successes_step (advanced : Advanced shared state action shared' state')
    (single : SingleUse shared'.successes) : SingleUse shared.successes := by
  cases advanced with
  | waited | unknown | selected | staged | aborted => exact single
  | committed request done =>
      cases accepted : request.accepted with
      | false => simpa [Request.commit, accepted] using single
      | true =>
          simp only [Request.commit, accepted, if_true] at single
          refine ⟨?_, ?_, ?_⟩
          · exact (List.nodup_cons.mp single.once).2
          · exact (List.forall_mem_cons.mp single.checked).2
          · exact (List.forall_mem_cons.mp single.committed).2

end Steps

section Runs

variable {now : Int} {tokens : Table EmailToken.tokenHash}
variable {events : List (SessionEvent Action Unit)} {system : Interleaved Shared Local}

theorem inOrder_step {next : Interleaved Shared Local} {event : SessionEvent Action Unit}
    (holds : Interleaved.Holds Used InOrder system)
    (taken : Interleaved.Step advance system event next) :
    Interleaved.Holds Used InOrder next := by
  have own : ∀ actor shared state action outcome shared' state', True → Used shared →
      InOrder actor shared state →
      advance actor shared state action = some (outcome, shared', state') →
      Used shared' ∧ InOrder actor shared' state' :=
    fun _ _ _ _ _ _ _ _ used own ran => own_step used own (advanced_of_some ran)
  have frame : ∀ actor other shared state otherState action outcome shared' state',
      other ≠ actor → Used shared → InOrder actor shared state →
      advance actor shared state action = some (outcome, shared', state') →
      InOrder other shared otherState → InOrder other shared' otherState :=
    fun _ _ _ _ _ _ _ _ _ _ _ _ ran owned => frame_step (advanced_of_some ran) owned
  exact Interleaved.holds_step advance Used InOrder own frame holds ⟨trivial, taken⟩

theorem inOrder_opening (now : Int) (tokens : Table EmailToken.tokenHash) :
    Interleaved.Holds Used InOrder (opening now tokens) :=
  ⟨by simp [opening, Used], fun _ => trivial⟩

theorem inOrder_run (run : Run (Interleaved.Step advance) (opening now tokens) events system) :
    Interleaved.Holds Used InOrder system :=
  run.invariant (Interleaved.Holds Used InOrder) (inOrder_opening now tokens)
    fun _ _ _ => inOrder_step

/-- A token is used once and in time, in every run and at its end, if and only if no success
in it is overtaken. -/
theorem single_use_iff
    (run : Run (Interleaved.Step advance) (opening now tokens) events system) :
    SingleUse system.shared.successes ↔
      Run (Guarded (Interleaved.AtActor NotOvertaken) (Interleaved.Step advance))
        (opening now tokens) events system := by
  constructor
  · intro single
    induction run with
    | nil => exact .nil
    | snoc earlier taken ih =>
        obtain ⟨shared, own, ran, rfl⟩ := taken
        have advanced := advanced_of_some ran
        have before := successes_step advanced single
        have holds := inOrder_run earlier
        have guarded := (single_step_iff before (holds.2 _) advanced).mp single
        exact (ih before).snoc ⟨guarded, shared, own, ran, rfl⟩
  · intro guarded
    have kept : Interleaved.Holds Used InOrder system ∧ SingleUse system.shared.successes := by
      apply guarded.invariant fun system =>
        Interleaved.Holds Used InOrder system ∧ SingleUse system.shared.successes
      · exact ⟨inOrder_opening now tokens, List.nodup_nil, by simp [opening], by simp [opening]⟩
      · rintro before event after ⟨holds, single⟩ ⟨notOvertaken, taken⟩
        refine ⟨inOrder_step holds taken, ?_⟩
        obtain ⟨shared, own, ran, rfl⟩ := taken
        exact (single_step_iff single (holds.2 _) (advanced_of_some ran)).mpr notOvertaken
    exact kept.2

end Runs

/-- The link of a password reset, valid for an hour. -/
def resetToken : EmailToken :=
  ⟨"e1", "u1", .reset, "digest", .utc (seconds 3600), none, .utc 0⟩

def resetTokens : Table EmailToken.tokenHash := ⟨[resetToken], List.nodup_singleton _⟩

def resetRequest (session : SessionId) : List (SessionId × Action) := [
  (session, .select (consumeEmailToken .reset) "digest"), (session, .advance true),
  (session, .advance true), (session, .advance true)]

theorem single_use_iff_one_request : ∃ events system,
    Run (Guarded (Interleaved.AtActor NotOvertaken) (Interleaved.Step advance))
      (opening 0 resetTokens) events system ∧ system.shared.successes.length = 1 := by
  obtain ⟨⟨events, system⟩, replayed, successes⟩ : ∃ reached, Interleaved.replay advance
      (opening 0 resetTokens) (resetRequest 1 ++ [(1, .commit)]) = some reached ∧
      reached.2.shared.successes = [⟨"digest", .utc (seconds 3600), 0, 0⟩] := ⟨_, rfl, rfl⟩
  refine ⟨events, system, (single_use_iff (Interleaved.run_of_replay advance replayed)).mp ?_,
    by rw [successes]; rfl⟩
  rw [successes]
  exact ⟨List.nodup_singleton _, by decide, by decide⟩

/-- Two requests with the link read its row before either commits. -/
theorem overlapping_resets_succeed : ¬∀ (now : Int) (tokens : Table EmailToken.tokenHash)
    (events : List (SessionEvent Action Unit)) (system : Interleaved Shared Local),
    Run (Interleaved.Step advance) (opening now tokens) events system →
      SingleUse system.shared.successes := by
  intro claimed
  obtain ⟨⟨events, system⟩, replayed, successes⟩ : ∃ reached, Interleaved.replay advance
      (opening 0 resetTokens)
        (resetRequest 1 ++ resetRequest 2 ++ [(1, .commit), (2, .commit)]) = some reached ∧
      reached.2.shared.successes = [⟨"digest", .utc (seconds 3600), 0, 0⟩,
        ⟨"digest", .utc (seconds 3600), 0, 0⟩] := ⟨_, rfl, rfl⟩
  have single := claimed 0 resetTokens events system (Interleaved.run_of_replay advance replayed)
  rw [successes] at single
  exact absurd single.once (by decide)

end ApiBank.Auth.TokenSessions
