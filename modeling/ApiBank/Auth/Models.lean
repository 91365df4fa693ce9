import ApiBank.Db.Clock
import ApiBank.Errors
import ApiBank.Relational.Table
import ApiBank.Transition.Effect

/-!
# Account tables

Users with their login state, second factors, one-time tokens, external
identities and login sessions, as the authentication routes read and write them.
Primary keys and unique constraints are enforced by the tables.
-/

namespace ApiBank.Auth

open ApiBank.Db ApiBank.Relational ApiBank.Transition

set_option autoImplicit false

/-- The strings written to `users.status`. -/
inductive UserStatus where
  | active
  | suspended
  | banned
  | deleted
deriving DecidableEq, Repr

structure User where
  id : String
  email : String
  emailVerifiedAt : Option DateTime
  passwordHash : String
  fullName : Option String
  role : String
  status : UserStatus
  lastLoginAt : Option DateTime
  failedLoginCount : Int
  lockedUntil : Option DateTime
deriving DecidableEq, Repr

/-- `recovery_codes_enc` is a JSON object: its entries in order, keys once each. -/
structure TwoFactor where
  userId : String
  secretEnc : String
  recoveryCodesEnc : List (String × String)
  enabledAt : Option DateTime
  lastTotpCode : Option String
  lastTotpUsedAt : Option DateTime
deriving DecidableEq, Repr

/-- The strings written to `email_tokens.kind`. -/
inductive TokenKind where
  | verify
  | reset
  | changeEmail
  | twoFactor
  | userTgLink
  | tgLink
deriving DecidableEq, Repr

structure EmailToken where
  id : String
  userId : String
  kind : TokenKind
  tokenHash : String
  expiresAt : DateTime
  usedAt : Option DateTime
  createdAt : DateTime
deriving DecidableEq, Repr

structure OAuthIdentity where
  id : String
  userId : String
  provider : String
  subject : String
  email : Option String
deriving DecidableEq, Repr

/-- The table `sessions`, a class the routes import as `SessionModel`. -/
structure SessionModel where
  id : String
  userId : String
  tokenHash : String
  ip : Option String
  userAgent : Option String
  expiresAt : DateTime
  revokedAt : Option DateTime
  createdAt : DateTime
  lastSeenAt : DateTime
deriving DecidableEq, Repr

structure Accounts where
  users : Table User.id
  twoFactors : Table TwoFactor.userId
  emailTokens : Table EmailToken.id
  oauthIdentities : Table OAuthIdentity.id
  sessions : Table SessionModel.id

def Accounts.empty : Accounts where
  users := .empty
  twoFactors := .empty
  emailTokens := .empty
  oauthIdentities := .empty
  sessions := .empty

/-- A raise, before or after the request has committed what it wrote. -/
inductive Raised where
  | discarding (failure : Error)
  | committed (failure : Error)
deriving DecidableEq, Repr

/-- A request on its own database session. -/
abbrev Work := EStateM Raised Accounts

def raise {Value : Type} (failure : Error) : Work Value := throw (.discarding failure)

def commitAndRaise {Value : Type} (failure : Error) : Work Value := throw (.committed failure)

/-- The end of a request: what is not committed goes with the session. -/
def finish {Value : Type} (work : Work Value) (before : Accounts) :
    Except Error Value × Accounts :=
  match work before with
  | .ok value after => (.ok value, after)
  | .error (.discarding failure) _ => (.error failure, before)
  | .error (.committed failure) after => (.error failure, after)

/-- A flush that a unique index refuses. -/
def integrity {Value : Type} : Option Value → Work Value
  | some value => pure value
  | none => raise .integrityError

def modifyUser (userId : String) (change : User → User)
    (keeps : ∀ user, (change user).id = user.id) : Work Unit :=
  modify fun db => { db with users := db.users.modify userId change keeps }

def modifyTwoFactor (userId : String) (change : TwoFactor → TwoFactor)
    (keeps : ∀ twofa, (change twofa).userId = twofa.userId) : Work Unit :=
  modify fun db => { db with twoFactors := db.twoFactors.modify userId change keeps }

end ApiBank.Auth
