import ApiBank.Auth.Models

/-!
# Passwords, one-time codes and token hashes

What these routes take from bcrypt, pyotp, hashlib and from the text functions of
the Python runtime is a parameter; what they do with it is here.
-/

namespace ApiBank.Auth

set_option autoImplicit false

/-- Text: `str.isspace` and `str.isdigit` of one character, `str.lower`,
`str.upper` and `int`. Hashes: the SHA-256 digest of a password in base 64, the
hex digest of a token, and bcrypt, whose check raises `ValueError` on a malformed
hash. One-time codes: `pyotp.TOTP(secret).verify` with a window of one step. -/
structure Runtime where
  isSpace : Char → Bool
  isDigit : Char → Bool
  lower : List Char → List Char
  upper : List Char → List Char
  int : String → Option Int
  prehash : String → List UInt8
  sha256Hex : String → String
  checkpw : List UInt8 → String → Option Bool
  hashpw : List UInt8 → String → String
  totpVerify : String → String → Int → Bool

variable (runtime : Runtime)

def lower (value : String) : String := String.ofList (runtime.lower value.toList)

def upper (value : String) : String := String.ofList (runtime.upper value.toList)

def strip (value : String) : String :=
  let trimmed := ((value.toList.dropWhile runtime.isSpace).reverse.dropWhile
    runtime.isSpace).reverse
  String.ofList trimmed

def hashToken (token : String) : String := runtime.sha256Hex token

def bcryptPrefix : String := "$bcrypt-sha256$"

def verifyPassword (password hashed : String) : Bool :=
  if hashed.isEmpty || password.isEmpty then false
  else if hashed.startsWith bcryptPrefix then
    let digest := String.ofList (hashed.toList.drop bcryptPrefix.length)
    (runtime.checkpw (runtime.prehash password) digest).getD false
  else (runtime.checkpw (password.toUTF8.toList.take 72) hashed).getD false

/-- With the salt of `gensalt(rounds=12)`. -/
def hashPassword (password salt : String) : Except Error String :=
  if password.isEmpty then .error (.valueError "password must not be empty")
  else .ok (bcryptPrefix ++ runtime.hashpw (runtime.prehash password) salt)

def defaultRounds : Int := 12

def needsRehash (hashed : String) : Bool :=
  if hashed.isEmpty then true
  else if !hashed.startsWith bcryptPrefix then true
  else
    let body := String.ofList (hashed.toList.drop bcryptPrefix.length)
    match body.splitOn "$" with
    | _ :: _ :: rounds :: _ :: _ =>
        match runtime.int rounds with
        | some current => current < defaultRounds
        | none => true
    | _ => true

def verifyTotp (secret code : String) (at' : Int) : Bool :=
  let space := Char.ofNat 32
  let digits := (strip runtime code).toList.filter fun char => char != space
  if digits.isEmpty || !digits.all runtime.isDigit || digits.length != 6 then false
  else runtime.totpVerify secret (String.ofList digits) at'

def verifyRecoveryCode (code hashed : String) : Bool :=
  if code.isEmpty || hashed.isEmpty then false
  else (runtime.checkpw code.toUTF8.toList hashed).getD false

/-- The first unused recovery code that the text matches is marked `USED`. -/
def useRecoveryCode (code : String) : List (String × String) → Option (List (String × String))
  | [] => none
  | (key, hashed) :: rest =>
      if hashed != "USED" && verifyRecoveryCode runtime code hashed then
        some ((key, "USED") :: rest)
      else (useRecoveryCode code rest).map ((key, hashed) :: ·)

end ApiBank.Auth
