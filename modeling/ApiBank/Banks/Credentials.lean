import ApiBank.Text.Separated
import ApiBank.Worker.TaskRegistry

/-!
# Bank credentials

Three endpoints encrypt a username and a password as one text, and `decode_credentials`
splits the decrypted text at the first colon. The two endpoints of the user join with a
colon, that of the administrator with a line break.
-/

namespace ApiBank.Banks.Credentials

open ApiBank.Api.Orders (partitionColon)
open ApiBank.Text
open ApiBank.Worker.TaskRegistry (AccountStatus Cipher decodeCredentials)

set_option autoImplicit false

/-- The configured keys. A token depends on the value and on what is drawn for it, and it
decrypts to the value. -/
structure FernetCipher extends Cipher where
  encrypt : Nat → String → String
  decrypt_encrypt : ∀ draw value, decrypt (encrypt draw value) = some value

/-- `BankAccountRotate`, and the query of the administrator's endpoint. -/
structure Login where
  username : String
  password : String
  usernameLength : 1 ≤ username.length ∧ username.length ≤ 255
  passwordLength : 1 ≤ password.length ∧ password.length ≤ 255

structure BankAccountCreate extends Login where
  bankCode : String
  accountNo : String
  accountHolder : String
  bankCodeLength : 2 ≤ bankCode.length ∧ bankCode.length ≤ 16
  accountNoLength : 6 ≤ accountNo.length ∧ accountNo.length ≤ 64
  accountHolderLength : 1 ≤ accountHolder.length ∧ accountHolder.length ≤ 255

structure BankAccount extends Worker.TaskRegistry.BankAccount where
  userId : Option String
  bankCode : String
  accountNo : String
  accountHolder : String
  sessionEnc : Option String
  pollOnlyWhenPending : Bool
  pollingStatus : String
  lastError : Option String
  verifiedAt : Option Int
  deriving DecidableEq, Repr

def unsupportedBanks : List String := ["BIDV", "ACB", "VCB"]

/-- `create_bank_account`, up to the row that is added. -/
def createBankAccount (upper : String → String) (cipher : Option FernetCipher) (draw : Nat)
    (id userId : String) (payload : BankAccountCreate) : Except Error BankAccount :=
  let bankCode := upper payload.bankCode
  if unsupportedBanks.contains bankCode then
    .error (.httpException 422 ("Ngân hàng " ++ bankCode ++
      " chưa được hỗ trợ trong phiên bản này; chỉ MB và Vietinbank đang khả dụng."))
  else
    match cipher with
    | none => .error (.httpException 500 "server missing APIBANK_FERNET_KEYS")
    | some cipher => .ok
        { id := id
          userId := some userId
          bankCode := bankCode
          accountNo := payload.accountNo
          accountHolder := payload.accountHolder
          credentialsEnc := cipher.encrypt draw (payload.username ++ ":" ++ payload.password)
          sessionEnc := none
          status := .active
          pollingEnabled := true
          pollOnlyWhenPending := bankCode = "MB"
          pollingStatus := "idle"
          lastError := none
          verifiedAt := none }

/-- `_get_user_bank`, of what the session finds. -/
def getUserBank (found : Option BankAccount) (userId : String) : Except Error BankAccount :=
  match found with
  | none => .error (.httpException 404 "not found")
  | some account =>
      if account.userId ≠ some userId ∨ account.status = .deleted then
        .error (.httpException 404 "not found")
      else .ok account

/-- `rotate_bank_credentials`, up to the row that is changed. -/
def rotateBankCredentials (cipher : Option FernetCipher) (draw : Nat)
    (found : Option BankAccount) (userId : String) (payload : Login) : Except Error BankAccount :=
  match cipher with
  | none => .error (.httpException 500 "server missing APIBANK_FERNET_KEYS")
  | some cipher =>
      match getUserBank found userId with
      | .error error => .error error
      | .ok account => .ok { account with
          credentialsEnc := cipher.encrypt draw (payload.username ++ ":" ++ payload.password)
          sessionEnc := none
          lastError := none
          verifiedAt := none }

/-- `admin_rotate_bank_credentials`, up to the row that is changed. -/
def adminRotateBankCredentials (cipher : Option FernetCipher) (draw : Nat)
    (found : Option BankAccount) (payload : Login) : Except Error BankAccount :=
  match found with
  | none => .error (.httpException 404 "bank account not found")
  | some bank =>
      match cipher with
      | none => .error (.httpException 500 "fernet keys not configured")
      | some cipher => .ok { bank with
          credentialsEnc := cipher.encrypt draw (payload.username ++ "\n" ++ payload.password)
          lastError := none
          pollingStatus := "idle" }

/-- A call of one of the endpoints. -/
inductive Request where
  | create (id userId : String) (payload : BankAccountCreate)
  | rotate (found : Option BankAccount) (userId : String) (payload : Login)
  | adminRotate (found : Option BankAccount) (payload : Login)

def Request.login : Request → Login
  | .create _ _ payload => payload.toLogin
  | .rotate _ _ payload => payload
  | .adminRotate _ payload => payload

/-- The row that a call stores. -/
def Request.stored (upper : String → String) (cipher : Option FernetCipher) (draw : Nat) :
    Request → Except Error BankAccount
  | .create id userId payload => createBankAccount upper cipher draw id userId payload
  | .rotate found userId payload => rotateBankCredentials cipher draw found userId payload
  | .adminRotate found payload => adminRotateBankCredentials cipher draw found payload

/-- What separates the username from the password in the text. -/
def Request.separator : Request → Char
  | .create _ _ _ => ':'
  | .rotate _ _ _ => ':'
  | .adminRotate _ _ => '\n'

/-- `decode_credentials` gives back what the endpoint was sent. -/
def RoundTrips (cipher : FernetCipher) (request : Request) (account : BankAccount) : Prop :=
  decodeCredentials cipher.toCipher account.toBankAccount =
    some (request.login.username, request.login.password)

/-! ## The text and its parts -/

def joined (separator : Char) (login : Login) : String :=
  login.username ++ String.singleton separator ++ login.password

theorem toList_joined (separator : Char) (login : Login) :
    (joined separator login).toList =
      login.username.toList ++ separator :: login.password.toList := by
  simp [joined]

/-- An endpoint stores the joined text and nothing else in the credentials. -/
theorem stored_credentials {upper : String → String} {cipher : FernetCipher} {draw : Nat}
    {request : Request} {account : BankAccount}
    (ok : request.stored upper (some cipher) draw = .ok account) :
    account.credentialsEnc = cipher.encrypt draw (joined request.separator request.login) := by
  cases request with
  | create id userId payload =>
      simp only [Request.stored, createBankAccount] at ok
      split at ok
      · cases ok
      · rw [← Except.ok.inj ok]
        rfl
  | rotate found userId payload =>
      simp only [Request.stored, rotateBankCredentials] at ok
      split at ok
      · cases ok
      · rw [← Except.ok.inj ok]
        rfl
  | adminRotate found payload =>
      simp only [Request.stored, adminRotateBankCredentials] at ok
      split at ok
      · cases ok
      · rw [← Except.ok.inj ok]
        rfl

theorem decoded {upper : String → String} {cipher : FernetCipher} {draw : Nat}
    {request : Request} {account : BankAccount}
    (ok : request.stored upper (some cipher) draw = .ok account) :
    decodeCredentials cipher.toCipher account.toBankAccount =
      some (partitionColon (joined request.separator request.login)) := by
  rw [decodeCredentials, stored_credentials ok, cipher.decrypt_encrypt]
  rfl

theorem partitionColon_eq (text : String) :
    let plain := fun char => decide (char ≠ ':')
    partitionColon text = (String.ofList (text.toList.takeWhile plain),
      String.ofList (text.toList.dropWhile plain).tail) := by
  intro plain
  have whole := List.takeWhile_append_dropWhile (p := plain) (l := text.toList)
  have rest : text.toList.drop ((text.toList.takeWhile plain).length + 1) =
      (text.toList.dropWhile plain).tail := by
    have dropped := @List.drop_length_add_append Char (text.toList.takeWhile plain)
      (text.toList.dropWhile plain) 1
    rw [whole, List.drop_one] at dropped
    exact dropped
  exact Prod.ext rfl (congrArg String.ofList rest)

theorem parts_of_partitionColon {text : String} {first rest : String}
    (parts : partitionColon text = (first, rest)) (filled : rest ≠ "") :
    text.toList = first.toList ++ ':' :: rest.toList ∧ ':' ∉ first.toList := by
  rw [partitionColon_eq] at parts
  have firstEq := congrArg (fun pair => pair.1.toList) parts
  have restEq := congrArg (fun pair => pair.2.toList) parts
  simp only [String.toList_ofList] at firstEq restEq
  constructor
  · have whole := List.takeWhile_append_dropWhile (p := fun char => decide (char ≠ ':'))
      (l := text.toList)
    cases after : text.toList.dropWhile fun char => decide (char ≠ ':') with
    | nil =>
        rw [after] at restEq
        exact absurd (String.toList_eq_nil_iff.mp restEq.symm) filled
    | cons head tail =>
        have colon : head = ':' := by simpa using stops_of_dropWhile after
        rw [after, List.tail_cons] at restEq
        rw [← whole, after, firstEq, restEq, colon]
  · rw [← firstEq]
    intro colon
    have kept := List.all_eq_true.mp List.all_takeWhile ':' colon
    exact absurd kept (by decide)

theorem partitionColon_of_parts {text first rest : String} (free : ':' ∉ first.toList)
    (whole : text.toList = first.toList ++ ':' :: rest.toList) :
    partitionColon text = (first, rest) := by
  have plain : ∀ char ∈ first.toList, decide (char ≠ ':') = true := by
    intro char member
    apply decide_eq_true
    intro same
    exact free (same ▸ member)
  rw [partitionColon_eq, whole, List.takeWhile_append_of_pos plain,
    List.dropWhile_append_of_pos plain]
  simp

/-- The pair comes back exactly when the colon is the separator and the username has none. -/
theorem partitionColon_joined_iff (separator : Char) (login : Login) :
    partitionColon (joined separator login) = (login.username, login.password) ↔
      separator = ':' ∧ ':' ∉ login.username.toList := by
  constructor
  · intro parts
    have filled : login.password ≠ "" := by
      intro empty
      have length := login.passwordLength.1
      rw [empty] at length
      exact absurd length (by decide)
    have split := parts_of_partitionColon parts filled
    have same := split.1
    rw [toList_joined] at same
    exact ⟨(List.cons.inj (List.append_cancel_left same)).1, split.2⟩
  · intro condition
    apply partitionColon_of_parts condition.2
    rw [toList_joined, condition.1]

/-- The two endpoints of the user, with a username without a colon. -/
def Separable (request : Request) : Prop :=
  request.separator = ':' ∧ ':' ∉ request.login.username.toList

instance (request : Request) : Decidable (Separable request) :=
  inferInstanceAs (Decidable (_ ∧ _))

/-- Credentials come back exactly when they were stored by an endpoint of the user with a
username that has no colon. -/
theorem credentials_round_trip_iff (upper : String → String) (cipher : FernetCipher) (draw : Nat)
    (request : Request) (account : BankAccount)
    (ok : request.stored upper (some cipher) draw = .ok account) :
    RoundTrips cipher request account ↔ Separable request := by
  unfold RoundTrips
  rw [decoded ok, Option.some.injEq]
  exact partitionColon_joined_iff request.separator request.login

def markedTokens : FernetCipher where
  encrypt := fun _ value => "gAAAAA" ++ value
  decrypt := fun token => some (String.ofList (token.toList.drop 6))
  decrypt_encrypt := by
    intro draw value
    have mark : "gAAAAA".toList = ['g', 'A', 'A', 'A', 'A', 'A'] := rfl
    simp [String.toList_append, mark]

def customer : Login := ⟨"0912345678", "s3cret", by decide, by decide⟩

def storedAccount : BankAccount where
  id := "ba_1"
  userId := some "usr_1"
  bankCode := "MB"
  accountNo := "0011223344"
  accountHolder := "NGUYEN VAN A"
  credentialsEnc := "gAAAAA0912345678:s3cret"
  sessionEnc := none
  status := .active
  pollingEnabled := true
  pollOnlyWhenPending := true
  pollingStatus := "idle"
  lastError := none
  verifiedAt := none

theorem rotated_credentials_round_trip_iff :
    RoundTrips markedTokens (.rotate (some storedAccount) "usr_1" customer)
        { storedAccount with credentialsEnc := "gAAAAA0912345678:s3cret" } ↔
      Separable (.rotate (some storedAccount) "usr_1" customer) :=
  credentials_round_trip_iff id markedTokens 0 _ _ rfl

/-- What the administrator stores has no colon to split at. -/
theorem admin_credentials_lost :
    ¬ ∀ (cipher : FernetCipher) (request : Request) (account : BankAccount),
      request.stored id (some cipher) 0 = .ok account → RoundTrips cipher request account := by
  intro back
  let request : Request := .adminRotate (some storedAccount) customer
  have ok : request.stored id (some markedTokens) 0 = .ok _ := rfl
  have parts := back markedTokens request _ ok
  rw [RoundTrips, decoded ok, Option.some.injEq] at parts
  exact absurd ((partitionColon_joined_iff _ _).mp parts) (by decide)

end ApiBank.Banks.Credentials
