import ApiBank.Auth.Login
import ApiBank.Text.Digests
import ApiBank.Transition.Postconditions
import ApiBank.Transition.Run

/-!
# Recovery codes

Two endpoints write the column `recovery_codes_enc`, each in a format of its own: enabling a
second factor stores a bcrypt hash for each code, and regenerating stores one list of Fernet
tokens. The check of a code reads the first format only.
-/

namespace ApiBank.Auth.RecoveryCodes

open ApiBank.Db ApiBank.Text ApiBank.Transition

set_option autoImplicit false

/-! ## The column and its readers and writers -/

/-- A value of the JSON object. -/
inductive StoredValue where
  | text (value : String)
  | array (values : List String)
deriving DecidableEq, Repr

/-- The row `two_factors` of a user. -/
structure TwoFactorRow where
  secretEnc : String
  recoveryCodesEnc : List (String × StoredValue)
  enabledAt : Option DateTime
  lastTotpCode : Option String
  lastTotpUsedAt : Option DateTime
deriving DecidableEq, Repr

/-- A request on the row of its user. -/
abbrev Work := EStateM Error (Option TwoFactorRow)

/-- Ten codes of four random bytes each. -/
structure RawCodes where
  bytes : List (List UInt8)
  count : bytes.length = 10
  sizes : ∀ raw ∈ bytes, raw.length = 4

structure VerifyDraws where
  totpAt : Int
  now : Int
  raw : RawCodes
  salts : Nat → String

/-- Ten random codes, each with the Fernet token that it is encrypted to. -/
structure RegenerateDraws where
  fernetKeys : Bool
  codes : List (String × String)
  count : codes.length = 10

structure SubmitDraws where
  totpAt : Int
  verifiedAt : Int

variable (runtime : Runtime)

def formatCode (raw : String) : String :=
  let raw := (upper runtime raw).toList
  String.ofList (raw.take 4 ++ Char.ofNat 45 :: (raw.drop 4).take 4)

/-- Each is `secrets.token_hex(4)` with a dash. -/
def generateRecoveryCodes (raw : RawCodes) : List String :=
  raw.bytes.map fun bytes => formatCode runtime (hexdigest bytes)

def hashRecoveryCode (code salt : String) : String := runtime.hashpw code.toUTF8.toList salt

/-- `verify_recovery_code`: a list has no `encode`. -/
def verifyStored (code : String) : StoredValue → Except Error Bool
  | .text hashed => .ok (verifyRecoveryCode runtime code hashed)
  | .array values => if code.isEmpty || values.isEmpty then .ok false else .error .attributeError

def useStored (code : String) :
    List (String × StoredValue) → Except Error (Option (List (String × StoredValue)))
  | [] => .ok none
  | (key, stored) :: rest => do
      let matched ← if stored = .text "USED" then pure false else verifyStored runtime code stored
      if matched then pure (some ((key, .text "USED") :: rest))
      else
        let used ← useStored code rest
        pure (used.map ((key, stored) :: ·))

def replayed (twofa : TwoFactorRow) (code : String) (now : Int) : Bool :=
  twofa.lastTotpCode = some code && twofa.lastTotpUsedAt.any fun lastUsedAt =>
    now - lastUsedAt.aware.instant < totpReplayWindow

def verify2faCode (code : String) (draws : SubmitDraws) : Work Bool := do
  match ← get with
  | none => pure false
  | some twofa =>
      if twofa.enabledAt.isNone then pure false
      else
        let code := strip runtime code
        if verifyTotp runtime twofa.secretEnc code draws.totpAt then
          if replayed twofa code draws.verifiedAt then pure false
          else
            set (some { twofa with
              lastTotpCode := some code
              lastTotpUsedAt := some (.utc draws.verifiedAt) })
            pure true
        else
          match useStored runtime (upper runtime code) twofa.recoveryCodesEnc with
          | .error failure => throw failure
          | .ok none => pure false
          | .ok (some codes) =>
              set (some { twofa with recoveryCodesEnc := codes })
              pure true

def hashedCodes (codes : List String) (salts : Nat → String) : List (String × StoredValue) :=
  codes.mapIdx fun index code =>
    (s!"rc_{index}", .text (hashRecoveryCode runtime code (salts index)))

def verify2fa (code : String) (draws : VerifyDraws) : Work (List String) := do
  match ← get with
  | none => throw (.httpException 400 "enroll first")
  | some twofa =>
      if !verifyTotp runtime twofa.secretEnc code draws.totpAt then
        throw (.httpException 400 "invalid code")
      else
        let rawCodes := generateRecoveryCodes runtime draws.raw
        set (some { twofa with
          enabledAt := some (.utc draws.now)
          recoveryCodesEnc := hashedCodes runtime rawCodes draws.salts })
        pure rawCodes

def regenerateRecoveryCodes (currentPassword passwordHash : String) (draws : RegenerateDraws) :
    Work (List String) := do
  if !verifyPassword runtime currentPassword passwordHash then
    throw (.httpException 400 "invalid password")
  else
    match ← get with
    | none => throw (.httpException 400 "2fa not enabled")
    | some twofa =>
        if twofa.enabledAt.isNone then throw (.httpException 400 "2fa not enabled")
        else if !draws.fernetKeys then throw (.httpException 500 "fernet keys not set")
        else
          set (some { twofa with
            recoveryCodesEnc := [("codes", .array (draws.codes.map Prod.snd))] })
          pure (draws.codes.map Prod.fst)

/-! ## The ways a check can end -/

section Checks

variable {runtime} {twofa : TwoFactorRow} {code : String} {draws : SubmitDraws}

theorem verify2faCode_disabled (disabled : twofa.enabledAt.isNone = true) (code : String)
    (draws : SubmitDraws) :
    verify2faCode runtime code draws (some twofa) = .ok false (some twofa) := by
  unfold verify2faCode
  simp only [bind, EStateM.bind, Effect.get_apply, disabled, if_true]
  rfl

/-- The check of a text that is no one-time code. -/
theorem verify2faCode_of_code (enabled : twofa.enabledAt.isNone = false)
    (other : verifyTotp runtime twofa.secretEnc (strip runtime code) draws.totpAt = false) :
    verify2faCode runtime code draws (some twofa) =
      match useStored runtime (upper runtime (strip runtime code)) twofa.recoveryCodesEnc with
      | .error failure => .error failure (some twofa)
      | .ok none => .ok false (some twofa)
      | .ok (some recoveryCodesEnc) => .ok true (some { twofa with recoveryCodesEnc }) := by
  unfold verify2faCode
  simp only [bind, EStateM.bind, Effect.get_apply, enabled, other, Bool.false_eq_true, if_false]
  cases useStored runtime (upper runtime (strip runtime code)) twofa.recoveryCodesEnc with
  | error failure => rfl
  | ok used => cases used <;> rfl

def TwoFactorRow.setTotp (code : String) (now : Int) (twofa : TwoFactorRow) : TwoFactorRow :=
  { twofa with lastTotpCode := some code, lastTotpUsedAt := some (.utc now) }

/-- The check of a one-time code keeps the recovery codes. -/
theorem verify2faCode_of_totp (enabled : twofa.enabledAt.isNone = false)
    (valid : verifyTotp runtime twofa.secretEnc (strip runtime code) draws.totpAt = true) :
    verify2faCode runtime code draws (some twofa) =
      if replayed twofa (strip runtime code) draws.verifiedAt then .ok false (some twofa)
      else .ok true (some (twofa.setTotp (strip runtime code) draws.verifiedAt)) := by
  unfold verify2faCode
  simp only [bind, EStateM.bind, Effect.get_apply, enabled, valid, Bool.false_eq_true, if_false,
    if_true]
  cases replayed twofa (strip runtime code) draws.verifiedAt <;> rfl

end Checks

/-! ## The rows that hold hashes only -/

section Texts

def texts (codes : List (String × String)) : List (String × StoredValue) :=
  codes.map fun (key, hashed) => (key, .text hashed)

/-- The row as the login reads it. -/
def TwoFactorRow.of (twofa : TwoFactor) : TwoFactorRow where
  secretEnc := twofa.secretEnc
  recoveryCodesEnc := texts twofa.recoveryCodesEnc
  enabledAt := twofa.enabledAt
  lastTotpCode := twofa.lastTotpCode
  lastTotpUsedAt := twofa.lastTotpUsedAt

@[simp] theorem texts_cons (key hashed : String) (rest : List (String × String)) :
    texts ((key, hashed) :: rest) = (key, .text hashed) :: texts rest := rfl

theorem useStored_texts (code : String) (codes : List (String × String)) :
    useStored runtime code (texts codes) = .ok ((useRecoveryCode runtime code codes).map texts) := by
  induction codes with
  | nil => rfl
  | cons entry rest ih =>
      obtain ⟨key, hashed⟩ := entry
      rw [texts_cons, useStored, ih, useRecoveryCode]
      by_cases marked : hashed = "USED"
      · subst marked
        cases useRecoveryCode runtime code rest <;> rfl
      · rw [if_neg (mt StoredValue.text.inj marked), verifyStored]
        cases matched : verifyRecoveryCode runtime code hashed with
        | true => simp [marked, bind, Except.bind, pure, Except.pure]
        | false => cases useRecoveryCode runtime code rest <;>
            simp [bind, Except.bind, pure, Except.pure]

/-- On rows of hashes this is the check that the login makes. -/
theorem verify2faCode_login (userId code : String) (draws : Draws) (db : Accounts) :
    Effect.Ensures (Auth.verify2faCode runtime userId code draws) db
      (fun verified after => verify2faCode runtime code ⟨draws.totpAt, draws.verifiedAt⟩
        ((db.twoFactors.find? userId).map .of) =
          .ok verified ((after.twoFactors.find? userId).map .of)) fun _ _ => False := by
  unfold Auth.verify2faCode
  apply Effect.ensures_get
  cases found : db.twoFactors.find? userId with
  | none =>
      apply Effect.ensures_pure
      rw [found]
      rfl
  | some twofa =>
      have written (change : TwoFactor → TwoFactor)
          (keeps : ∀ twofa, (change twofa).userId = twofa.userId) :
          ((db.twoFactors.modify userId change keeps).find? userId).map TwoFactorRow.of =
            some (.of (change twofa)) := by
        rw [Relational.Table.find?_modify, if_pos rfl, found]
        rfl
      have codes : (TwoFactorRow.of twofa).recoveryCodesEnc = texts twofa.recoveryCodesEnc := rfl
      dsimp only
      cases enabled : twofa.enabledAt.isNone with
      | true =>
          have disabled : (TwoFactorRow.of twofa).enabledAt.isNone = true := enabled
          apply Effect.ensures_pure
          rw [found]
          exact verify2faCode_disabled disabled ..
      | false =>
          have on : (TwoFactorRow.of twofa).enabledAt.isNone = false := enabled
          simp only [Bool.false_eq_true, if_false, Option.map_some]
          cases totp : verifyTotp runtime twofa.secretEnc (strip runtime code) draws.totpAt with
          | true =>
              have checked : verify2faCode runtime code ⟨draws.totpAt, draws.verifiedAt⟩
                  (some (.of twofa)) = _ := verify2faCode_of_totp on totp
              have sameReplay : replayed (.of twofa) (strip runtime code) draws.verifiedAt =
                  Auth.replayed twofa (strip runtime code) draws.verifiedAt := rfl
              simp only [if_true]
              cases again : Auth.replayed twofa (strip runtime code) draws.verifiedAt with
              | true =>
                  rw [sameReplay, again, if_pos rfl] at checked
                  apply Effect.ensures_pure
                  rw [found]
                  exact checked
              | false =>
                  rw [sameReplay, again, if_neg Bool.false_ne_true] at checked
                  exact Effect.ensures_modify (checked.trans (by rw [written]; rfl))
          | false =>
              have checked : verify2faCode runtime code ⟨draws.totpAt, draws.verifiedAt⟩
                  (some (.of twofa)) = _ := verify2faCode_of_code on totp
              rw [codes, useStored_texts] at checked
              simp only [Bool.false_eq_true, if_false]
              cases used : useRecoveryCode runtime (upper runtime (strip runtime code))
                twofa.recoveryCodesEnc with
              | none =>
                  rw [used] at checked
                  apply Effect.ensures_pure
                  rw [found]
                  exact checked
              | some left =>
                  rw [used] at checked
                  exact Effect.ensures_modify (checked.trans (by rw [written]; rfl))

end Texts

/-! ## Runs -/

inductive Op where
  | verify (code : String) (draws : VerifyDraws)
  | regenerate (currentPassword passwordHash : String) (draws : RegenerateDraws)
  | submit (code : String) (draws : SubmitDraws)

/-- The codes that were returned last. -/
inductive Issued where
  | byVerify (codes : List String)
  | byRegenerate (codes : List String)
deriving DecidableEq, Repr

def Issued.codes : Issued → List String
  | .byVerify codes => codes
  | .byRegenerate codes => codes

/-- A submitted text as one of the codes: hexadecimal codes have no case. -/
def Issued.spelled (issued : Issued) (text : String) : String :=
  match issued with
  | .byVerify _ => upper runtime (strip runtime text)
  | .byRegenerate _ => strip runtime text

/-- The row, the codes returned last, and those of them that have been accepted since. -/
structure Server where
  twofa : Option TwoFactorRow
  issued : Option Issued
  used : List String

/-- The text is a one-time code of the user. -/
def isTotp (server : Server) (code : String) (draws : SubmitDraws) : Bool :=
  server.twofa.any fun twofa => verifyTotp runtime twofa.secretEnc (strip runtime code) draws.totpAt

def serve (server : Server) : Op → Server
  | .verify code draws =>
      match verify2fa runtime code draws server.twofa with
      | .ok codes twofa => ⟨twofa, some (.byVerify codes), []⟩
      | .error _ _ => server
  | .regenerate currentPassword passwordHash draws =>
      match regenerateRecoveryCodes runtime currentPassword passwordHash draws server.twofa with
      | .ok codes twofa => ⟨twofa, some (.byRegenerate codes), []⟩
      | .error _ _ => server
  | .submit code draws =>
      match verify2faCode runtime code draws server.twofa with
      | .ok true twofa =>
          if isTotp runtime server code draws then { server with twofa }
          else
            let spelled := server.issued.map fun issued => issued.spelled runtime code
            { server with twofa, used := spelled.toList ++ server.used }
      | .ok false twofa => { server with twofa }
      | .error _ _ => server

/-- A text that is no one-time code is accepted if it is a code returned last that has not
been used, and else refused. -/
def Honoured (server : Server) : Op → Prop
  | .submit code draws => ∀ issued, server.issued = some issued →
      isTotp runtime server code draws = false →
        ∃ twofa, verify2faCode runtime code draws server.twofa =
          .ok (decide (issued.spelled runtime code ∈ issued.codes ∧
            issued.spelled runtime code ∉ server.used)) twofa
  | _ => True

/-- What keeps the codes working: they come from a verification, and a used one is not there
twice. After a regeneration only blank texts are left. -/
def Redeemable (server : Server) : Op → Prop
  | .submit code draws => ∀ issued, server.issued = some issued →
      isTotp runtime server code draws = false →
        match issued with
        | .byVerify codes =>
            issued.spelled runtime code ∈ server.used →
              codes.count (issued.spelled runtime code) = 1
        | .byRegenerate codes =>
            (upper runtime (strip runtime code)).isEmpty = true ∧ strip runtime code ∉ codes
  | _ => True

/-! ## What bcrypt and the text functions are relied on for -/

/-- A hash is accepted for exactly the bytes that were hashed, and has the form of one. -/
structure Bcrypt : Prop where
  checks : ∀ secret salt other,
    runtime.checkpw other (runtime.hashpw secret salt) = some (decide (other = secret))
  written : ∀ secret salt, (runtime.hashpw secret salt).isEmpty = false
  unmarked : ∀ secret salt, runtime.hashpw secret salt ≠ "USED"

/-- `str.isspace` and `str.upper` on ASCII. -/
structure Ascii : Prop where
  isSpace : ∀ char : Char, char.toNat < 128 → runtime.isSpace char = true →
    char.toNat ≤ 32
  upper : ∀ chars : List Char, (∀ char ∈ chars, char.toNat < 128) →
    runtime.upper chars = chars.map Char.toUpper

variable {runtime}

section Checking

variable {entries : List (String × StoredValue)} {codes : List String}

theorem verifyRecoveryCode_hash (bcrypt : Bcrypt runtime) (text code salt : String) :
    verifyRecoveryCode runtime text (hashRecoveryCode runtime code salt) =
      (!text.isEmpty && decide (text = code)) := by
  unfold verifyRecoveryCode hashRecoveryCode
  rw [bcrypt.written, bcrypt.checks, Bool.or_false]
  cases text.isEmpty with
  | true => rfl
  | false =>
      simp only [toUTF8_toList, encode_injective.eq_iff]
      rfl

/-- The column holds hashes of these codes, and marks of used ones. -/
inductive Stored (runtime : Runtime) : List (String × StoredValue) → List String → Prop where
  | nil : Stored runtime [] []
  | used {entries : List (String × StoredValue)} {codes : List String} (key : String)
      (rest : Stored runtime entries codes) :
      Stored runtime ((key, .text "USED") :: entries) codes
  | hashed {entries : List (String × StoredValue)} {codes : List String} (key code salt : String)
      (rest : Stored runtime entries codes) :
      Stored runtime ((key, .text (hashRecoveryCode runtime code salt)) :: entries) (code :: codes)

/-- A code that is there is found and marked; any other text is refused. -/
theorem useStored_spec (bcrypt : Bcrypt runtime) (text : String)
    (stored : Stored runtime entries codes) (written : "" ∉ codes) :
    (text ∈ codes → ∃ after, useStored runtime text entries = .ok (some after) ∧
      Stored runtime after (codes.erase text)) ∧
    (text ∉ codes → useStored runtime text entries = .ok none) := by
  induction stored with
  | nil => exact ⟨fun absent => absurd absent List.not_mem_nil, fun _ => rfl⟩
  | used key rest ih =>
      obtain ⟨found, missing⟩ := ih written
      constructor
      · intro member
        obtain ⟨after, used, left⟩ := found member
        refine ⟨(key, .text "USED") :: after, ?_, left.used key⟩
        simp [useStored, used, bind, Except.bind, pure, Except.pure]
      · intro absent
        simp [useStored, missing absent, bind, Except.bind, pure, Except.pure]
  | hashed key code salt rest ih =>
      have unmarked : StoredValue.text (hashRecoveryCode runtime code salt) ≠ .text "USED" := by
        intro same
        exact bcrypt.unmarked _ _ (StoredValue.text.inj same)
      have checked : verifyStored runtime text (.text (hashRecoveryCode runtime code salt)) =
          .ok (!text.isEmpty && decide (text = code)) :=
        congrArg Except.ok (verifyRecoveryCode_hash bcrypt text code salt)
      obtain ⟨first, others⟩ := not_or.mp (mt List.mem_cons.mpr written)
      obtain ⟨found, missing⟩ := ih others
      by_cases same : text = code
      · subst same
        have nonempty : text.isEmpty = false := by
          rw [String.isEmpty_eq_false_iff]
          exact Ne.symm first
        constructor
        · intro _
          rw [List.erase_cons_head]
          refine ⟨_, ?_, rest.used key⟩
          simp only [useStored, if_neg unmarked, checked, nonempty, decide_true]
          rfl
        · exact fun absent => absurd List.mem_cons_self absent
      · rw [decide_eq_false same, Bool.and_false] at checked
        constructor
        · intro member
          obtain ⟨after, used, left⟩ := found ((List.mem_cons.mp member).resolve_left same)
          refine ⟨(key, .text (hashRecoveryCode runtime code salt)) :: after, ?_, ?_⟩
          · simp only [useStored, if_neg unmarked, checked, bind, Except.bind, used]
            rfl
          · rw [List.erase_cons_tail (by simpa using Ne.symm same)]
            exact left.hashed key code salt
        · intro absent
          have elsewhere := missing fun member => absent (List.mem_cons_of_mem code member)
          simp only [useStored, if_neg unmarked, checked, bind, Except.bind, elsewhere]
          rfl

/-- What is stored for new codes, with the keys from some number on. -/
theorem stored_hashed (codes : List String) (salts : Nat → String) :
    Stored runtime (hashedCodes runtime codes salts) codes := by
  unfold hashedCodes
  suffices general : ∀ name : Nat → String, Stored runtime (codes.mapIdx fun index code =>
      (name index, .text (hashRecoveryCode runtime code (salts index)))) codes from
    general fun index => s!"rc_{index}"
  induction codes generalizing salts with
  | nil => exact fun _ => .nil
  | cons code rest ih =>
      intro name
      rw [List.mapIdx_cons]
      exact (ih (fun index => salts (index + 1)) fun index => name (index + 1)).hashed ..

end Checking

section Codes

variable {raw : RawCodes} {code : String}

theorem code_ne_empty (member : code ∈ generateRecoveryCodes runtime raw) : code ≠ "" := by
  obtain ⟨bytes, -, rfl⟩ := List.mem_map.mp member
  intro empty
  have chars := congrArg String.toList empty
  simp [formatCode] at chars

def codeChars : List Char := "0123456789ABCDEF-".toList

theorem hexdigest_chars (bytes : List UInt8) : ∀ char ∈ (hexdigest bytes).toList,
    char.toNat < 128 ∧ char.toUpper ∈ codeChars := by
  have digits : ∀ digit : Fin 16, (Nat.digitChar digit).toNat < 128 ∧
      (Nat.digitChar digit).toUpper ∈ codeChars := by decide
  intro char member
  obtain ⟨digit, rfl⟩ := digit_of_hexdigest member
  exact digits digit

theorem length_hexdigest (bytes : List UInt8) :
    (hexdigest bytes).toList.length = 2 * bytes.length := by
  rw [hexdigest, String.toList_ofList]
  induction bytes with
  | nil => rfl
  | cons byte rest ih =>
      rw [List.flatMap_cons, List.length_append, ih]
      simp only [hexPair, List.length_cons, List.length_nil]
      omega

/-- Eight hexadecimal digits in upper case, and a dash. -/
theorem code_chars (ascii : Ascii runtime) (member : code ∈ generateRecoveryCodes runtime raw) :
    code.toList.length = 9 ∧ ∀ char ∈ code.toList, char ∈ codeChars := by
  obtain ⟨bytes, listed, rfl⟩ := List.mem_map.mp member
  have plain := hexdigest_chars bytes
  have uppered : (upper runtime (hexdigest bytes)).toList =
      (hexdigest bytes).toList.map Char.toUpper := by
    rw [upper, String.toList_ofList, ascii.upper _ fun char inside => (plain char inside).1]
  have size : (upper runtime (hexdigest bytes)).toList.length = 8 := by
    rw [uppered, List.length_map, length_hexdigest, raw.sizes bytes listed]
  have inside : ∀ char ∈ (upper runtime (hexdigest bytes)).toList, char ∈ codeChars := by
    intro char member
    rw [uppered] at member
    obtain ⟨digit, drawn, rfl⟩ := List.mem_map.mp member
    exact (plain digit drawn).2
  unfold formatCode
  rw [String.toList_ofList]
  constructor
  · rw [List.length_append, List.length_cons, List.length_take, List.length_take,
      List.length_drop, size]
    rfl
  · intro char member
    rcases List.mem_append.mp member with first | rest
    · exact inside char (List.mem_of_mem_take first)
    · rcases List.mem_cons.mp rest with rfl | last
      · decide
      · exact inside char (List.mem_of_mem_drop (List.mem_of_mem_take last))

theorem dropWhile_space {chars : List Char} (none : ∀ char ∈ chars, runtime.isSpace char = false) :
    chars.dropWhile runtime.isSpace = chars := by
  cases chars with
  | nil => rfl
  | cons first rest => rw [List.dropWhile_cons, none first List.mem_cons_self]; rfl

theorem strip_of_unspaced {text : String}
    (none : ∀ char ∈ text.toList, runtime.isSpace char = false) : strip runtime text = text := by
  unfold strip
  rw [dropWhile_space none, dropWhile_space, List.reverse_reverse]
  · exact String.ofList_toList
  · intro char member
    exact none char (List.mem_reverse.mp member)

/-- A printable ASCII letter that becomes the character in upper case. -/
def Spells (letter char : Char) : Prop :=
  letter.toUpper = char ∧ 32 < letter.toNat ∧ letter.toNat < 128

instance (letter char : Char) : Decidable (Spells letter char) :=
  inferInstanceAs (Decidable (_ ∧ _))

theorem codeChars_spelled {char : Char} (inside : char ∈ codeChars) :
    Spells char char ∧ Spells char.toLower char := by
  have all : codeChars.all (fun char => Spells char char ∧ Spells char.toLower char) = true := by
    decide
  exact of_decide_eq_true (List.all_eq_true.mp all char inside)

theorem code_spelled (ascii : Ascii runtime) (member : code ∈ generateRecoveryCodes runtime raw)
    {text : String} (spelling : text = code ∨ text = String.ofList (code.toList.map Char.toLower)) :
    upper runtime (strip runtime text) = code ∧
      ∀ secret at', verifyTotp runtime secret (strip runtime text) at' = false := by
  obtain ⟨size, chars⟩ := code_chars ascii member
  obtain ⟨letter, written, each⟩ : ∃ letter : Char → Char, text.toList = code.toList.map letter ∧
      ∀ char ∈ codeChars, Spells (letter char) char := by
    rcases spelling with rfl | rfl
    · exact ⟨id, (List.map_id _).symm, fun _ inside => (codeChars_spelled inside).1⟩
    · exact ⟨Char.toLower, String.toList_ofList, fun _ inside => (codeChars_spelled inside).2⟩
  have plain : ∀ char ∈ text.toList, 32 < char.toNat ∧ char.toNat < 128 := by
    intro char inside
    rw [written] at inside
    obtain ⟨digit, drawn, rfl⟩ := List.mem_map.mp inside
    exact (each digit (chars digit drawn)).2
  have stripped : strip runtime text = text := by
    apply strip_of_unspaced
    intro char inside
    obtain ⟨above, below⟩ := plain char inside
    by_contra spaced
    rw [Bool.not_eq_false] at spaced
    exact absurd (ascii.isSpace char below spaced) (by omega)
  rw [stripped]
  constructor
  · rw [upper, ascii.upper _ fun char inside => (plain char inside).2, written, List.map_map]
    apply String.toList_injective
    rw [String.toList_ofList]
    conv_rhs => rw [← List.map_id code.toList]
    apply List.map_congr_left
    intro char inside
    exact (each char (chars char inside)).1
  · intro secret at'
    have kept : (text.toList.filter fun char => char != Char.ofNat 32) = text.toList := by
      rw [List.filter_eq_self]
      intro char inside
      obtain ⟨above, -⟩ := plain char inside
      rw [bne_iff_ne]
      rintro rfl
      exact absurd above (by decide)
    have long : (text.toList.length != 6) = true := by
      rw [written, List.length_map, size]
      rfl
    unfold verifyTotp
    rw [stripped]
    simp only [kept, long, Bool.or_true, if_true]

end Codes

/-! ## The invariant -/

section Steps

variable {server : Server} {twofa : TwoFactorRow} {issued : Issued} {code : String}
  {draws : SubmitDraws}

/-- The column and the used codes make up the codes that were returned last. -/
def Holds (runtime : Runtime) (entries : List (String × StoredValue)) (used : List String) :
    Issued → Prop
  | .byVerify codes => "" ∉ codes ∧ used.Nodup ∧
      ∃ remaining, Stored runtime entries remaining ∧ (remaining ++ used).Perm codes
  | .byRegenerate _ => used = [] ∧
      ∃ tokens, tokens ≠ [] ∧ entries = [("codes", .array tokens)]

def Backed (runtime : Runtime) (server : Server) : Prop :=
  ∀ issued, server.issued = some issued → ∃ twofa, server.twofa = some twofa ∧
    twofa.enabledAt.isNone = false ∧ Holds runtime twofa.recoveryCodesEnc server.used issued

theorem count_remaining {codes remaining used : List String} (all : (remaining ++ used).Perm codes)
    (text : String) : remaining.count text + used.count text = codes.count text := by
  rw [← all.count_eq, List.count_append]

/-- A code that is still there has not been used, unless the set had it twice. -/
theorem mem_remaining_iff {codes remaining used : List String} {text : String}
    (all : (remaining ++ used).Perm codes) (single : text ∈ used → codes.count text = 1) :
    text ∈ remaining ↔ text ∈ codes ∧ text ∉ used := by
  have counts := count_remaining all text
  constructor
  · intro member
    refine ⟨all.subset (List.mem_append_left _ member), fun again => ?_⟩
    have present := List.count_pos_iff.mpr member
    have gone := List.count_pos_iff.mpr again
    have two := single again
    omega
  · rintro ⟨known, unused⟩
    exact (List.mem_append.mp (all.symm.subset known)).resolve_right unused

theorem count_eq_one {codes remaining used : List String} {text : String} (once : used.Nodup)
    (all : (remaining ++ used).Perm codes) (again : text ∈ used) (gone : text ∉ remaining) :
    codes.count text = 1 := by
  rw [← count_remaining all text, List.count_eq_zero_of_not_mem gone,
    List.count_eq_one_of_mem once again]

/-- The list that is left by a regeneration. -/
theorem useStored_array {tokens : List String} (some' : tokens ≠ []) (text : String) :
    useStored runtime text [("codes", .array tokens)] =
      if text.isEmpty then .ok none else .error .attributeError := by
  have nonempty : tokens.isEmpty = false := by simpa using some'
  simp only [useStored, verifyStored, nonempty, Bool.or_false, reduceCtorEq, if_false]
  cases text.isEmpty <;> rfl

theorem honoured_iff (bcrypt : Bcrypt runtime) (server : Server) (op : Op)
    (backed : Backed runtime server) : Honoured runtime server op ↔ Redeemable runtime server op := by
  cases op with
  | verify code draws => exact Iff.rfl
  | regenerate currentPassword passwordHash draws => exact Iff.rfl
  | submit code draws =>
      unfold Honoured Redeemable
      apply forall_congr'
      intro issued
      apply forall_congr'
      intro last
      apply forall_congr'
      intro noTotp
      obtain ⟨twofa, row, enabled, holds⟩ := backed issued last
      have other : verifyTotp runtime twofa.secretEnc (strip runtime code) draws.totpAt = false := by
        simpa [isTotp, row] using noTotp
      rw [row, verify2faCode_of_code enabled other]
      cases issued with
      | byVerify codes =>
          obtain ⟨written, once, remaining, stored, all⟩ := holds
          have left : "" ∉ remaining := fun member =>
            written (all.subset (List.mem_append_left _ member))
          obtain ⟨found, missing⟩ :=
            useStored_spec bcrypt (upper runtime (strip runtime code)) stored left
          simp only [Issued.spelled, Issued.codes]
          by_cases member : upper runtime (strip runtime code) ∈ remaining
          · obtain ⟨after, used, -⟩ := found member
            rw [used]
            simp only [EStateM.Result.ok.injEq, exists_and_left, exists_eq', and_true]
            constructor
            · intro unused again
              exact absurd again (of_decide_eq_true unused.symm).2
            · intro single
              exact (decide_eq_true ((mem_remaining_iff all single).mp member)).symm
          · rw [missing member]
            simp only [EStateM.Result.ok.injEq, exists_and_left, exists_eq', and_true]
            constructor
            · exact fun _ again => count_eq_one once all again member
            · intro single
              exact (decide_eq_false (mt (mem_remaining_iff all single).mpr member)).symm
      | byRegenerate codes =>
          obtain ⟨unused, tokens, some', entries⟩ := holds
          rw [entries, useStored_array some', unused]
          simp only [Issued.spelled, Issued.codes]
          cases (upper runtime (strip runtime code)).isEmpty with
          | true => simp
          | false => simp

theorem verify2fa_ok {code : String} {draws : VerifyDraws} {before after : Option TwoFactorRow}
    {codes : List String} (ran : verify2fa runtime code draws before = .ok codes after) :
    codes = generateRecoveryCodes runtime draws.raw ∧ ∃ twofa, after = some twofa ∧
      twofa.enabledAt.isNone = false ∧
      twofa.recoveryCodesEnc = hashedCodes runtime codes draws.salts := by
  unfold verify2fa at ran
  cases before with
  | none => cases ran
  | some twofa =>
      simp only [bind, EStateM.bind, Effect.get_apply] at ran
      split at ran
      · cases ran
      · cases ran
        exact ⟨rfl, _, rfl, rfl, rfl⟩

theorem regenerate_ok {currentPassword passwordHash : String} {draws : RegenerateDraws}
    {before after : Option TwoFactorRow} {codes : List String}
    (ran : regenerateRecoveryCodes runtime currentPassword passwordHash draws before =
      .ok codes after) :
    ∃ twofa, after = some twofa ∧ twofa.enabledAt.isNone = false ∧
      twofa.recoveryCodesEnc = [("codes", .array (draws.codes.map Prod.snd))] := by
  unfold regenerateRecoveryCodes at ran
  split at ran
  · cases ran
  · cases before with
    | none => cases ran
    | some twofa =>
        simp only [bind, EStateM.bind, Effect.get_apply] at ran
        split at ran
        · cases ran
        · rename_i enabled
          split at ran
          · cases ran
          · cases ran
            exact ⟨_, rfl, eq_false_of_ne_true enabled, rfl⟩

theorem backed_verify (code : String) (draws : VerifyDraws) (backed : Backed runtime server) :
    Backed runtime (serve runtime server (.verify code draws)) := by
  unfold serve
  dsimp only
  cases ran : verify2fa runtime code draws server.twofa with
  | error failure after => exact backed
  | ok codes after =>
      obtain ⟨rfl, twofa, rfl, enabled, stored⟩ := verify2fa_ok ran
      intro issued last
      obtain rfl := Option.some.inj last
      refine ⟨twofa, rfl, enabled, ?_, List.nodup_nil, generateRecoveryCodes runtime draws.raw, ?_, ?_⟩
      · intro empty
        exact code_ne_empty empty rfl
      · rw [stored]
        exact stored_hashed _ draws.salts
      · rw [List.append_nil]

theorem backed_regenerate (currentPassword passwordHash : String) (draws : RegenerateDraws)
    (backed : Backed runtime server) :
    Backed runtime (serve runtime server (.regenerate currentPassword passwordHash draws)) := by
  unfold serve
  dsimp only
  cases ran : regenerateRecoveryCodes runtime currentPassword passwordHash draws server.twofa with
  | error failure after => exact backed
  | ok codes after =>
      obtain ⟨twofa, rfl, enabled, stored⟩ := regenerate_ok ran
      intro issued last
      obtain rfl := Option.some.inj last
      refine ⟨twofa, rfl, enabled, rfl, _, ?_, stored⟩
      intro none
      have ten := draws.count
      rw [List.map_eq_nil_iff.mp none] at ten
      cases ten

theorem issued_submit (server : Server) (code : String) (draws : SubmitDraws) :
    (serve runtime server (.submit code draws)).issued = server.issued := by
  unfold serve
  dsimp only
  split
  · split <;> rfl
  · rfl
  · rfl

theorem serve_totp (row : server.twofa = some twofa) (enabled : twofa.enabledAt.isNone = false)
    (valid : verifyTotp runtime twofa.secretEnc (strip runtime code) draws.totpAt = true) :
    ∃ after, serve runtime server (.submit code draws) = { server with twofa := some after } ∧
      after.enabledAt = twofa.enabledAt ∧ after.recoveryCodesEnc = twofa.recoveryCodesEnc := by
  have totp : isTotp runtime server code draws = true := by simpa [isTotp, row] using valid
  unfold serve
  simp only [row, verify2faCode_of_totp enabled valid, totp, if_true]
  cases replayed twofa (strip runtime code) draws.verifiedAt with
  | true => exact ⟨twofa, rfl, rfl, rfl⟩
  | false => exact ⟨_, rfl, rfl, rfl⟩

theorem serve_code (row : server.twofa = some twofa) (last : server.issued = some issued)
    (enabled : twofa.enabledAt.isNone = false)
    (other : verifyTotp runtime twofa.secretEnc (strip runtime code) draws.totpAt = false) :
    serve runtime server (.submit code draws) =
      match useStored runtime (upper runtime (strip runtime code)) twofa.recoveryCodesEnc with
      | .ok (some recoveryCodesEnc) => { server with
          twofa := some { twofa with recoveryCodesEnc }
          used := issued.spelled runtime code :: server.used }
      | _ => server := by
  have noTotp : isTotp runtime server code draws = false := by simpa [isTotp, row] using other
  unfold serve
  simp only [row, verify2faCode_of_code enabled other, noTotp, last]
  cases useStored runtime (upper runtime (strip runtime code)) twofa.recoveryCodesEnc with
  | error failure => rfl
  | ok used =>
      cases used with
      | none =>
          dsimp only
          rw [← last, ← row]
      | some codes => rfl

/-- An accepted code leaves the column for a used one. -/
theorem backed_submit (bcrypt : Bcrypt runtime) (code : String) (draws : SubmitDraws)
    (backed : Backed runtime server) (honoured : Honoured runtime server (.submit code draws)) :
    Backed runtime (serve runtime server (.submit code draws)) := by
  intro issued last
  rw [issued_submit] at last
  obtain ⟨twofa, row, enabled, holds⟩ := backed issued last
  cases valid : verifyTotp runtime twofa.secretEnc (strip runtime code) draws.totpAt with
  | true =>
      obtain ⟨after, served, same, kept⟩ := serve_totp row enabled valid
      rw [served]
      refine ⟨after, rfl, same ▸ enabled, ?_⟩
      rw [kept]
      exact holds
  | false =>
      rw [serve_code row last enabled valid]
      cases issued with
      | byVerify codes =>
          obtain ⟨written, once, remaining, stored, all⟩ := holds
          have left : "" ∉ remaining := fun member =>
            written (all.subset (List.mem_append_left _ member))
          obtain ⟨found, missing⟩ :=
            useStored_spec bcrypt (upper runtime (strip runtime code)) stored left
          have redeemable := (honoured_iff bcrypt server _ backed).mp honoured
          have single := redeemable _ last (by simpa [isTotp, row] using valid)
          by_cases member : upper runtime (strip runtime code) ∈ remaining
          · obtain ⟨-, fresh⟩ := (mem_remaining_iff all single).mp member
            obtain ⟨after, used, less⟩ := found member
            rw [used]
            refine ⟨_, rfl, enabled, written, List.nodup_cons.mpr ⟨fresh, once⟩, _, less, ?_⟩
            refine List.perm_middle.trans (.trans ?_ all)
            exact (List.perm_cons_erase member).symm.append_right server.used
          · rw [missing member]
            exact ⟨twofa, row, enabled, written, once, remaining, stored, all⟩
      | byRegenerate codes =>
          obtain ⟨unused, tokens, some', entries⟩ := holds
          rw [entries, useStored_array some']
          split
          · rename_i codes' wrong
            split at wrong
            · cases wrong
            · cases wrong
          · exact ⟨twofa, row, enabled, unused, tokens, some', entries⟩

end Steps

/-- In every run: the codes that a verification returns can be submitted in upper or lower case
and are no one-time codes; and a text that is no one-time code is always accepted if it is an
unused code of those returned last, and else refused, if and only if no submission but of blank
texts follows a regeneration and no used code is in its set a second time. -/
theorem recovery_codes_iff (ascii : Ascii runtime) (bcrypt : Bcrypt runtime)
    (start : Option TwoFactorRow) (ops : List Op) :
    (∀ raw : RawCodes, ∀ code ∈ generateRecoveryCodes runtime raw, ∀ text,
      text = code ∨ text = String.ofList (code.toList.map Char.toLower) →
        upper runtime (strip runtime text) = code ∧
          ∀ secret at', verifyTotp runtime secret (strip runtime text) at' = false) ∧
    (Run.Along (Honoured runtime) (serve runtime) ⟨start, none, []⟩ ops ↔
      Run.Along (Redeemable runtime) (serve runtime) ⟨start, none, []⟩ ops) := by
  refine ⟨fun _ _ member _ => code_spelled ascii member, ?_⟩
  apply Run.along_iff (Backed runtime) (honoured_iff bcrypt)
  · intro server op backed honoured
    cases op with
    | verify code draws => exact backed_verify code draws backed
    | regenerate currentPassword passwordHash draws =>
        exact backed_regenerate currentPassword passwordHash draws backed
    | submit code draws => exact backed_submit bcrypt code draws backed honoured
  · intro issued last
    cases last

/-- ASCII text, and hashes that name what they are hashes of. -/
def plainRuntime : Runtime where
  isSpace := Char.isWhitespace
  isDigit := Char.isDigit
  lower := List.map Char.toLower
  upper := List.map Char.toUpper
  int := String.toInt?
  prehash := fun _ => []
  sha256Hex := fun _ => ""
  checkpw := fun other hashed => some (hashed = "$2b$10$" ++ hexdigest other)
  hashpw := fun secret _ => "$2b$10$" ++ hexdigest secret
  totpVerify := fun secret code at' =>
    secret = "JBSWY3DPEHPK3PXP" && code = "949556" && at' / seconds 30 = 33333333

theorem plainRuntime_ascii : Ascii plainRuntime where
  isSpace := by
    intro char _ spaced
    simp only [plainRuntime, Char.isWhitespace, Bool.or_eq_true, decide_eq_true_eq] at spaced
    rcases spaced with ((rfl | rfl) | rfl) | rfl <;> decide
  upper := fun _ _ => rfl

theorem plainRuntime_bcrypt : Bcrypt plainRuntime where
  checks := by
    intro secret salt other
    have same : "$2b$10$" ++ hexdigest secret = "$2b$10$" ++ hexdigest other ↔ other = secret := by
      rw [String.append_right_inj, hexdigest_injective.eq_iff, eq_comm]
    simp only [plainRuntime, same]
  written := by
    intro secret salt
    rw [String.isEmpty_eq_false_iff]
    intro empty
    have chars := congrArg String.toList empty
    simp [plainRuntime] at chars
  unmarked := by
    intro secret salt same
    have chars := congrArg String.toList same
    simp [plainRuntime] at chars

def enrolled : TwoFactorRow := ⟨"JBSWY3DPEHPK3PXP", [], some (.utc 0), none, none⟩

def tenCodes : RawCodes where
  bytes := (List.range 10).map fun index => [0, 171, 205, UInt8.ofNat index]
  count := by decide
  sizes := by decide

def sampleTime : Int := seconds 1000000000

def issuedThenUsed : List Op := [
  .verify "949556" ⟨sampleTime, sampleTime, tenCodes, fun _ => ""⟩,
  .submit "00ab-cd00" ⟨sampleTime, sampleTime⟩]

theorem recovery_codes_iff_lower_case :
    Run.Along (Honoured plainRuntime) (serve plainRuntime) ⟨some enrolled, none, []⟩
      issuedThenUsed := by
  apply (recovery_codes_iff plainRuntime_ascii plainRuntime_bcrypt _ _).2.mpr
  refine ⟨trivial, ?_, trivial⟩
  have unused : (serve plainRuntime ⟨some enrolled, none, []⟩ (.verify "949556"
      ⟨sampleTime, sampleTime, tenCodes, fun _ => ""⟩)).used = [] := by decide +kernel
  have verified : (serve plainRuntime ⟨some enrolled, none, []⟩ (.verify "949556"
      ⟨sampleTime, sampleTime, tenCodes, fun _ => ""⟩)).issued =
        some (.byVerify (generateRecoveryCodes plainRuntime tenCodes)) := by decide +kernel
  intro issued last _
  rw [verified] at last
  obtain rfl := Option.some.inj last
  intro again
  rw [unused] at again
  cases again

def tenTokens : RegenerateDraws where
  fernetKeys := true
  codes := List.replicate 10 ("Zm9vLWJhcg4", "gAAAAABoYWJj")
  count := List.length_replicate

theorem serve_regenerated : serve plainRuntime ⟨some enrolled, none, []⟩
    (.regenerate "secret" "$bcrypt-sha256$$2b$10$" tenTokens) =
      ⟨some { enrolled with recoveryCodesEnc := [("codes", .array (tenTokens.codes.map Prod.snd))] },
        some (.byRegenerate (tenTokens.codes.map Prod.fst)), []⟩ := by
  have prefixed : "$bcrypt-sha256$$2b$10$".startsWith bcryptPrefix = true := by
    rw [String.startsWith_string_iff]
    exact ⟨_, rfl⟩
  have verified : verifyPassword plainRuntime "secret" "$bcrypt-sha256$$2b$10$" = true := by
    unfold verifyPassword
    rw [prefixed]
    decide +kernel
  simp only [serve, regenerateRecoveryCodes, verified]
  rfl

/-- Ten codes are issued anew, and one of them is submitted. -/
def regeneratedThenUsed : List Op := [
  .regenerate "secret" "$bcrypt-sha256$$2b$10$" tenTokens,
  .submit "Zm9vLWJhcg4" ⟨sampleTime, sampleTime⟩]

theorem regenerated_code_fails : ¬∀ runtime, Ascii runtime → Bcrypt runtime → ∀ start ops,
    Run.Along (Honoured runtime) (serve runtime) ⟨start, none, []⟩ ops := by
  intro all
  obtain ⟨-, honoured, -⟩ := all plainRuntime plainRuntime_ascii plainRuntime_bcrypt
    (some enrolled) regeneratedThenUsed
  have served := serve_regenerated
  have backed : Backed plainRuntime ⟨some enrolled, none, []⟩ := fun _ last => by cases last
  have redeemable := (honoured_iff plainRuntime_bcrypt _ _
    (backed_regenerate "secret" "$bcrypt-sha256$$2b$10$" tenTokens backed)).mp honoured
  rw [served] at redeemable
  obtain ⟨blank, -⟩ := redeemable _ rfl (by decide +kernel)
  exact absurd blank (by decide +kernel)

end ApiBank.Auth.RecoveryCodes
