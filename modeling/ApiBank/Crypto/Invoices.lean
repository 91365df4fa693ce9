import ApiBank.Billing.Wallet
import ApiBank.Crypto.Models

/-!
# Crypto invoices

Creation with the choice of a wallet, cancelation, expiry, and the match of an
observed transfer with a waiting invoice. Case mapping, white space and the safety
verdict on a callback URL are a parameter. Tokens, the dust suffix and the clock are
drawn by the caller; one operation reads the clock once. The signature of a callback
is left out: nothing modelled here reads it.
-/

namespace ApiBank.Crypto.Invoices

open ApiBank.Billing ApiBank.Db ApiBank.Numeric ApiBank.Relational ApiBank.Transition

set_option autoImplicit false

/-- `str.isspace` of one character, `str.lower`, `str.upper`, the reason of
`is_safe_webhook_url` against a URL, and whether Fernet keys are configured. -/
structure Runtime where
  isSpace : Char → Bool
  lower : List Char → List Char
  upper : List Char → List Char
  unsafeReason : String → Option String
  fernetKeys : Bool

/-- The tables on ASCII text, with keys configured and every URL safe. -/
def Runtime.ascii : Runtime where
  isSpace := Char.isWhitespace
  lower := List.map Char.toLower
  upper := List.map Char.toUpper
  unsafeReason := fun _ => none
  fernetKeys := true

def Runtime.lowerText (runtime : Runtime) (text : String) : String :=
  String.ofList (runtime.lower text.toList)

def Runtime.upperText (runtime : Runtime) (text : String) : String :=
  String.ofList (runtime.upper text.toList)

def Runtime.strip (runtime : Runtime) (text : String) : String :=
  String.ofList ((text.toList.dropWhile runtime.isSpace).reverse.dropWhile runtime.isSpace).reverse

def normalizeAddress (runtime : Runtime) (address chainType : String) : String :=
  let value := runtime.strip address
  if chainType = "evm" then runtime.lowerText value else value

/-- `Numeric(36, 18)`. -/
def tokenColumn (amount : ℚ) : ℚ := fixedPoint 18 amount

def vndColumn (amount : ℚ) : Int := nearestAway amount

/-- `secrets.randbelow(10**precision - 1)` is drawn by the caller. -/
def suffixAmount (amount : ℚ) (precision drawn : Nat) : Except Error ℚ :=
  if precision = 0 then .ok amount
  else
    let units := ⌊amount * 10 ^ precision⌋
    if 10 ^ contextDigits ≤ units then .error .invalidOperation
    else .ok (significant contextDigits ((units + (drawn + 1)) / 10 ^ precision))

/-- What an operation draws: tokens, the dust suffix and the clock. -/
structure InvoiceDraws where
  id : String
  transId : String
  walletId : String
  suffix : Nat
  now : Int

structure CryptoInvoiceCreate where
  requestId : String
  name : String
  amount : ℚ
  token : String
  network : String
  address : Option String
  expireMinutes : Int
  callbackUrl : Option String
  webhookSecret : Option String
  metadata : Metadata
  currencyAmountVnd : Option ℚ
  fxRate : Option ℚ
  fxSource : Option String
  positive : 0 < amount

def textField (metadata : Metadata) (key : String) : Option String :=
  match metadata.lookup key with
  | some (.text value) => some value
  | _ => none

/-- `{**base, **extra}`. -/
def mergeMetadata (base extra : Metadata) : Metadata :=
  base.filter (fun field => (extra.lookup field.1).isNone) ++ extra

def existingInvoice (merchantId requestId : String) (db : CryptoDb) : Option CryptoInvoice :=
  db.invoices.rows.find? fun invoice =>
    invoice.merchantId = merchantId && invoice.requestId = requestId

/-- The check on a `request_id` that was used before. -/
def SamePayload (runtime : Runtime) (existing : CryptoInvoice) (payload : CryptoInvoiceCreate) :
    Prop :=
  existing.requestedAmount = payload.amount ∧ existing.name = payload.name ∧
    textField existing.metadataJson "network" = some (runtime.lowerText payload.network) ∧
      textField existing.metadataJson "token" = some (runtime.upperText payload.token)

instance (runtime : Runtime) (existing : CryptoInvoice) (payload : CryptoInvoiceCreate) :
    Decidable (SamePayload runtime existing payload) :=
  inferInstanceAs (Decidable (_ ∧ _ ∧ _ ∧ _))

def getNetworkToken (runtime : Runtime) (networkKey tokenSymbol : String) (db : CryptoDb) :
    Except Error (CryptoNetwork × CryptoToken) :=
  match db.networks.rows.find? fun network =>
      network.key = runtime.lowerText networkKey && network.status = "active" with
  | none => .error (.valueError "network not active")
  | some network =>
      match db.tokens.rows.find? fun token =>
          token.networkId = network.id && token.symbol = runtime.upperText tokenSymbol &&
            token.status = "active" with
      | none => .error (.valueError "token not active on network")
      | some token => .ok (network, token)

/-- A wallet that the platform may assign: active, with a free slot. -/
def eligible (networkId : String) (wallet : CryptoWallet) : Bool :=
  wallet.networkId = networkId && wallet.status = "active" &&
    wallet.activeInvoiceCount < wallet.maxActiveInvoices

/-- The order of the choice: least loaded, then oldest. -/
def lessLoaded (wallet other : CryptoWallet) : Bool :=
  wallet.activeInvoiceCount < other.activeInvoiceCount ||
    (wallet.activeInvoiceCount = other.activeInvoiceCount && wallet.createdAt < other.createdAt)

def leastLoaded (networkId : String) (db : CryptoDb) : Option CryptoWallet :=
  firstBy lessLoaded (db.wallets.rows.filter (eligible networkId))

def suppliedWallet (networkId address : String) (db : CryptoDb) : Option CryptoWallet :=
  db.wallets.rows.find? fun wallet =>
    wallet.networkId = networkId && wallet.address = address && wallet.status = "active"

def merchantWallet (networkId address merchantId : String) (draws : InvoiceDraws) :
    CryptoWallet where
  id := draws.walletId
  ownerType := "merchant"
  ownerId := some merchantId
  networkId := networkId
  address := address
  label := some "merchant supplied"
  status := "active"
  maxActiveInvoices := 100
  activeInvoiceCount := 0
  createdAt := draws.now

/-- `uq_crypto_wallet_network_address`. -/
def sameAddress (wallet other : CryptoWallet) : Bool :=
  wallet.networkId = other.networkId && wallet.address = other.address

def insertWallet? (wallet : CryptoWallet) (db : CryptoDb) : Option CryptoDb :=
  (db.wallets.insertUnique? sameAddress wallet).map fun wallets => { db with wallets }

/-- An empty string counts as absent. -/
def given (text : Option String) : Option String := text.filter (· ≠ "")

def chooseWallet (runtime : Runtime) (network : CryptoNetwork) (address : Option String)
    (merchantId : String) (draws : InvoiceDraws) : CryptoSession CryptoWallet :=
  match given address with
  | some address => do
      let normalized := normalizeAddress runtime address network.chainType
      match suppliedWallet network.id normalized (← get) with
      | some wallet => pure wallet
      | none =>
          let wallet := merchantWallet network.id normalized merchantId draws
          flush (insertWallet? wallet)
          pure wallet
  | none => select (leastLoaded network.id) (.valueError "no active crypto wallet for network")

def payAmount (payload : CryptoInvoiceCreate) (token : CryptoToken) (draws : InvoiceDraws) :
    Except Error ℚ :=
  if payload.address = none then suffixAmount payload.amount token.dustPrecision draws.suffix
  else .ok payload.amount

def checkCallbackUrl (runtime : Runtime) (callbackUrl : Option String) : Except Error Unit :=
  match (given callbackUrl).bind runtime.unsafeReason with
  | some reason => .error (.valueError s!"URL webhook không an toàn: {reason}")
  | none => .ok ()

/-- What `encrypt_webhook_secret` needs. -/
def checkSecretKeys (runtime : Runtime) (webhookSecret : Option String) : Except Error Unit :=
  if (given webhookSecret).isSome && !runtime.fernetKeys then
    .error (.runtimeError ("APIBANK_FERNET_KEYS chưa cấu hình; không thể lưu secret webhook " ++
      "an toàn. Chạy `apimb fernet generate` rồi cập nhật .env."))
  else .ok ()

def invoiceMetadata (payload : CryptoInvoiceCreate) (network : CryptoNetwork)
    (token : CryptoToken) : Metadata :=
  mergeMetadata [
    ("network", .text network.key),
    ("network_name", .text network.name),
    ("token", .text token.symbol),
    ("token_address", .text token.contractAddress),
    ("expire_minutes", .number payload.expireMinutes),
    ("mode", .text (if (given payload.address).isSome then "merchant_wallet"
      else "platform_wallet"))] payload.metadata

def newInvoice (payload : CryptoInvoiceCreate) (merchantId : String) (userId : Option String)
    (network : CryptoNetwork) (token : CryptoToken) (wallet : CryptoWallet) (pay : ℚ)
    (draws : InvoiceDraws) : CryptoInvoice where
  id := draws.id
  transId := draws.transId
  requestId := payload.requestId
  merchantId := merchantId
  userId := userId
  name := payload.name
  networkId := network.id
  tokenId := token.id
  walletId := wallet.id
  address := wallet.address
  requestedAmount := tokenColumn payload.amount
  payAmount := tokenColumn pay
  receivedAmount := 0
  currencyAmountVnd := payload.currencyAmountVnd.map vndColumn
  fxRate := payload.fxRate
  fxSource := payload.fxSource
  fxLockedAt := payload.fxRate.map fun _ => draws.now
  status := .waiting
  expiresAt := draws.now + seconds (payload.expireMinutes * 60)
  paidAt := none
  canceledAt := none
  callbackUrl := payload.callbackUrl
  fromAddress := none
  transactionId := none
  confirmations := 0
  metadataJson := invoiceMetadata payload network token
  createdAt := draws.now

/-- The unique `trans_id`, and `uq_crypto_invoice_merchant_request`. -/
def sameRequest (invoice other : CryptoInvoice) : Bool :=
  invoice.transId = other.transId ||
    (invoice.merchantId = other.merchantId && invoice.requestId = other.requestId)

def insertInvoice? (invoice : CryptoInvoice) (db : CryptoDb) : Option CryptoDb :=
  (db.invoices.insertUnique? sameRequest invoice).map fun invoices => { db with invoices }

def occupyWallet (walletId : String) (db : CryptoDb) : CryptoDb :=
  { db with wallets := db.wallets.modify walletId CryptoWallet.occupy CryptoWallet.id_occupy }

def releaseWalletSlot (walletId : String) (db : CryptoDb) : CryptoDb :=
  { db with wallets := db.wallets.modify walletId CryptoWallet.release CryptoWallet.id_release }

def createInvoice (runtime : Runtime) (payload : CryptoInvoiceCreate) (merchantId : String)
    (userId : Option String) (draws : InvoiceDraws) : CryptoSession CryptoInvoice := do
  match existingInvoice merchantId payload.requestId (← get) with
  | some existing =>
      if SamePayload runtime existing payload then pure existing
      else throw (.valueError "request_id reused with different payload")
  | none =>
      let pair ← outcome (getNetworkToken runtime payload.network payload.token (← get))
      if payload.amount < pair.2.minInvoiceAmount ∨ pair.2.maxInvoiceAmount < payload.amount then
        throw (.valueError "amount outside token limits")
      else
        let wallet ← chooseWallet runtime pair.1 payload.address merchantId draws
        let pay ← outcome (payAmount payload pair.2 draws)
        outcome (checkCallbackUrl runtime payload.callbackUrl)
        outcome (checkSecretKeys runtime payload.webhookSecret)
        let invoice := newInvoice payload merchantId userId pair.1 pair.2 wallet pay draws
        flush (insertInvoice? invoice)
        modify (occupyWallet wallet.id)
        pure invoice

/-- What the endings of an invoice draw: the token of a callback and the clock. -/
structure EventDraws where
  callbackId : String
  now : Int

def buildInvoiceEvent (invoice : CryptoInvoice) (eventType : String) (now : Int) :
    InvoiceEvent where
  event := eventType
  transId := invoice.transId
  requestId := invoice.requestId
  merchantId := invoice.merchantId
  amount := invoice.requestedAmount
  payAmount := invoice.payAmount
  received := invoice.receivedAmount
  token := invoice.metadataJson.lookup "token"
  network := invoice.metadataJson.lookup "network"
  address := invoice.address
  status := invoice.status
  fromAddress := invoice.fromAddress
  transactionId := invoice.transactionId
  confirmations := invoice.confirmations
  paidAt := invoice.paidAt
  timestamp := now

def newCallback (invoice : CryptoInvoice) (eventType : String) (draws : EventDraws) :
    CryptoCallback where
  id := draws.callbackId
  invoiceId := invoice.id
  eventType := eventType
  payloadJson := buildInvoiceEvent invoice eventType draws.now
  state := "pending"
  nextRetryAt := draws.now

def insertCallback? (callback : CryptoCallback) (db : CryptoDb) : Option CryptoDb :=
  (db.callbacks.insert? callback).map fun callbacks => { db with callbacks }

def enqueueInvoiceCallback (invoice : CryptoInvoice) (eventType : String) (draws : EventDraws) :
    CryptoSession Unit :=
  match given invoice.callbackUrl with
  | none => pure ()
  | some _ => flush (insertCallback? (newCallback invoice eventType draws))

def modifyInvoice (id : String) (change : CryptoInvoice → CryptoInvoice)
    (keeps : ∀ invoice, (change invoice).id = invoice.id) (db : CryptoDb) : CryptoDb :=
  { db with invoices := db.invoices.modify id change keeps }

/-- The invoice of a `trans_id`, of any merchant or of one. -/
def invoiceOf (transId : String) (merchantId : Option String) (db : CryptoDb) :
    Option CryptoInvoice :=
  db.invoices.rows.find? fun invoice =>
    invoice.transId = transId && (merchantId = none || merchantId = some invoice.merchantId)

def cancelInvoice (transId : String) (merchantId : Option String) (draws : EventDraws) :
    CryptoSession CryptoInvoice := do
  let invoice ← select (invoiceOf transId merchantId) (.valueError "invoice not found")
  if !invoice.status.isWaiting then throw (.valueError "invoice cannot be canceled")
  else
    let canceled := invoice.cancel draws.now
    modify (modifyInvoice invoice.id (CryptoInvoice.cancel draws.now)
      (CryptoInvoice.id_cancel draws.now))
    modify (releaseWalletSlot invoice.walletId)
    enqueueInvoiceCallback canceled "crypto.invoice.canceled" draws
    pure canceled

/-- One round of the loop of `expire_due_invoices`. -/
def expireInvoice (draws : CryptoInvoice → EventDraws) (invoice : CryptoInvoice) :
    CryptoSession Unit := do
  modify (modifyInvoice invoice.id CryptoInvoice.expire CryptoInvoice.id_expire)
  modify (releaseWalletSlot invoice.walletId)
  enqueueInvoiceCallback invoice.expire "crypto.invoice.expired" (draws invoice)

def dueInvoices (now : Int) (limit : Nat) (db : CryptoDb) : List CryptoInvoice :=
  (db.invoices.rows.filter fun invoice => invoice.status.isWaiting && invoice.expiresAt < now).take
    limit

def expireDueInvoices (now : Int) (limit : Nat) (callbackIds : String → String) :
    CryptoSession Nat := do
  let due := dueInvoices now limit (← get)
  due.forM (expireInvoice fun invoice => ⟨callbackIds invoice.id, now⟩)
  pure due.length

/-- What a match draws: the tokens of the credit and of the callback, and the clock. -/
structure MatchDraws where
  creditId : String
  callbackId : String
  now : Int

def MatchDraws.event (draws : MatchDraws) : EventDraws := ⟨draws.callbackId, draws.now⟩

def transferTime (transfer : CryptoChainTransfer) (now : Int) : Int := transfer.blockTime.getD now

def fits (transfer : CryptoChainTransfer) (now : Int) (invoice : CryptoInvoice) : Bool :=
  invoice.networkId = transfer.networkId && invoice.tokenId = transfer.tokenId &&
    invoice.address = transfer.toAddress && invoice.status.isWaiting &&
      invoice.createdAt ≤ transferTime transfer now &&
        transferTime transfer now ≤ invoice.expiresAt &&
          invoice.payAmount = transfer.amountDecimal

def fittingInvoice (transfer : CryptoChainTransfer) (now : Int) (db : CryptoDb) :
    Option CryptoInvoice :=
  firstBy (fun invoice other => invoice.createdAt < other.createdAt)
    (db.invoices.rows.filter (fits transfer now))

def newMatch (invoice : CryptoInvoice) (transfer : CryptoChainTransfer) : CryptoInvoiceMatch where
  invoiceId := invoice.id
  transferId := transfer.id
  matchedAmount := transfer.amountDecimal
  matchType := "exact"

def insertMatch? (paired : CryptoInvoiceMatch) (db : CryptoDb) : Option CryptoDb :=
  (db.matchRows.insert? paired).map fun matchRows => { db with matchRows }

def markTransfer (transfer : CryptoChainTransfer) (db : CryptoDb) : CryptoDb :=
  { db with
    transfers := db.transfers.modify transfer.log CryptoChainTransfer.markMatched
      CryptoChainTransfer.log_markMatched }

def cryptoTopupKey (invoiceId : String) : String := s!"crypto-topup:{invoiceId}"

theorem cryptoTopupKey_injective {first second : String}
    (same : cryptoTopupKey first = cryptoTopupKey second) : first = second := by
  have suffixes : toString first = toString second := by simpa [cryptoTopupKey] using same
  exact suffixes

def cryptoCredit (invoice : CryptoInvoice) (userId : String) (amountVnd : Int) :
    Wallet.WalletArgs where
  userId := userId
  amountVnd := amountVnd
  idempotencyKey := cryptoTopupKey invoice.id
  refKind := some "crypto_invoice"
  refId := some invoice.id
  note := some s!"Topup crypto {invoice.transId}"
  createdBy := some "system:crypto"

def creditWalletForCryptoInvoice (invoice : CryptoInvoice) (fresh : RowDefaults) :
    CryptoSession Bool :=
  if invoice.status ≠ .completed ∧ invoice.status ≠ .overpaid then pure false
  else
    match given invoice.userId, invoice.currencyAmountVnd with
    | some userId, some amountVnd => do
        let _ ← onBank (Wallet.credit (cryptoCredit invoice userId amountVnd) fresh)
        pure true
    | _, _ => pure false

/-- What follows when a transfer has been added to an invoice. -/
def announceReceipt (invoice : CryptoInvoice) (draws : MatchDraws) : CryptoSession Unit := do
  if invoice.status = .completed then
    modify (releaseWalletSlot invoice.walletId)
    let _ ← creditWalletForCryptoInvoice invoice ⟨draws.creditId, draws.now⟩
    enqueueInvoiceCallback invoice "crypto.invoice.completed" draws.event
  else enqueueInvoiceCallback invoice "crypto.invoice.partial" draws.event

def matchTransfer (transfer : CryptoChainTransfer) (draws : MatchDraws) :
    CryptoSession (Option CryptoInvoice) := do
  let db ← get
  match fittingInvoice transfer draws.now db with
  | none => pure none
  | some invoice =>
      match db.matchRows.find? (invoice.id, transfer.id) with
      | some _ => pure (some invoice)
      | none =>
          let paid := invoice.receive transfer draws.now
          flush (insertMatch? (newMatch invoice transfer))
          modify (markTransfer transfer)
          modify (modifyInvoice invoice.id (CryptoInvoice.receive transfer draws.now)
            (CryptoInvoice.id_receive transfer draws.now))
          announceReceipt paid draws
          pure (some paid)

/-- The expiry job is its loop. -/
theorem expireDueInvoices_ok {before after : CryptoDb} {now : Int} {limit count : Nat}
    {callbackIds : String → String}
    (returned : expireDueInvoices now limit callbackIds before = .ok count after) :
    (dueInvoices now limit before).forM
      (expireInvoice fun invoice => ⟨callbackIds invoice.id, now⟩) before = .ok () after := by
  unfold expireDueInvoices at returned
  obtain ⟨db, start, read, expired⟩ := (Effect.bind_ok_iff ..).mp returned
  cases read
  obtain ⟨⟨⟩, final, looped, done⟩ := (Effect.bind_ok_iff ..).mp expired
  cases done
  exact looped

theorem waiting_of_due {db : CryptoDb} {now : Int} {limit : Nat} {invoice : CryptoInvoice}
    (listed : invoice ∈ dueInvoices now limit db) :
    invoice ∈ db.invoices.rows ∧ invoice.status.isWaiting = true := by
  obtain ⟨member, due⟩ := List.mem_filter.mp (List.mem_of_mem_take listed)
  simp only [Bool.and_eq_true] at due
  exact ⟨member, due.1⟩

/-- The three ways to a wallet. -/
inductive Choice (runtime : Runtime) (network : CryptoNetwork) (address : Option String)
    (merchantId : String) (draws : InvoiceDraws) (before : CryptoDb) :
    CryptoWallet → CryptoDb → Prop where
  | supplied (text : String) (wallet : CryptoWallet) (named : given address = some text)
      (found : suppliedWallet network.id (normalizeAddress runtime text network.chainType) before =
        some wallet) : Choice runtime network address merchantId draws before wallet before
  | added (text : String) (after : CryptoDb) (named : given address = some text)
      (inserted : insertWallet? (merchantWallet network.id
        (normalizeAddress runtime text network.chainType) merchantId draws) before = some after) :
      Choice runtime network address merchantId draws before (merchantWallet network.id
        (normalizeAddress runtime text network.chainType) merchantId draws) after
  | assigned (wallet : CryptoWallet) (unnamed : given address = none)
      (least : leastLoaded network.id before = some wallet) :
      Choice runtime network address merchantId draws before wallet before

theorem chooseWallet_ok {runtime : Runtime} {network : CryptoNetwork} {address : Option String}
    {merchantId : String} {draws : InvoiceDraws} {before after : CryptoDb}
    {wallet : CryptoWallet}
    (returned : chooseWallet runtime network address merchantId draws before = .ok wallet after) :
    Choice runtime network address merchantId draws before wallet after := by
  unfold chooseWallet at returned
  cases named : given address with
  | none =>
      simp only [named] at returned
      obtain ⟨least, rfl⟩ := (select_ok_iff ..).mp returned
      exact .assigned wallet named least
  | some text =>
      simp only [named] at returned
      obtain ⟨db, start, read, looked⟩ := (Effect.bind_ok_iff ..).mp returned
      cases read
      cases found : suppliedWallet network.id
          (normalizeAddress runtime text network.chainType) before with
      | some existing =>
          simp only [found] at looked
          cases looked
          exact .supplied text _ named found
      | none =>
          simp only [found] at looked
          obtain ⟨⟨⟩, middle, flushed, rest⟩ := (Effect.bind_ok_iff ..).mp looked
          cases rest
          exact .added text _ named ((flush_ok_iff ..).mp flushed)

/-- The two ways a creation returns: the invoice of an earlier request, with nothing
changed, or a new invoice on a wallet with one slot more in use. -/
inductive Creation (runtime : Runtime) (payload : CryptoInvoiceCreate) (merchantId : String)
    (userId : Option String) (draws : InvoiceDraws) (before : CryptoDb) :
    CryptoInvoice → CryptoDb → Prop where
  | replayed (invoice : CryptoInvoice)
      (found : existingInvoice merchantId payload.requestId before = some invoice)
      (same : SamePayload runtime invoice payload) :
      Creation runtime payload merchantId userId draws before invoice before
  | opened (network : CryptoNetwork) (token : CryptoToken) (wallet : CryptoWallet) (pay : ℚ)
      (middle opened : CryptoDb)
      (unused : existingInvoice merchantId payload.requestId before = none)
      (pair : getNetworkToken runtime payload.network payload.token before = .ok (network, token))
      (choice : Choice runtime network payload.address merchantId draws before wallet middle)
      (priced : payAmount payload token draws = .ok pay)
      (inserted : insertInvoice?
        (newInvoice payload merchantId userId network token wallet pay draws) middle = some opened) :
      Creation runtime payload merchantId userId draws before
        (newInvoice payload merchantId userId network token wallet pay draws)
        (occupyWallet wallet.id opened)

theorem createInvoice_ok {runtime : Runtime} {payload : CryptoInvoiceCreate}
    {merchantId : String} {userId : Option String} {draws : InvoiceDraws}
    {before after : CryptoDb} {invoice : CryptoInvoice}
    (returned : createInvoice runtime payload merchantId userId draws before =
      .ok invoice after) :
    Creation runtime payload merchantId userId draws before invoice after := by
  unfold createInvoice at returned
  obtain ⟨db, start, read, looked⟩ := (Effect.bind_ok_iff ..).mp returned
  cases read
  cases found : existingInvoice merchantId payload.requestId before with
  | some existing =>
      simp only [found] at looked
      split at looked
      · rename_i same
        cases looked
        exact .replayed _ found same
      · cases looked
  | none =>
      simp only [found] at looked
      obtain ⟨db, start, read, asked⟩ := (Effect.bind_ok_iff ..).mp looked
      cases read
      obtain ⟨⟨network, token⟩, start, paired, bounded⟩ := (Effect.bind_ok_iff ..).mp asked
      obtain ⟨pair, rfl⟩ := (outcome_ok_iff ..).mp paired
      simp only at bounded
      split at bounded
      · cases bounded
      · obtain ⟨wallet, middle, chosen, quoted⟩ := (Effect.bind_ok_iff ..).mp bounded
        obtain ⟨pay, stay, price, checked⟩ := (Effect.bind_ok_iff ..).mp quoted
        obtain ⟨priced, rfl⟩ := (outcome_ok_iff ..).mp price
        obtain ⟨⟨⟩, stay, url, secured⟩ := (Effect.bind_ok_iff ..).mp checked
        obtain ⟨-, rfl⟩ := (outcome_ok_iff ..).mp url
        obtain ⟨⟨⟩, stay, keys, flushed⟩ := (Effect.bind_ok_iff ..).mp secured
        obtain ⟨-, rfl⟩ := (outcome_ok_iff ..).mp keys
        obtain ⟨⟨⟩, opened, insert, rest⟩ := (Effect.bind_ok_iff ..).mp flushed
        have inserted := (flush_ok_iff ..).mp insert
        cases rest
        exact .opened network token wallet pay _ opened found pair (chooseWallet_ok chosen) priced
          inserted

theorem enqueueInvoiceCallback_ok {invoice : CryptoInvoice} {eventType : String}
    {draws : EventDraws} {before after : CryptoDb}
    (returned : enqueueInvoiceCallback invoice eventType draws before = .ok () after) :
    after = { before with callbacks := after.callbacks } := by
  unfold enqueueInvoiceCallback at returned
  cases called : given invoice.callbackUrl with
  | none =>
      simp only [called] at returned
      cases returned
      rfl
  | some url =>
      simp only [called] at returned
      have inserted := (flush_ok_iff ..).mp returned
      obtain ⟨callbacks, -, rfl⟩ := Option.map_eq_some_iff.mp inserted
      rfl

/-- A waiting invoice comes to its end and gives its slot back. -/
structure Ended (change : CryptoInvoice → CryptoInvoice)
    (keeps : ∀ invoice, (change invoice).id = invoice.id) (invoice : CryptoInvoice)
    (before after : CryptoDb) : Prop where
  invoices : after.invoices = before.invoices.modify invoice.id change keeps
  frame : after = { releaseWalletSlot invoice.walletId before with
    invoices := after.invoices
    callbacks := after.callbacks }

theorem cancelInvoice_ok {transId : String} {merchantId : Option String} {draws : EventDraws}
    {before after : CryptoDb} {canceled : CryptoInvoice}
    (returned : cancelInvoice transId merchantId draws before = .ok canceled after) :
    ∃ invoice, invoiceOf transId merchantId before = some invoice ∧
      invoice.status.isWaiting = true ∧
        Ended (CryptoInvoice.cancel draws.now) (CryptoInvoice.id_cancel draws.now) invoice before
          after := by
  unfold cancelInvoice at returned
  obtain ⟨invoice, middle, selected, rest⟩ := (Effect.bind_ok_iff ..).mp returned
  obtain ⟨found, rfl⟩ := (select_ok_iff ..).mp selected
  split at rest
  · cases rest
  · rename_i waiting
    simp only [bind, EStateM.bind, Effect.modify_apply] at rest
    split at rest
    · rename_i enqueued
      cases rest
      have callbacks := enqueueInvoiceCallback_ok enqueued
      refine ⟨invoice, found, by simpa using waiting, ?_, callbacks ▸ rfl⟩
      rw [callbacks]
      rfl
    · cases rest

theorem expireInvoice_ok {draws : CryptoInvoice → EventDraws} {invoice : CryptoInvoice}
    {before after : CryptoDb} (returned : expireInvoice draws invoice before = .ok () after) :
    Ended CryptoInvoice.expire CryptoInvoice.id_expire invoice before after := by
  unfold expireInvoice at returned
  simp only [bind, EStateM.bind, Effect.modify_apply] at returned
  have callbacks := enqueueInvoiceCallback_ok returned
  refine ⟨?_, callbacks ▸ rfl⟩
  rw [callbacks]
  rfl

theorem creditWallet_ok {invoice : CryptoInvoice} {fresh : RowDefaults}
    {before after : CryptoDb} {credited : Bool}
    (returned : creditWalletForCryptoInvoice invoice fresh before = .ok credited after) :
    after = before ∨ ∃ userId amountVnd row bank, given invoice.userId = some userId ∧
      invoice.currencyAmountVnd = some amountVnd ∧
        Wallet.credit (cryptoCredit invoice userId amountVnd) fresh before.bank = .ok row bank ∧
          after = { before with bank } := by
  unfold creditWalletForCryptoInvoice at returned
  split at returned
  · cases returned
    exact .inl rfl
  · cases payee : given invoice.userId with
    | none =>
        simp only [payee] at returned
        cases returned
        exact .inl rfl
    | some userId =>
        cases priced : invoice.currencyAmountVnd with
        | none =>
            simp only [payee, priced] at returned
            cases returned
            exact .inl rfl
        | some amountVnd =>
            simp only [payee, priced] at returned
            obtain ⟨row, middle, credit, rest⟩ := (Effect.bind_ok_iff ..).mp returned
            cases rest
            obtain ⟨bank, posted, rfl⟩ := (onBank_ok_iff ..).mp credit
            exact .inr ⟨userId, amountVnd, row, bank, rfl, rfl, posted, rfl⟩

def Credited (invoice : CryptoInvoice) (draws : MatchDraws) (before after : Database) : Prop :=
  after = before ∨ ∃ userId amountVnd row, given invoice.userId = some userId ∧
    invoice.currencyAmountVnd = some amountVnd ∧
      Wallet.credit (cryptoCredit invoice userId amountVnd) ⟨draws.creditId, draws.now⟩ before =
        .ok row after

theorem announceReceipt_ok {invoice : CryptoInvoice} {draws : MatchDraws}
    {before after : CryptoDb} (returned : announceReceipt invoice draws before = .ok () after) :
    (after.wallets = before.wallets ∨
        after.wallets = (releaseWalletSlot invoice.walletId before).wallets) ∧
      Credited invoice draws before.bank after.bank ∧
        after = { before with
          bank := after.bank
          wallets := after.wallets
          callbacks := after.callbacks } := by
  unfold announceReceipt at returned
  split at returned
  · simp only [bind, EStateM.bind, Effect.modify_apply] at returned
    split at returned
    · rename_i credit
      have callbacks := enqueueInvoiceCallback_ok returned
      rw [callbacks]
      rcases creditWallet_ok credit with rfl | ⟨userId, amountVnd, row, bank, payee, priced,
        posted, rfl⟩
      · exact ⟨.inr rfl, .inl rfl, rfl⟩
      · exact ⟨.inr rfl, .inr ⟨userId, amountVnd, row, payee, priced, posted⟩, rfl⟩
    · cases returned
  · rw [enqueueInvoiceCallback_ok returned]
    exact ⟨.inl rfl, .inl rfl, rfl⟩

/-- A transfer is added to the oldest waiting invoice it fits. -/
structure Paid (transfer : CryptoChainTransfer) (draws : MatchDraws) (before : CryptoDb)
    (invoice : CryptoInvoice) (after : CryptoDb) : Prop where
  fitting : fittingInvoice transfer draws.now before = some invoice
  unpaired : before.matchRows.find? (invoice.id, transfer.id) = none
  inserted : before.matchRows.insert? (newMatch invoice transfer) = some after.matchRows
  transfers : after.transfers = (markTransfer transfer before).transfers
  invoices : after.invoices = before.invoices.modify invoice.id
    (CryptoInvoice.receive transfer draws.now) (CryptoInvoice.id_receive transfer draws.now)
  wallets : after.wallets = before.wallets ∨
    after.wallets = (releaseWalletSlot invoice.walletId before).wallets
  credited : Credited (invoice.receive transfer draws.now) draws before.bank after.bank
  frame : after = { before with
    bank := after.bank
    wallets := after.wallets
    invoices := after.invoices
    transfers := after.transfers
    matchRows := after.matchRows
    callbacks := after.callbacks }

/-- A match touches nothing only when there is nothing to pay. -/
theorem matchTransfer_cases {transfer : CryptoChainTransfer} {draws : MatchDraws}
    {before after : CryptoDb} {result : Option CryptoInvoice}
    (returned : matchTransfer transfer draws before = .ok result after) :
    (after = before ∧ ∀ invoice, fittingInvoice transfer draws.now before = some invoice →
        (before.matchRows.find? (invoice.id, transfer.id)).isSome = true) ∨
      ∃ invoice, Paid transfer draws before invoice after := by
  unfold matchTransfer at returned
  obtain ⟨db, middle, read, rest⟩ := (Effect.bind_ok_iff ..).mp returned
  cases read
  cases fitting : fittingInvoice transfer draws.now before with
  | none =>
      simp only [fitting] at rest
      cases rest
      refine .inl ⟨rfl, ?_⟩
      intro invoice found
      cases found
  | some invoice =>
      simp only [fitting] at rest
      cases paired : before.matchRows.find? (invoice.id, transfer.id) with
      | some existing =>
          simp only [paired] at rest
          cases rest
          refine .inl ⟨rfl, ?_⟩
          intro other found
          obtain rfl : invoice = other := Option.some.inj found
          rw [paired]
          rfl
      | none =>
          simp only [paired] at rest
          obtain ⟨⟨⟩, recorded, flushed, rest⟩ := (Effect.bind_ok_iff ..).mp rest
          obtain ⟨matchRows, inserted, rfl⟩ :=
            Option.map_eq_some_iff.mp ((flush_ok_iff ..).mp flushed)
          simp only [bind, EStateM.bind, Effect.modify_apply] at rest
          split at rest
          · rename_i announced
            cases rest
            obtain ⟨wallets, credited, frame⟩ := announceReceipt_ok announced
            refine .inr ⟨invoice, fitting, paired, ?_, ?_, ?_, wallets, credited, ?_⟩
            · rw [frame]
              exact inserted
            · rw [frame]
              rfl
            · rw [frame]
              rfl
            · rw [frame]
              rfl
          · cases rest

theorem matchTransfer_ok {transfer : CryptoChainTransfer} {draws : MatchDraws}
    {before after : CryptoDb} {result : Option CryptoInvoice}
    (returned : matchTransfer transfer draws before = .ok result after) :
    after = before ∨ ∃ invoice, Paid transfer draws before invoice after :=
  (matchTransfer_cases returned).imp_left And.left

theorem announced_of_paid {transfer : CryptoChainTransfer} {draws : MatchDraws}
    {before after : CryptoDb} {invoice : CryptoInvoice} {result : Option CryptoInvoice}
    (payment : Paid transfer draws before invoice after)
    (returned : matchTransfer transfer draws before = .ok result after) :
    ∃ matchRows, announceReceipt (invoice.receive transfer draws.now) draws
      (modifyInvoice invoice.id (CryptoInvoice.receive transfer draws.now)
        (CryptoInvoice.id_receive transfer draws.now)
          (markTransfer transfer { before with matchRows })) = .ok () after := by
  unfold matchTransfer at returned
  obtain ⟨db, middle, read, rest⟩ := (Effect.bind_ok_iff ..).mp returned
  cases read
  simp only [payment.fitting, payment.unpaired] at rest
  obtain ⟨⟨⟩, recorded, flushed, rest⟩ := (Effect.bind_ok_iff ..).mp rest
  obtain ⟨matchRows, -, rfl⟩ := Option.map_eq_some_iff.mp ((flush_ok_iff ..).mp flushed)
  obtain ⟨⟨⟩, marked, mark, rest⟩ := (Effect.bind_ok_iff ..).mp rest
  cases mark
  obtain ⟨⟨⟩, received, receive, rest⟩ := (Effect.bind_ok_iff ..).mp rest
  cases receive
  obtain ⟨⟨⟩, final, announced, done⟩ := (Effect.bind_ok_iff ..).mp rest
  cases done
  exact ⟨matchRows, announced⟩

theorem mem_of_fitting {transfer : CryptoChainTransfer} {now : Int} {db : CryptoDb}
    {invoice : CryptoInvoice} (fitting : fittingInvoice transfer now db = some invoice) :
    invoice ∈ db.invoices.rows ∧ fits transfer now invoice = true :=
  List.mem_filter.mp (mem_of_firstBy fitting)

end ApiBank.Crypto.Invoices
