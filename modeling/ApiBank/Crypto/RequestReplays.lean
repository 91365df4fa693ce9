import ApiBank.Crypto.InvoiceTurns

/-!
# Repeated requests

A `request_id` belongs to the first request of a merchant that carries it. What a later
request is compared with are columns of that invoice and two texts of its metadata; what
it can differ in is more than that.
-/

namespace ApiBank.Crypto.RequestReplays

open ApiBank.Db ApiBank.Relational ApiBank.Transition Invoices InvoiceTurns Operations

set_option autoImplicit false

variable {runtime : Runtime} {before after : CryptoDb}

/-! ## The row of a request -/

/-- A row as it was when it was new: all that is written later is set back. -/
def issued (invoice : CryptoInvoice) : CryptoInvoice :=
  { invoice with
    status := .waiting
    receivedAmount := 0
    paidAt := none
    canceledAt := none
    fromAddress := none
    transactionId := none
    confirmations := 0 }

@[simp] theorem issued_cancel (now : Int) (invoice : CryptoInvoice) :
    issued (invoice.cancel now) = issued invoice := rfl

@[simp] theorem issued_expire (invoice : CryptoInvoice) :
    issued invoice.expire = issued invoice := rfl

@[simp] theorem issued_receive (transfer : CryptoChainTransfer) (now : Int)
    (invoice : CryptoInvoice) : issued (invoice.receive transfer now) = issued invoice := rfl

@[simp] theorem issued_forceComplete (invoice : CryptoInvoice) :
    issued (forceComplete invoice) = issued invoice := rfl

def Stands (invoice : CryptoInvoice) (db : CryptoDb) : Prop :=
  ∃ row, existingInvoice invoice.merchantId invoice.requestId db = some row ∧
    issued row = issued invoice

section Rows

variable {invoice : CryptoInvoice}

theorem stands_of_same (stands : Stands invoice before)
    (same : after.invoices = before.invoices) : Stands invoice after := by
  unfold Stands existingInvoice
  rw [same]
  exact stands

theorem stands_of_append {added : List CryptoInvoice} (stands : Stands invoice before)
    (rows : after.invoices.rows = before.invoices.rows ++ added) : Stands invoice after := by
  obtain ⟨row, found, same⟩ := stands
  unfold existingInvoice at found
  refine ⟨row, ?_, same⟩
  rw [existingInvoice, rows, List.find?_append, found]
  rfl

theorem existing_of_append {row : CryptoInvoice}
    (unused : existingInvoice row.merchantId row.requestId before = none)
    (rows : after.invoices.rows = before.invoices.rows ++ [row]) :
    existingInvoice row.merchantId row.requestId after = some row := by
  unfold existingInvoice at unused
  rw [existingInvoice, rows, List.find?_append, unused]
  simp

theorem stands_of_modify {id : String} {change : CryptoInvoice → CryptoInvoice}
    {keeps : ∀ invoice, (change invoice).id = invoice.id} (stands : Stands invoice before)
    (reissued : ∀ row, issued (change row) = issued row)
    (written : after.invoices = before.invoices.modify id change keeps) :
    Stands invoice after := by
  obtain ⟨row, found, same⟩ := stands
  unfold existingInvoice at found
  let write (row : CryptoInvoice) := if row.id = id then change row else row
  have kept (row : CryptoInvoice) : issued (write row) = issued row := by
    dsimp only [write]
    split
    · exact reissued row
    · rfl
  have answers : (fun row => (write row).merchantId = invoice.merchantId &&
      (write row).requestId = invoice.requestId) =
        fun row : CryptoInvoice => (row.merchantId = invoice.merchantId &&
          row.requestId = invoice.requestId : Bool) := by
    funext row
    have merchant : (write row).merchantId = row.merchantId :=
      (congrArg CryptoInvoice.merchantId (kept row) :)
    have request : (write row).requestId = row.requestId :=
      (congrArg CryptoInvoice.requestId (kept row) :)
    rw [merchant, request]
  refine ⟨write row, ?_, (kept row).trans same⟩
  rw [existingInvoice, written, Table.modify, Table.rows_update, List.find?_map,
    Function.comp_def, answers, found]
  rfl

theorem stands_of_turn (stands : Stands invoice before) (turn : Turn before after) :
    Stands invoice after := by
  cases turn with
  | ended change keeps ended after kind found waiting ending =>
      apply stands_of_modify stands ?_ ending.invoices
      rcases kind with rfl | ⟨now, rfl⟩
      · exact issued_expire
      · exact issued_cancel now
  | recorded transfer after inserted =>
      obtain ⟨-, -, same⟩ := transfers_of_recorded inserted
      apply stands_of_same stands
      rw [same]
  | received transfer draws paid after found waiting receipt =>
      exact stands_of_modify stands (issued_receive transfer draws.now) receipt.payment.invoices
  | noted cursors rpcEndpoints => exact stands

theorem rows_of_opened {payload : CryptoInvoiceCreate} {merchantId : String}
    {draws : InvoiceDraws} {network : CryptoNetwork} {wallet : CryptoWallet}
    {opening : CryptoInvoice} {middle opened : CryptoDb}
    (choice : Choice runtime network payload.address merchantId draws before wallet middle)
    (inserted : insertInvoice? opening middle = some opened) :
    (occupyWallet wallet.id opened).invoices.rows = before.invoices.rows ++ [opening] := by
  obtain ⟨invoices, accepted, rfl⟩ := Option.map_eq_some_iff.mp inserted
  obtain ⟨-, grown⟩ := (Table.insertUnique?_eq_some_iff ..).mp accepted
  rw [frame_of_choice choice] at grown
  exact Table.rows_of_insert? grown

theorem stands_of_attended {op : Op} (stands : Stands invoice before)
    (attended : Attended runtime before op after) : Stands invoice after := by
  cases attended with
  | created payload merchantId userId draws invoice after returned =>
      cases createInvoice_ok returned with
      | replayed invoice found same => exact stands
      | opened network token wallet pay middle opened unused pair choice priced inserted =>
          exact stands_of_append stands (rows_of_opened choice inserted)
  | registered payload fresh network after inserted =>
      obtain ⟨wallets, -, rfl⟩ := Option.map_eq_some_iff.mp inserted
      exact stands
  | turned op after turns =>
      exact turns_keep (fun _ _ stands turn => stands_of_turn stands turn) stands turns

theorem stands_of_attend {op : DeskOp} (stands : Stands invoice before) :
    Stands invoice (attend runtime before op) := by
  cases op with
  | request op => exact stands_of_attended stands (attended_of_serve runtime before op)
  | adminForceCompleteInvoice invoiceId =>
      cases found : before.invoices.find? invoiceId with
      | none =>
          rw [attend_missing found]
          exact stands
      | some forced =>
          rw [attend_forced found]
          have written : (modifyInvoice forced.id forceComplete id_forceComplete before).invoices =
              before.invoices.modify forced.id forceComplete id_forceComplete := rfl
          exact stands_of_modify stands issued_forceComplete written

theorem stands_throughout (ops : List DeskOp) (stands : Stands invoice before) :
    Stands invoice (ops.foldl (attend runtime) before) := by
  have run := Run.of_computed (attend runtime) before ops
  apply run.invariant (Stands invoice) stands
  intro state op next stands taken
  rw [taken]
  exact stands_of_attend stands

end Rows

/-! ## What is compared -/

/-- A request that opened an invoice. -/
structure Opening (runtime : Runtime) where
  before : CryptoDb
  payload : CryptoInvoiceCreate
  merchantId : String
  userId : Option String
  draws : InvoiceDraws
  network : CryptoNetwork
  token : CryptoToken
  invoice : CryptoInvoice
  after : CryptoDb
  unused : existingInvoice merchantId payload.requestId before = none
  pair : getNetworkToken runtime payload.network payload.token before = .ok (network, token)
  returned : createInvoice runtime payload merchantId userId draws before = .ok invoice after

/-- What a request asks for, on a network of some chain type. -/
structure Terms where
  amount : ℚ
  name : String
  network : String
  token : String
  address : Option String
  currencyAmountVnd : Option ℚ
  callbackUrl : Option String
deriving DecidableEq

def termsOf (runtime : Runtime) (chainType : String) (payload : CryptoInvoiceCreate) : Terms where
  amount := payload.amount
  name := payload.name
  network := runtime.lowerText payload.network
  token := runtime.upperText payload.token
  address := (given payload.address).map fun text => normalizeAddress runtime text chainType
  currencyAmountVnd := payload.currencyAmountVnd
  callbackUrl := given payload.callbackUrl

/-- The text that stands under a key once the metadata of a request is merged in. -/
def recordedText (metadata : Metadata) (key own : String) : Option String :=
  if (metadata.lookup key).isNone then some own else textField metadata key

namespace Opening

variable (opening : Opening runtime)

def terms (payload : CryptoInvoiceCreate) : Terms :=
  termsOf runtime opening.network.chainType payload

/-- The amount fits its column, and the metadata says nothing else of network and token. -/
structure Faithful : Prop where
  amount : tokenColumn opening.payload.amount = opening.payload.amount
  network : recordedText opening.payload.metadata "network" opening.network.key =
    some opening.network.key
  token : recordedText opening.payload.metadata "token" opening.token.symbol =
    some opening.token.symbol

/-- The later request names the amount of the column and the texts of the metadata. -/
structure Passes (again : CryptoInvoiceCreate) : Prop where
  amount : again.amount = tokenColumn opening.payload.amount
  name : again.name = opening.payload.name
  network : recordedText opening.payload.metadata "network" opening.network.key =
    some (runtime.lowerText again.network)
  token : recordedText opening.payload.metadata "token" opening.token.symbol =
    some (runtime.upperText again.token)

/-- The later request agrees with the first in amount, name, network and token. -/
structure Resembles (again : CryptoInvoiceCreate) : Prop where
  amount : again.amount = opening.payload.amount
  name : again.name = opening.payload.name
  network : runtime.lowerText again.network = runtime.lowerText opening.payload.network
  token : runtime.upperText again.token = runtime.upperText opening.payload.token

/-- A repeat is answered with the row of the first request, and a request that asks for
something else is refused; neither changes anything. -/
structure Honours (db : CryptoDb) (again : CryptoInvoiceCreate) : Prop where
  repeated : again = opening.payload → ∀ userId draws, ∃ row,
    db.invoices.find? opening.invoice.id = some row ∧
      createInvoice runtime again opening.merchantId userId draws db = .ok row db
  refused : opening.terms again ≠ opening.terms opening.payload → ∀ userId draws, ∃ failure,
    createInvoice runtime again opening.merchantId userId draws db = .error failure db

/-- With a faithful record, a request that agrees in what is compared agrees in all it
asks for; with another record, it is not the first request and does not name what was
recorded. -/
structure Told (again : CryptoInvoiceCreate) : Prop where
  faithful : opening.Faithful → opening.Resembles again →
    opening.terms again = opening.terms opening.payload
  unfaithful : ¬opening.Faithful → again ≠ opening.payload ∧ ¬opening.Passes again

end Opening

theorem lookup_filter {metadata extra : Metadata} {key : String}
    (absent : extra.lookup key = none) :
    (metadata.filter fun field => (extra.lookup field.1).isNone).lookup key =
      metadata.lookup key := by
  induction metadata with
  | nil => rfl
  | cons field rest ih =>
      obtain ⟨name, value⟩ := field
      by_cases same : key = name
      · subst same
        simp [absent]
      · have other : (key == name) = false := by simpa using same
        rw [List.filter_cons, List.lookup_cons, other]
        split
        · rw [List.lookup_cons, other]
          exact ih
        · exact ih

theorem lookup_filter_taken {metadata extra : Metadata} {key : String}
    (taken : (extra.lookup key).isNone = false) :
    (metadata.filter fun field => (extra.lookup field.1).isNone).lookup key = none := by
  apply List.lookup_eq_none_iff.mpr
  intro field member
  obtain ⟨-, untaken⟩ := List.mem_filter.mp member
  by_contra same
  have key_eq : key = field.1 := by simpa using same
  rw [← key_eq, taken] at untaken
  cases untaken

/-- A merged object has the later value of a key, and else the earlier one. -/
theorem lookup_merge (base extra : Metadata) (key : String) :
    (mergeMetadata base extra).lookup key = (extra.lookup key).or (base.lookup key) := by
  unfold mergeMetadata
  rw [List.lookup_append]
  cases own : extra.lookup key with
  | none => rw [lookup_filter own, Option.or_none, Option.none_or]
  | some value =>
      rw [lookup_filter_taken (by rw [own]; rfl)]
      rfl

theorem textField_merge (base extra : Metadata) (key own : String)
    (mine : base.lookup key = some (.text own)) :
    textField (mergeMetadata base extra) key = recordedText extra key own := by
  unfold textField recordedText
  rw [lookup_merge, mine]
  cases taken : extra.lookup key with
  | none => rfl
  | some value =>
      simp only [Option.isNone_some, Bool.false_eq_true, if_false, textField, taken]
      rfl

theorem names_of_pair {payload : CryptoInvoiceCreate} {network : CryptoNetwork}
    {token : CryptoToken} {db : CryptoDb}
    (pair : getNetworkToken runtime payload.network payload.token db = .ok (network, token)) :
    network.key = runtime.lowerText payload.network ∧
      token.symbol = runtime.upperText payload.token := by
  unfold getNetworkToken at pair
  split at pair
  · cases pair
  · rename_i found
    split at pair
    · cases pair
    · rename_i listed
      cases pair
      have keyed := List.find?_some found
      have named := List.find?_some listed
      simp only [Bool.and_eq_true, decide_eq_true_eq] at keyed named
      exact ⟨keyed.1, named.1.2⟩

namespace Opening

variable (opening : Opening runtime)

theorem opened : ∃ wallet pay, opening.invoice = newInvoice opening.payload opening.merchantId
    opening.userId opening.network opening.token wallet pay opening.draws ∧
      Stands opening.invoice opening.after := by
  have creation := createInvoice_ok opening.returned
  generalize row_eq : opening.invoice = row at creation
  generalize after_eq : opening.after = after at creation
  cases creation with
  | replayed invoice found same =>
      rw [opening.unused] at found
      cases found
  | opened network token wallet pay middle opened unused pair choice priced inserted =>
      have same := opening.pair.symm.trans pair
      cases same
      refine ⟨wallet, pay, rfl, _, ?_, rfl⟩
      exact existing_of_append opening.unused (rows_of_opened choice inserted)

theorem stands (ops : List DeskOp) :
    Stands opening.invoice (ops.foldl (attend runtime) opening.after) := by
  obtain ⟨wallet, pay, -, stands⟩ := opening.opened
  exact stands_throughout ops stands

/-- What the code compares, told by the payloads. -/
theorem same_iff {row : CryptoInvoice} (same : issued row = issued opening.invoice)
    (again : CryptoInvoiceCreate) : SamePayload runtime row again ↔ opening.Passes again := by
  obtain ⟨wallet, pay, issue, -⟩ := opening.opened
  rw [issue] at same
  have amount : row.requestedAmount = tokenColumn opening.payload.amount :=
    congrArg CryptoInvoice.requestedAmount same
  have name : row.name = opening.payload.name := congrArg CryptoInvoice.name same
  have metadata : row.metadataJson =
      invoiceMetadata opening.payload opening.network opening.token :=
    congrArg CryptoInvoice.metadataJson same
  have network : textField row.metadataJson "network" =
      recordedText opening.payload.metadata "network" opening.network.key := by
    rw [metadata]
    exact textField_merge _ _ _ _ rfl
  have token : textField row.metadataJson "token" =
      recordedText opening.payload.metadata "token" opening.token.symbol := by
    rw [metadata]
    exact textField_merge _ _ _ _ rfl
  unfold SamePayload
  rw [amount, name, network, token]
  constructor
  · intro agrees
    exact ⟨agrees.1.symm, agrees.2.1.symm, agrees.2.2.1, agrees.2.2.2⟩
  · intro passes
    exact ⟨passes.amount.symm, passes.name.symm, passes.network, passes.token⟩

/-- With the request on record nothing is written, whatever the answer. -/
theorem answer {db : CryptoDb} {row : CryptoInvoice} {again : CryptoInvoiceCreate}
    (found : existingInvoice opening.merchantId again.requestId db = some row)
    (userId : Option String) (draws : InvoiceDraws) :
    createInvoice runtime again opening.merchantId userId draws db =
      if SamePayload runtime row again then .ok row db
      else .error (.valueError "request_id reused with different payload") db := by
  simp only [createInvoice, bind, EStateM.bind, Effect.get_apply, found]
  split <;> rfl

theorem passes_iff_resembles (faithful : opening.Faithful) (again : CryptoInvoiceCreate) :
    opening.Passes again ↔ opening.Resembles again := by
  obtain ⟨key, symbol⟩ := names_of_pair opening.pair
  constructor
  · intro passes
    refine ⟨passes.amount.trans faithful.amount, passes.name, ?_, ?_⟩
    · rw [← key]
      exact Option.some.inj (passes.network.symm.trans faithful.network)
    · rw [← symbol]
      exact Option.some.inj (passes.token.symm.trans faithful.token)
  · intro resembles
    refine ⟨resembles.amount.trans faithful.amount.symm, resembles.name, ?_, ?_⟩
    · rw [resembles.network, ← key]
      exact faithful.network
    · rw [resembles.token, ← symbol]
      exact faithful.token

theorem faithful_of_passes {again : CryptoInvoiceCreate} (passes : opening.Passes again)
    (same : opening.terms again = opening.terms opening.payload) : opening.Faithful := by
  obtain ⟨key, symbol⟩ := names_of_pair opening.pair
  have amount : again.amount = opening.payload.amount := congrArg Terms.amount same
  have network : runtime.lowerText again.network = runtime.lowerText opening.payload.network :=
    congrArg Terms.network same
  have token : runtime.upperText again.token = runtime.upperText opening.payload.token :=
    congrArg Terms.token same
  refine ⟨passes.amount.symm.trans amount, ?_, ?_⟩
  · rw [passes.network, network, key]
  · rw [passes.token, token, symbol]

theorem told_iff (again : CryptoInvoiceCreate) : opening.Told again ↔
    (again = opening.payload → opening.Passes again) ∧
      (opening.terms again ≠ opening.terms opening.payload → ¬opening.Passes again) := by
  constructor
  · intro told
    by_cases faithful : opening.Faithful
    · constructor
      · intro repeated
        rw [opening.passes_iff_resembles faithful, repeated]
        exact ⟨rfl, rfl, rfl, rfl⟩
      · intro differs passes
        have resembles := (opening.passes_iff_resembles faithful again).mp passes
        exact differs (told.faithful faithful resembles)
    · obtain ⟨other, stopped⟩ := told.unfaithful faithful
      exact ⟨fun repeated => absurd repeated other, fun _ => stopped⟩
  · intro answered
    constructor
    · intro faithful resembles
      by_contra differs
      exact answered.2 differs ((opening.passes_iff_resembles faithful again).mpr resembles)
    · intro unfaithful
      constructor
      · intro repeated
        exact unfaithful (opening.faithful_of_passes (answered.1 repeated) (repeated ▸ rfl))
      · intro passes
        by_cases same : opening.terms again = opening.terms opening.payload
        · exact unfaithful (opening.faithful_of_passes passes same)
        · exact answered.2 same passes

/-- After any requests, among them any number of repeats, a later request is answered as
it should be just when the record can tell it from the first. -/
theorem honours_iff {again : CryptoInvoiceCreate}
    (sameId : again.requestId = opening.payload.requestId) (ops : List DeskOp) :
    opening.Honours (ops.foldl (attend runtime) opening.after) again ↔ opening.Told again := by
  obtain ⟨row, found, same⟩ := opening.stands ops
  obtain ⟨wallet, pay, issue, -⟩ := opening.opened
  have merchant : opening.invoice.merchantId = opening.merchantId := by
    rw [issue]
    rfl
  have request : opening.invoice.requestId = again.requestId := by
    rw [sameId, issue]
    rfl
  rw [merchant, request] at found
  have stored : (ops.foldl (attend runtime) opening.after).invoices.find? opening.invoice.id =
      some row := by
    have named : row.id = opening.invoice.id := (congrArg CryptoInvoice.id same :)
    rw [← named]
    exact Table.find?_of_mem (List.mem_of_find?_eq_some found)
  have compared := opening.same_iff same again
  rw [opening.told_iff]
  constructor
  · intro honours
    constructor
    · intro repeated
      obtain ⟨returned, -, answered⟩ := honours.repeated repeated none opening.draws
      rw [opening.answer found] at answered
      split at answered
      · rename_i agrees
        exact compared.mp agrees
      · cases answered
    · intro differs passes
      obtain ⟨failure, answered⟩ := honours.refused differs none opening.draws
      rw [opening.answer found, if_pos (compared.mpr passes)] at answered
      cases answered
  · intro told
    constructor
    · intro repeated userId draws
      have agrees := compared.mpr (told.1 repeated)
      exact ⟨row, stored, by rw [opening.answer found, if_pos agrees]⟩
    · intro differs userId draws
      have disagrees := mt compared.mp (told.2 differs)
      exact ⟨_, by rw [opening.answer found, if_neg disagrees]⟩

end Opening

def announcedOrder (callbackUrl : String) : CryptoInvoiceCreate :=
  { order "r1" (some merchantAddress) with callbackUrl := some callbackUrl }

def ownWallet : CryptoWallet := merchantWallet "n1" merchantAddress "m1" (drawsAt 1 "i1" "w1")

def announcedInvoice : CryptoInvoice :=
  newInvoice (announcedOrder "https://shop.example/paid") "m1" none bsc usdt ownWallet 10
    (drawsAt 1 "i1" "w1")

def announcedOpening : Opening .ascii where
  before := market
  payload := announcedOrder "https://shop.example/paid"
  merchantId := "m1"
  userId := none
  draws := drawsAt 1 "i1" "w1"
  network := bsc
  token := usdt
  invoice := announcedInvoice
  after := { market with
    wallets := ⟨[ownWallet.occupy], by decide⟩
    invoices := ⟨[announcedInvoice], by simp⟩ }
  unused := rfl
  pair := rfl
  returned := rfl

theorem ten_fits : tokenColumn 10 = 10 := by decide +kernel

/-- A repeat is answered, also after another repeat. -/
theorem announced_order_honoured : announcedOpening.Honours
    (([.request (.createInvoice announcedOpening.payload "m1" none (drawsAt 5 "i2" "w2"))] :
      List DeskOp).foldl (attend .ascii) announcedOpening.after) announcedOpening.payload := by
  apply (announcedOpening.honours_iff rfl _).mpr
  constructor
  · intro faithful resembles
    rfl
  · intro unfaithful
    have faithful : announcedOpening.Faithful := ⟨ten_fits, rfl, rfl⟩
    exact absurd faithful unfaithful

/-- The same order with another callback URL is answered with the first one's invoice. -/
theorem other_callback_accepted : ¬∀ (runtime : Runtime) (opening : Opening runtime)
    (again : CryptoInvoiceCreate) (ops : List DeskOp),
      again.requestId = opening.payload.requestId →
        opening.Honours (ops.foldl (attend runtime) opening.after) again := by
  intro always
  have honours := always .ascii announcedOpening (announcedOrder "https://shop.example/lost") [] rfl
  have differs : announcedOpening.terms (announcedOrder "https://shop.example/lost") ≠
      announcedOpening.terms announcedOpening.payload := by
    intro same
    have urls := congrArg Terms.callbackUrl same
    revert urls
    decide
  obtain ⟨failure, refused⟩ := honours.refused differs none (drawsAt 2 "i2" "w2")
  have row : existingInvoice announcedOpening.merchantId
      (announcedOrder "https://shop.example/lost").requestId announcedOpening.after =
        some announcedInvoice := rfl
  have amount : tokenColumn 10 = 10 := ten_fits
  have agrees : SamePayload .ascii announcedInvoice (announcedOrder "https://shop.example/lost") :=
    ⟨amount, rfl, rfl, rfl⟩
  have answered := (announcedOpening.answer row none (drawsAt 2 "i2" "w2")).trans (if_pos agrees)
  cases answered.symm.trans refused

end ApiBank.Crypto.RequestReplays
