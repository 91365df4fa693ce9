import ApiBank.Crypto.Watchers
import ApiBank.Transition.Run
import Mathlib.Logic.Relation

/-!
# Crypto requests

Every request, scan and reconciliation that writes to the crypto tables, each on its
own session: committed when it returns, discarded when it raises.
-/

namespace ApiBank.Crypto.Operations

open ApiBank.Db ApiBank.Relational ApiBank.Transition Invoices Watchers

set_option autoImplicit false

structure CryptoWalletCreate where
  network : String
  address : String
  ownerType : String
  ownerId : Option String
  label : Option String
  maxActiveInvoices : Int
deriving DecidableEq, Repr

def networkOf (runtime : Runtime) (networkKey : String) (db : CryptoDb) : Option CryptoNetwork :=
  db.networks.rows.find? fun network => network.key = runtime.lowerText networkKey

def registeredWallet (runtime : Runtime) (payload : CryptoWalletCreate) (network : CryptoNetwork)
    (fresh : RowDefaults) : CryptoWallet where
  id := fresh.id
  ownerType := payload.ownerType
  ownerId := payload.ownerId
  networkId := network.id
  address :=
    if network.chainType = "evm" then runtime.lowerText payload.address else payload.address
  label := payload.label
  status := "active"
  maxActiveInvoices := payload.maxActiveInvoices
  activeInvoiceCount := 0
  createdAt := fresh.now

def adminCreateWallet (runtime : Runtime) (payload : CryptoWalletCreate) (fresh : RowDefaults) :
    CryptoSession CryptoWallet := do
  let network ← select (networkOf runtime payload.network)
    (.httpException 404 "network not found")
  let wallet := registeredWallet runtime payload network fresh
  flush (insertWallet? wallet)
  pure wallet

inductive Op where
  | createInvoice (payload : CryptoInvoiceCreate) (merchantId : String) (userId : Option String)
      (draws : InvoiceDraws)
  | cancelInvoice (transId : String) (merchantId : Option String) (draws : EventDraws)
  | expireDueInvoices (now : Int) (limit : Nat) (callbackIds : String → String)
  | adminCreateWallet (payload : CryptoWalletCreate) (fresh : RowDefaults)
  | scanTokenLogs (scope : Scope) (toBlock : Int) (logs : List (EvmLog × ScanDraws))
  | runEvmOnce (scope : Scope) (startBlock : Int) (chain : Chain) (now : Int)
  | ingestTronEvents (scope : Scope) (events : List (TronEvent × ScanDraws))
  | reconcileInvoice (invoiceId : String) (draws : String → MatchDraws)
  | reconcileTxHash (txHash : String) (draws : String → MatchDraws)

def perform (runtime : Runtime) (op : Op) : CryptoSession Unit :=
  match op with
  | .createInvoice payload merchantId userId draws =>
      Effect.discard (createInvoice runtime payload merchantId userId draws)
  | .cancelInvoice transId merchantId draws => Effect.discard (cancelInvoice transId merchantId draws)
  | .expireDueInvoices now limit callbackIds =>
      Effect.discard (expireDueInvoices now limit callbackIds)
  | .adminCreateWallet payload fresh => Effect.discard (adminCreateWallet runtime payload fresh)
  | .scanTokenLogs scope toBlock logs => do
      Effect.discard (scanTokenLogs runtime scope toBlock logs (← get))
  | .runEvmOnce scope startBlock chain now => Effect.discard (runEvmOnce runtime scope startBlock chain now)
  | .ingestTronEvents scope events => do
      Effect.discard (ingestTronEvents runtime scope events (← get))
  | .reconcileInvoice invoiceId draws => do
      let invoice ← select (fun db => db.invoices.find? invoiceId)
        (.httpException 404 "invoice not found")
      Effect.discard (reconcileInvoice invoice draws)
  | .reconcileTxHash txHash draws => Effect.discard (reconcileTxHash runtime txHash draws)

/-- The state that the next session sees. -/
def serve (runtime : Runtime) (before : CryptoDb) (op : Op) : CryptoDb :=
  Effect.commit (perform runtime op) before

/-- Equal rows but for the status. -/
def SameTransfer (row transfer : CryptoChainTransfer) : Prop :=
  row.markMatched = transfer.markMatched

/-- Any column but the status agrees. -/
theorem SameTransfer.column {Value : Type} {row transfer : CryptoChainTransfer}
    (same : SameTransfer row transfer) (read : CryptoChainTransfer → Value)
    (ignores : ∀ transfer, read transfer.markMatched = read transfer) :
    read row = read transfer := by
  rw [← ignores row, ← ignores transfer, same]

/-- The smallest changes that scans, reconciliations and endings are made of. -/
inductive Motion (before : CryptoDb) : CryptoDb → Prop where
  | ended (change : CryptoInvoice → CryptoInvoice)
      (keeps : ∀ invoice, (change invoice).id = invoice.id) (invoice : CryptoInvoice)
      (after : CryptoDb) (ending : Ended change keeps invoice before after)
      (kind : change = CryptoInvoice.expire ∨ ∃ now, change = CryptoInvoice.cancel now) :
      Motion before after
  | recorded (transfer : CryptoChainTransfer) (after : CryptoDb)
      (inserted : insertTransfer? transfer before = some after) : Motion before after
  | paid (transfer row : CryptoChainTransfer) (draws : MatchDraws) (invoice : CryptoInvoice)
      (after : CryptoDb) (stored : row ∈ before.transfers.rows) (same : SameTransfer row transfer)
      (payment : Paid transfer draws before invoice after) : Motion before after
  | noted (cursors : Table CryptoWatcherCursor.scope) (rpcEndpoints : Table CryptoRpcEndpoint.id) :
      Motion before { before with cursors, rpcEndpoints }

/-- Any number of changes, one after another. -/
abbrev Motions := Relation.ReflTransGen Motion

section Loops

variable {before after : CryptoDb}

theorem transfers_of_recorded {transfer : CryptoChainTransfer}
    (inserted : insertTransfer? transfer before = some after) :
    (∀ other ∈ before.transfers.rows, sameId transfer other = false) ∧
      before.transfers.insert? transfer = some after.transfers ∧
        after = { before with transfers := after.transfers } := by
  obtain ⟨transfers, accepted, rfl⟩ := Option.map_eq_some_iff.mp inserted
  obtain ⟨unused, inserted⟩ := (Table.insertUnique?_eq_some_iff ..).mp accepted
  exact ⟨unused, inserted, rfl⟩

theorem stored_of_paid {transfer other : CryptoChainTransfer} {draws : MatchDraws}
    {invoice : CryptoInvoice} (payment : Paid transfer draws before invoice after)
    (stored : ∃ row ∈ before.transfers.rows, SameTransfer row other) :
    ∃ row ∈ after.transfers.rows, SameTransfer row other := by
  obtain ⟨row, member, same⟩ := stored
  rw [payment.transfers]
  refine ⟨_, (Table.mem_modify_iff _ _ _ CryptoChainTransfer.log_markMatched _).mpr
    ⟨row, member, rfl⟩, ?_⟩
  split
  · exact same
  · exact same

/-- What a scan establishes: kept by the record of a fresh transfer together with its
match, and there to fall back to. -/
theorem scanTransfers_keeps {Holds : CryptoDb → Prop} {base : CryptoDb} {attached : Bool}
    {sightings : List Sighting} (fallback : Holds base)
    (keeps : ∀ transfer draws, (transfer, draws) ∈ sightings → ∀ db recorded next result,
      Holds db → insertTransfer? transfer db = some recorded →
        matchTransfer transfer draws recorded = .ok result next → Holds next)
    {expired : Bool} {count : Nat} (holds : Holds before)
    (returned : scanTransfers base attached expired sightings before = .ok count after) :
    Holds after := by
  induction sightings generalizing expired before count with
  | nil =>
      cases expired <;> cases returned <;> exact holds
  | cons sighting rest ih =>
      obtain ⟨transfer, draws⟩ := sighting
      have later : ∀ transfer draws, (transfer, draws) ∈ rest → ∀ db recorded next result,
          Holds db → insertTransfer? transfer db = some recorded →
            matchTransfer transfer draws recorded = .ok result next → Holds next :=
        fun transfer draws listed => keeps transfer draws (List.mem_cons_of_mem _ listed)
      cases expired with
      | true => cases returned
      | false =>
          simp only [scanTransfers] at returned
          cases inserted : insertTransfer? transfer before with
          | none =>
              simp only [inserted] at returned
              exact ih later fallback returned
          | some recorded =>
              simp only [inserted] at returned
              obtain ⟨result, next, paired, counted⟩ := (Effect.bind_ok_iff ..).mp returned
              obtain ⟨others, final, scanned, done⟩ := (Effect.bind_ok_iff ..).mp counted
              cases done
              exact ih later
                (keeps _ _ (List.mem_cons_self ..) _ _ _ _ holds inserted paired) scanned

theorem matchAll_keeps {Holds : List CryptoChainTransfer → CryptoDb → Prop}
    {draws : String → MatchDraws}
    (keeps : ∀ transfer rest db next result, Holds (transfer :: rest) db →
      matchTransfer transfer (draws transfer.id) db = .ok result next → Holds rest next)
    {transfers : List CryptoChainTransfer} {count : Nat} (holds : Holds transfers before)
    (returned : matchAll draws transfers before = .ok count after) : Holds [] after := by
  induction transfers generalizing before count with
  | nil =>
      cases returned
      exact holds
  | cons transfer rest ih =>
      unfold matchAll at returned
      obtain ⟨result, next, paired, counted⟩ := (Effect.bind_ok_iff ..).mp returned
      obtain ⟨later, final, scanned, done⟩ := (Effect.bind_ok_iff ..).mp counted
      cases done
      exact ih (keeps _ _ _ _ _ holds paired) scanned

theorem motions_of_match {transfer row : CryptoChainTransfer} {draws : MatchDraws}
    {result : Option CryptoInvoice} (stored : row ∈ before.transfers.rows)
    (same : SameTransfer row transfer)
    (returned : matchTransfer transfer draws before = .ok result after) :
    Motions before after := by
  rcases matchTransfer_ok returned with rfl | ⟨invoice, payment⟩
  · exact .refl
  · exact .single (.paid transfer row draws invoice after stored same payment)

/-- A scan is a number of changes to the state at the start of its transaction: of the
state it was called in when that is where the transaction started. -/
theorem motions_of_scan {base : CryptoDb} {attached expired : Bool} {sightings : List Sighting}
    {count : Nat} (opened : Motions base before)
    (returned : scanTransfers base attached expired sightings before = .ok count after) :
    Motions base after := by
  apply scanTransfers_keeps .refl ?_ opened returned
  intro transfer draws _ db recorded next result reached inserted paired
  have stored : transfer ∈ recorded.transfers.rows := by
    rw [Table.rows_of_insert? (transfers_of_recorded inserted).2.1]
    exact List.mem_append_right _ (List.mem_singleton_self transfer)
  exact (reached.tail (.recorded transfer recorded inserted)).trans
    (motions_of_match stored rfl paired)

theorem motions_of_matchAll {draws : String → MatchDraws} {transfers : List CryptoChainTransfer}
    {count : Nat} (stored : ∀ transfer ∈ transfers, transfer ∈ before.transfers.rows)
    (returned : matchAll draws transfers before = .ok count after) : Motions before after := by
  let Holds (rest : List CryptoChainTransfer) (db : CryptoDb) : Prop :=
    Motions before db ∧ ∀ other ∈ rest, ∃ row ∈ db.transfers.rows, SameTransfer row other
  have start : Holds transfers before :=
    ⟨.refl, fun transfer listed => ⟨transfer, stored transfer listed, rfl⟩⟩
  have kept : Holds [] after := by
    apply matchAll_keeps ?_ start returned
    intro transfer rest db next result holds paired
    obtain ⟨reached, listed⟩ := holds
    obtain ⟨row, member, same⟩ := listed transfer (List.mem_cons_self ..)
    refine ⟨reached.trans (motions_of_match member same paired), ?_⟩
    intro other later
    have listedOther := listed other (List.mem_cons_of_mem _ later)
    rcases matchTransfer_ok paired with rfl | ⟨invoice, payment⟩
    · exact listedOther
    · exact stored_of_paid payment listedOther
  exact kept.1

theorem expireDueInvoices_keeps {Holds : CryptoDb → Prop} {now : Int} {limit : Nat}
    {callbackIds : String → String} {count : Nat} (holds : Holds before)
    (keeps : ∀ invoice db next, Holds db →
      Ended CryptoInvoice.expire CryptoInvoice.id_expire invoice db next → Holds next)
    (returned : expireDueInvoices now limit callbackIds before = .ok count after) :
    Holds after := by
  have looped := expireDueInvoices_ok returned
  apply Effect.forM_keeps holds ?_ looped
  intro invoice _ db next kept ended
  exact keeps invoice db next kept (expireInvoice_ok ended)

theorem adminCreateWallet_ok {runtime : Runtime} {payload : CryptoWalletCreate}
    {fresh : RowDefaults} {wallet : CryptoWallet}
    (returned : adminCreateWallet runtime payload fresh before = .ok wallet after) :
    ∃ network, insertWallet? (registeredWallet runtime payload network fresh) before =
      some after := by
  unfold adminCreateWallet at returned
  obtain ⟨network, start, selected, flushed⟩ := (Effect.bind_ok_iff ..).mp returned
  obtain ⟨-, rfl⟩ := (select_ok_iff ..).mp selected
  obtain ⟨⟨⟩, final, insert, done⟩ := (Effect.bind_ok_iff ..).mp flushed
  cases done
  exact ⟨network, (flush_ok_iff ..).mp insert⟩

theorem motions_of_cursor {networkId tokenId : String} {startBlock now : Int}
    {cursor : CryptoWatcherCursor}
    (pointed : getOrCreateCursor networkId tokenId startBlock now before = .ok cursor after) :
    Motions before after := by
  rcases getOrCreateCursor_ok pointed with rfl | ⟨-, cursors, -, rfl⟩
  · exact .refl
  · exact .single (.noted cursors before.rpcEndpoints)

theorem motions_of_evm {runtime : Runtime} {scope : Scope} {startBlock now : Int} {chain : Chain}
    {count : Nat}
    (returned : runEvmOnce runtime scope startBlock chain now before = .ok count after) :
    Motions before after := by
  cases runEvmOnce_ok returned with
  | idle latest cursor opened answered pointed scanned => exact motions_of_cursor pointed
  | scanned rpc latest cursor opened logs count final answered pointed behind fetched ran =>
      exact (motions_of_scan (motions_of_cursor pointed) ran).tail (.noted _ _)

end Loops

/-- What a request does: create an invoice, register a wallet, or move. -/
inductive Served (runtime : Runtime) (before : CryptoDb) : Op → CryptoDb → Prop where
  | created (payload : CryptoInvoiceCreate) (merchantId : String) (userId : Option String)
      (draws : InvoiceDraws) (invoice : CryptoInvoice) (after : CryptoDb)
      (creation : Creation runtime payload merchantId userId draws before invoice after) :
      Served runtime before (.createInvoice payload merchantId userId draws) after
  | registered (payload : CryptoWalletCreate) (fresh : RowDefaults) (network : CryptoNetwork)
      (after : CryptoDb)
      (inserted : insertWallet? (registeredWallet runtime payload network fresh) before =
        some after) :
      Served runtime before (.adminCreateWallet payload fresh) after
  | moved (op : Op) (after : CryptoDb) (motions : Motions before after) :
      Served runtime before op after

theorem served_of_perform {runtime : Runtime} {op : Op} {before after : CryptoDb}
    (returned : perform runtime op before = .ok () after) : Served runtime before op after := by
  cases op with
  | createInvoice payload merchantId userId draws =>
      obtain ⟨invoice, ran⟩ := Effect.discard_ok returned
      exact .created payload merchantId userId draws invoice after (createInvoice_ok ran)
  | cancelInvoice transId merchantId draws =>
      obtain ⟨canceled, ran⟩ := Effect.discard_ok returned
      obtain ⟨invoice, -, -, ending⟩ := cancelInvoice_ok ran
      exact .moved _ after (.single (.ended _ _ _ _ ending (.inr ⟨draws.now, rfl⟩)))
  | expireDueInvoices now limit callbackIds =>
      obtain ⟨count, ran⟩ := Effect.discard_ok returned
      refine .moved _ after (expireDueInvoices_keeps .refl ?_ ran)
      intro invoice db next reached ended
      exact reached.tail (.ended _ _ _ _ ended (.inl rfl))
  | adminCreateWallet payload fresh =>
      obtain ⟨wallet, ran⟩ := Effect.discard_ok returned
      obtain ⟨network, inserted⟩ := adminCreateWallet_ok ran
      exact .registered payload fresh network _ inserted
  | scanTokenLogs scope toBlock logs =>
      obtain ⟨count, ran⟩ := Effect.discard_ok returned
      exact .moved _ after (motions_of_scan .refl ran)
  | runEvmOnce scope startBlock chain now =>
      obtain ⟨count, ran⟩ := Effect.discard_ok returned
      exact .moved _ after (motions_of_evm ran)
  | ingestTronEvents scope events =>
      obtain ⟨count, ran⟩ := Effect.discard_ok returned
      exact .moved _ after (motions_of_scan .refl ran)
  | reconcileInvoice invoiceId draws =>
      obtain ⟨invoice, start, selected, rest⟩ := (Effect.bind_ok_iff ..).mp returned
      obtain ⟨-, rfl⟩ := (select_ok_iff ..).mp selected
      obtain ⟨count, ran⟩ := Effect.discard_ok rest
      exact .moved _ after (motions_of_matchAll (fun _ listed => List.mem_of_mem_filter listed) ran)
  | reconcileTxHash txHash draws =>
      obtain ⟨count, ran⟩ := Effect.discard_ok returned
      exact .moved _ after (motions_of_matchAll (fun _ listed => List.mem_of_mem_filter listed) ran)

theorem served_of_serve (runtime : Runtime) (before : CryptoDb) (op : Op) :
    Served runtime before op (serve runtime before op) := by
  unfold serve
  cases ran : perform runtime op before with
  | ok value after =>
      rw [Effect.commit_of_ok ran]
      exact served_of_perform ran
  | error failure after =>
      rw [Effect.commit_of_error ran]
      exact .moved op before .refl

section Wallets

variable {runtime : Runtime} {before middle after : CryptoDb}

/-- Equal rows but for the number of invoices on them. -/
def SameAccount (wallet other : CryptoWallet) : Prop :=
  other = { wallet with activeInvoiceCount := other.activeInvoiceCount }

theorem SameAccount.refl (wallet : CryptoWallet) : SameAccount wallet wallet := rfl

theorem SameAccount.trans {first second third : CryptoWallet} (left : SameAccount first second)
    (right : SameAccount second third) : SameAccount first third := by
  unfold SameAccount at left right ⊢
  rw [right, left]

theorem sameAccount_occupy (wallet : CryptoWallet) : SameAccount wallet wallet.occupy := rfl

theorem sameAccount_release (wallet : CryptoWallet) : SameAccount wallet wallet.release := by
  unfold CryptoWallet.release
  split <;> rfl

/-- No wallet goes and none changes hands; a new one is named by its cause. -/
structure WalletsKept (Fresh : CryptoWallet → Prop) (before after : Table CryptoWallet.id) :
    Prop where
  kept : ∀ id wallet, before.find? id = some wallet →
    ∃ same, after.find? id = some same ∧ SameAccount wallet same
  origin : ∀ wallet ∈ after.rows, (∃ old ∈ before.rows, SameAccount old wallet) ∨ Fresh wallet

variable {Fresh : CryptoWallet → Prop}

theorem WalletsKept.refl (wallets : Table CryptoWallet.id) : WalletsKept Fresh wallets wallets where
  kept := fun _ wallet found => ⟨wallet, found, .refl wallet⟩
  origin := fun wallet member => .inl ⟨wallet, member, .refl wallet⟩

theorem WalletsKept.trans {first second third : Table CryptoWallet.id}
    (left : WalletsKept Fresh first second) (right : WalletsKept Fresh second third)
    (stays : ∀ wallet other, SameAccount wallet other → Fresh wallet → Fresh other) :
    WalletsKept Fresh first third where
  kept := by
    intro id wallet found
    obtain ⟨same, foundSame, account⟩ := left.kept id wallet found
    obtain ⟨last, foundLast, accountLast⟩ := right.kept id same foundSame
    exact ⟨last, foundLast, account.trans accountLast⟩
  origin := by
    intro wallet member
    rcases right.origin wallet member with ⟨old, oldMember, account⟩ | fresh
    · rcases left.origin old oldMember with ⟨first, firstMember, firstAccount⟩ | fresh
      · exact .inl ⟨first, firstMember, firstAccount.trans account⟩
      · exact .inr (stays old wallet account fresh)
    · exact .inr fresh

theorem walletsKept_modify (wallets : Table CryptoWallet.id) (id : String)
    {change : CryptoWallet → CryptoWallet} (keeps : ∀ wallet, (change wallet).id = wallet.id)
    (same : ∀ wallet, SameAccount wallet (change wallet)) :
    WalletsKept Fresh wallets (wallets.modify id change keeps) where
  kept := by
    intro wanted wallet found
    rw [Table.find?_modify]
    split
    · exact ⟨change wallet, by rw [found]; rfl, same wallet⟩
    · exact ⟨wallet, found, .refl wallet⟩
  origin := by
    intro wallet member
    obtain ⟨old, oldMember, rfl⟩ := (Table.mem_modify_iff ..).mp member
    refine .inl ⟨old, oldMember, ?_⟩
    split
    · exact same old
    · exact .refl old

theorem walletsKept_insert {wallet : CryptoWallet}
    (inserted : insertWallet? wallet before = some after) (fresh : Fresh wallet) :
    WalletsKept Fresh before.wallets after.wallets := by
  obtain ⟨wallets, accepted, rfl⟩ := Option.map_eq_some_iff.mp inserted
  have grown := ((Table.insertUnique?_eq_some_iff ..).mp accepted).2
  constructor
  · intro id old found
    refine ⟨old, ?_, .refl old⟩
    rw [Table.find?_insert? grown]
    split
    · rename_i taken
      have absent := Table.fresh_of_insert? grown
      rw [taken, found] at absent
      cases absent
    · exact found
  · intro row member
    rw [Table.rows_of_insert? grown] at member
    rcases List.mem_append.mp member with old | new
    · exact .inl ⟨row, old, .refl row⟩
    · obtain rfl := List.mem_singleton.mp new
      exact .inr fresh

theorem walletsKept_of_motion (motion : Motion before after) :
    WalletsKept Fresh before.wallets after.wallets := by
  cases motion with
  | ended change keeps invoice after ending kind =>
      rw [ending.frame]
      exact walletsKept_modify _ _ CryptoWallet.id_release sameAccount_release
  | recorded transfer after inserted =>
      rw [(transfers_of_recorded inserted).2.2]
      exact .refl _
  | paid transfer row draws invoice after stored same payment =>
      rcases payment.wallets with untouched | released
      · rw [untouched]
        exact .refl _
      · rw [released]
        exact walletsKept_modify _ _ CryptoWallet.id_release sameAccount_release
  | noted cursors rpcEndpoints => exact .refl _

def NewWallet (op : Op) (wallet : CryptoWallet) : Prop :=
  wallet.ownerType = "merchant" ∨ ∃ payload fresh, op = .adminCreateWallet payload fresh ∧
    wallet.id = fresh.id ∧ wallet.ownerType = payload.ownerType

theorem newWallet_stays {op : Op} (wallet other : CryptoWallet) (same : SameAccount wallet other)
    (fresh : NewWallet op wallet) : NewWallet op other := by
  rw [same]
  exact fresh

theorem walletsKept_of_choice {op : Op} {network : CryptoNetwork} {address : Option String}
    {merchantId : String} {draws : InvoiceDraws} {wallet : CryptoWallet}
    (choice : Choice runtime network address merchantId draws before wallet after) :
    WalletsKept (NewWallet op) before.wallets after.wallets := by
  cases choice with
  | supplied text wallet named found => exact .refl _
  | added text after named inserted => exact walletsKept_insert inserted (.inl rfl)
  | assigned wallet unnamed least => exact .refl _

theorem frame_of_choice {network : CryptoNetwork} {address : Option String} {merchantId : String}
    {draws : InvoiceDraws} {wallet : CryptoWallet}
    (choice : Choice runtime network address merchantId draws before wallet after) :
    after = { before with wallets := after.wallets } := by
  cases choice with
  | supplied text wallet named found => rfl
  | added text after named inserted =>
      obtain ⟨wallets, -, rfl⟩ := Option.map_eq_some_iff.mp inserted
      rfl
  | assigned wallet unnamed least => rfl

theorem insertInvoice_ok {invoice : CryptoInvoice}
    (inserted : insertInvoice? invoice before = some after) :
    before.invoices.insert? invoice = some after.invoices ∧
      after = { before with invoices := after.invoices } := by
  obtain ⟨invoices, accepted, rfl⟩ := Option.map_eq_some_iff.mp inserted
  exact ⟨((Table.insertUnique?_eq_some_iff ..).mp accepted).2, rfl⟩

theorem frame_of_creation {payload : CryptoInvoiceCreate} {merchantId : String}
    {userId : Option String} {draws : InvoiceDraws} {invoice : CryptoInvoice}
    (creation : Creation runtime payload merchantId userId draws before invoice after) :
    after = { before with
      wallets := after.wallets
      invoices := after.invoices } := by
  cases creation with
  | replayed invoice found same => rfl
  | opened network token wallet pay middle opened unused pair choice priced inserted =>
      rw [occupyWallet, (insertInvoice_ok inserted).2, frame_of_choice choice]

theorem walletsKept_of_opened {invoice : CryptoInvoice} {walletId : String}
    (inserted : insertInvoice? invoice before = some after) :
    WalletsKept Fresh before.wallets (occupyWallet walletId after).wallets := by
  have same : after.wallets = before.wallets := by rw [(insertInvoice_ok inserted).2]
  rw [← same]
  exact walletsKept_modify _ _ CryptoWallet.id_occupy sameAccount_occupy

theorem walletsKept_of_served {op : Op} (served : Served runtime before op after) :
    WalletsKept (NewWallet op) before.wallets after.wallets := by
  cases served with
  | created payload merchantId userId draws invoice after creation =>
      cases creation with
      | replayed invoice found same => exact .refl _
      | opened network token wallet pay middle opened unused pair choice priced inserted =>
          have chosen : WalletsKept (NewWallet (.createInvoice payload merchantId userId draws))
              before.wallets middle.wallets := walletsKept_of_choice choice
          exact chosen.trans (walletsKept_of_opened inserted) newWallet_stays
  | registered payload fresh network after inserted =>
      exact walletsKept_insert inserted (.inr ⟨payload, fresh, rfl, rfl, rfl⟩)
  | moved op after motions =>
      induction motions with
      | refl => exact .refl _
      | tail earlier motion ih => exact ih.trans (walletsKept_of_motion motion) newWallet_stays

end Wallets

def bsc : CryptoNetwork := ⟨"n1", "bsc", "BSC", "evm", 12, 1000, "active"⟩

/-- Six decimals, no dust, invoices from 1 to 1000. -/
def usdt : CryptoToken := ⟨"t1", "n1", "USDT", "0xcontract", 6, 1, 1000, 0, "active"⟩

def market : CryptoDb := { CryptoDb.opening Database.empty with
  bank := { Database.empty with users := ⟨[⟨"u1", "payer@example.com", 0⟩], by decide⟩ }
  networks := ⟨[bsc], by decide⟩
  tokens := ⟨[usdt], by decide⟩ }

/-- Ten units, for a given address or for a wallet of the platform's choice. -/
def order (requestId : String) (address : Option String) : CryptoInvoiceCreate where
  requestId := requestId
  name := "order"
  amount := 10
  token := "USDT"
  network := "bsc"
  address := address
  expireMinutes := 30
  callbackUrl := none
  webhookSecret := none
  metadata := []
  currencyAmountVnd := none
  fxRate := none
  fxSource := none
  positive := by norm_num

def drawsAt (now : Int) (id walletId : String) : InvoiceDraws where
  id := id
  transId := "TX" ++ id
  walletId := walletId
  suffix := 0
  now := now

def merchantAddress : String := "0xaaaaaaaaaaaaaaaaaaaaaaaaaaaaaaaaaaaaaaaa"

def platformAddress : String := "0xbbbbbbbbbbbbbbbbbbbbbbbbbbbbbbbbbbbbbbbb"

def systemWallet : CryptoWalletCreate := ⟨"bsc", platformAddress, "system", none, none, 100⟩

def tenUnits (txHash target : String) : EvmLog where
  topics := ["0xddf2", "0xcccccccccccccccccccccccccccccccccccccccc", target]
  transactionHash := txHash
  logIndex := 0
  data := 10000000
  blockNumber := 7
  blockHash := none

def scanDraws (transferId : String) (now : Int) : ScanDraws where
  transferId := transferId
  now := now
  pairing := ⟨"credit-" ++ transferId, "callback-" ++ transferId, now⟩

def scan (txHash target transferId : String) (now : Int) : Op :=
  .scanTokenLogs ⟨bsc, usdt, true⟩ 8 [(tenUnits txHash target, scanDraws transferId now)]

end ApiBank.Crypto.Operations
