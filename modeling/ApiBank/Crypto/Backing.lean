import ApiBank.Crypto.Routing

/-!
# What a crypto credit is backed by

A completed invoice credits the VND amount that its request named. The credit is
backed when the money came in on a wallet of the platform and the amount is the
platform's own quote for what came in.
-/

namespace ApiBank.Crypto.Backing

open ApiBank.Billing ApiBank.Db ApiBank.Relational ApiBank.Transition Invoices Operations Routing
  Watchers

set_option autoImplicit false

/-- The VND amount for a token amount, at the rate that the platform sets at a time. -/
abbrev Quote := Int → String → ℚ → Int

def Platform (networkId address : String) (db : CryptoDb) : Prop :=
  ∃ wallet ∈ db.wallets.rows, wallet.ownerType = "system" ∧ wallet.networkId = networkId ∧
    wallet.address = address

/-- The row was paid for by a transfer to the platform, at the quote of the time when
the invoice was made. -/
def BackedRow (quote : Quote) (db : CryptoDb) (invoiceId : String) (row : WalletTransaction) :
    Prop :=
  ∃ invoice ∈ db.invoices.rows, invoice.id = invoiceId ∧ ∃ transfer ∈ db.transfers.rows,
    (db.matchRows.find? (invoiceId, transfer.id)).isSome ∧
      Platform transfer.networkId transfer.toAddress db ∧
        row.amountVnd = quote invoice.createdAt transfer.tokenId transfer.amountDecimal

def Backed (quote : Quote) (db : CryptoDb) : Prop :=
  ∀ row ∈ db.bank.walletTransactions.rows, ∀ invoiceId,
    row.idempotencyKey = cryptoTopupKey invoiceId → BackedRow quote db invoiceId row

/-- Nothing has been invoiced and nothing credited. -/
structure Uninvoiced (db : CryptoDb) : Prop where
  invoices : db.invoices.rows = []
  credits : ∀ row ∈ db.bank.walletTransactions.rows, ∀ invoiceId,
    row.idempotencyKey ≠ cryptoTopupKey invoiceId

/-- The request names an address of the platform, or leaves the choice to a platform
whose own wallets lead. -/
def AsksPlatform (runtime : Runtime) (network : CryptoNetwork) (address : Option String)
    (db : CryptoDb) : Prop :=
  match given address with
  | some text => ∃ wallet,
      suppliedWallet network.id (normalizeAddress runtime text network.chainType) db =
        some wallet ∧ wallet.ownerType = "system"
  | none => SystemLeads network.id db

/-- A request that can lead to a credit is for a wallet of the platform, and names the
platform's quote for the amount to pay. -/
def asksQuote (quote : Quote) (runtime : Runtime) (db : CryptoDb) : Op → Prop
  | .createInvoice payload _ userId draws => given userId ≠ none → ∀ amountVnd,
      payload.currencyAmountVnd = some amountVnd → ∀ network token pay,
        getNetworkToken runtime payload.network payload.token db = .ok (network, token) →
          payAmount payload token draws = .ok pay →
            AsksPlatform runtime network payload.address db ∧
              vndColumn amountVnd = quote draws.now token.id (tokenColumn pay)
  | _ => True

/-- The terms on which an invoice is credited. -/
structure Quoted (quote : Quote) (db : CryptoDb) (invoice : CryptoInvoice) : Prop where
  terms : given invoice.userId ≠ none → ∀ amountVnd, invoice.currencyAmountVnd = some amountVnd →
    Platform invoice.networkId invoice.address db ∧
      amountVnd = quote invoice.createdAt invoice.tokenId invoice.payAmount

structure BackingInvariant (quote : Quote) (db : CryptoDb) : Prop where
  quoted : ∀ invoice ∈ db.invoices.rows, Quoted quote db invoice
  backed : Backed quote db

variable {quote : Quote} {runtime : Runtime} {before after : CryptoDb}

/-- The columns of an invoice that are written once. -/
structure SameTerms (row invoice : CryptoInvoice) : Prop where
  id : row.id = invoice.id
  userId : row.userId = invoice.userId
  currencyAmountVnd : row.currencyAmountVnd = invoice.currencyAmountVnd
  networkId : row.networkId = invoice.networkId
  tokenId : row.tokenId = invoice.tokenId
  address : row.address = invoice.address
  payAmount : row.payAmount = invoice.payAmount
  createdAt : row.createdAt = invoice.createdAt

theorem SameTerms.refl (invoice : CryptoInvoice) : SameTerms invoice invoice :=
  ⟨rfl, rfl, rfl, rfl, rfl, rfl, rfl, rfl⟩

theorem sameTerms_cancel (now : Int) (invoice : CryptoInvoice) :
    SameTerms (invoice.cancel now) invoice := { SameTerms.refl invoice with }

theorem sameTerms_expire (invoice : CryptoInvoice) : SameTerms invoice.expire invoice :=
  { SameTerms.refl invoice with }

theorem sameTerms_receive (transfer : CryptoChainTransfer) (now : Int) (invoice : CryptoInvoice) :
    SameTerms (invoice.receive transfer now) invoice := { SameTerms.refl invoice with }

/-- What was there is still there, on the same terms. -/
structure Grows (before after : CryptoDb) : Prop where
  invoices : ∀ invoice ∈ before.invoices.rows, ∃ row ∈ after.invoices.rows, SameTerms row invoice
  transfers : ∀ transfer ∈ before.transfers.rows, ∃ row ∈ after.transfers.rows,
    SameTransfer row transfer
  matchRows : ∀ ends, (before.matchRows.find? ends).isSome → (after.matchRows.find? ends).isSome
  platform : ∀ networkId address, Platform networkId address before →
    Platform networkId address after

theorem backedRow_grows {invoiceId : String} {row : WalletTransaction}
    (grows : Grows before after) (backed : BackedRow quote before invoiceId row) :
    BackedRow quote after invoiceId row := by
  obtain ⟨invoice, member, named, transfer, recorded, paired, platform, amount⟩ := backed
  obtain ⟨later, laterMember, terms⟩ := grows.invoices invoice member
  obtain ⟨stored, storedMember, same⟩ := grows.transfers transfer recorded
  have id : stored.id = transfer.id := same.column CryptoChainTransfer.id fun _ => rfl
  have network : stored.networkId = transfer.networkId :=
    same.column CryptoChainTransfer.networkId fun _ => rfl
  have target : stored.toAddress = transfer.toAddress :=
    same.column CryptoChainTransfer.toAddress fun _ => rfl
  have token : stored.tokenId = transfer.tokenId :=
    same.column CryptoChainTransfer.tokenId fun _ => rfl
  have received : stored.amountDecimal = transfer.amountDecimal :=
    same.column CryptoChainTransfer.amountDecimal fun _ => rfl
  refine ⟨later, laterMember, terms.id.trans named, stored, storedMember, ?_, ?_, ?_⟩
  · rw [id]
    exact grows.matchRows _ paired
  · rw [network, target]
    exact grows.platform _ _ platform
  · rw [terms.createdAt, token, received]
    exact amount

theorem quoted_grows {row invoice : CryptoInvoice} (grows : Grows before after)
    (terms : SameTerms row invoice) (quoted : Quoted quote before invoice) :
    Quoted quote after row where
  terms := by
    rw [terms.userId, terms.currencyAmountVnd, terms.networkId, terms.address, terms.createdAt,
      terms.tokenId, terms.payAmount]
    intro payee amountVnd priced
    obtain ⟨platform, amount⟩ := quoted.terms payee amountVnd priced
    exact ⟨grows.platform _ _ platform, amount⟩

/-- A step that creates no invoice and credits nobody. -/
theorem invariant_of_grows (invariant : BackingInvariant quote before)
    (grows : Grows before after) (bank : after.bank = before.bank)
    (old : ∀ row ∈ after.invoices.rows, ∃ invoice ∈ before.invoices.rows, SameTerms row invoice) :
    BackingInvariant quote after where
  quoted := by
    intro row member
    obtain ⟨invoice, earlier, terms⟩ := old row member
    exact quoted_grows grows terms (invariant.quoted invoice earlier)
  backed := by
    intro row member invoiceId keyed
    rw [bank] at member
    exact backedRow_grows grows (invariant.backed row member invoiceId keyed)

theorem platform_kept {Fresh : CryptoWallet → Prop} {networkId address : String}
    (wallets : WalletsKept Fresh before.wallets after.wallets)
    (platform : Platform networkId address before) : Platform networkId address after := by
  obtain ⟨wallet, member, system, network, located⟩ := platform
  obtain ⟨same, found, account⟩ := wallets.kept wallet.id wallet (Table.find?_of_mem member)
  refine ⟨same, Table.mem_of_find? found, ?_⟩
  rw [account]
  exact ⟨system, network, located⟩

section Rewrites

variable {invoices : Table CryptoInvoice.id} {id : String}
  {change : CryptoInvoice → CryptoInvoice} {keeps : ∀ invoice, (change invoice).id = invoice.id}

theorem terms_modify (same : ∀ invoice, SameTerms (change invoice) invoice) :
    ∀ invoice ∈ invoices.rows, ∃ row ∈ (invoices.modify id change keeps).rows,
      SameTerms row invoice := by
  intro invoice member
  refine ⟨_, (Table.mem_modify_iff _ _ _ keeps _).mpr ⟨invoice, member, rfl⟩, ?_⟩
  split
  · exact same invoice
  · exact .refl invoice

theorem terms_of_modify (same : ∀ invoice, SameTerms (change invoice) invoice) :
    ∀ row ∈ (invoices.modify id change keeps).rows, ∃ invoice ∈ invoices.rows,
      SameTerms row invoice := by
  intro row member
  obtain ⟨invoice, earlier, rfl⟩ := (Table.mem_modify_iff ..).mp member
  refine ⟨invoice, earlier, ?_⟩
  split
  · exact same invoice
  · exact .refl invoice

end Rewrites

theorem grows_of_motion (motion : Motion before after) :
    Grows before after ∧
      ∀ row ∈ after.invoices.rows, ∃ invoice ∈ before.invoices.rows, SameTerms row invoice := by
  have wallets : WalletsKept (fun _ => True) before.wallets after.wallets :=
    walletsKept_of_motion motion
  have platform (networkId address : String) (held : Platform networkId address before) :
      Platform networkId address after := platform_kept wallets held
  cases motion with
  | ended change keeps invoice after ending kind =>
      have same : ∀ invoice, SameTerms (change invoice) invoice := by
        rcases kind with rfl | ⟨now, rfl⟩
        · exact sameTerms_expire
        · exact sameTerms_cancel now
      have frame := ending.frame
      rw [ending.invoices]
      refine ⟨⟨?_, ?_, ?_, platform⟩, terms_of_modify same⟩
      · rw [ending.invoices]
        exact terms_modify same
      · rw [frame]
        exact fun transfer member => ⟨transfer, member, rfl⟩
      · rw [frame]
        exact fun _ found => found
  | recorded transfer after inserted =>
      obtain ⟨-, grown, frame⟩ := transfers_of_recorded inserted
      refine ⟨⟨?_, ?_, ?_, platform⟩, ?_⟩
      · rw [frame]
        exact fun invoice member => ⟨invoice, member, .refl invoice⟩
      · rw [Table.rows_of_insert? grown]
        exact fun other member => ⟨other, List.mem_append_left _ member, rfl⟩
      · rw [frame]
        exact fun _ found => found
      · rw [frame]
        exact fun invoice member => ⟨invoice, member, .refl invoice⟩
  | paid transfer row draws invoice after stored same payment =>
      rw [payment.invoices]
      refine ⟨⟨?_, ?_, ?_, platform⟩, terms_of_modify (sameTerms_receive transfer draws.now)⟩
      · rw [payment.invoices]
        exact terms_modify (sameTerms_receive transfer draws.now)
      · exact fun other member => stored_of_paid payment ⟨other, member, rfl⟩
      · exact fun ends found => Table.isSome_insert? payment.inserted found
  | noted cursors rpcEndpoints =>
      refine ⟨⟨?_, ?_, fun _ found => found, platform⟩, ?_⟩
      · exact fun invoice member => ⟨invoice, member, .refl invoice⟩
      · exact fun transfer member => ⟨transfer, member, rfl⟩
      · exact fun invoice member => ⟨invoice, member, .refl invoice⟩

theorem backed_credit {transfer row : CryptoChainTransfer} {draws : MatchDraws}
    {invoice : CryptoInvoice} {userId : String} {amountVnd : Int} {credit : WalletTransaction}
    (invariant : BackingInvariant quote before) (stored : row ∈ before.transfers.rows)
    (same : SameTransfer row transfer) (payment : Paid transfer draws before invoice after)
    (grows : Grows before after) (payee : given invoice.userId = some userId)
    (priced : invoice.currencyAmountVnd = some amountVnd) (amount : credit.amountVnd = amountVnd) :
    BackedRow quote after invoice.id credit := by
  obtain ⟨member, fit⟩ := mem_of_fitting payment.fitting
  simp only [fits, Bool.and_eq_true, decide_eq_true_eq] at fit
  obtain ⟨⟨⟨⟨⟨⟨network, token⟩, located⟩, -⟩, -⟩, -⟩, paid⟩ := fit
  obtain ⟨platform, quoted⟩ :=
    (invariant.quoted invoice member).terms (by simp [payee]) amountVnd priced
  obtain ⟨later, laterMember, terms⟩ := grows.invoices invoice member
  obtain ⟨kept, keptMember, keptSame⟩ := stored_of_paid payment ⟨row, stored, same⟩
  have id : kept.id = transfer.id := keptSame.column CryptoChainTransfer.id fun _ => rfl
  have keptNetwork : kept.networkId = invoice.networkId :=
    (keptSame.column CryptoChainTransfer.networkId fun _ => rfl).trans network.symm
  have keptAddress : kept.toAddress = invoice.address :=
    (keptSame.column CryptoChainTransfer.toAddress fun _ => rfl).trans located.symm
  have keptToken : kept.tokenId = invoice.tokenId :=
    (keptSame.column CryptoChainTransfer.tokenId fun _ => rfl).trans token.symm
  have keptAmount : kept.amountDecimal = invoice.payAmount :=
    (keptSame.column CryptoChainTransfer.amountDecimal fun _ => rfl).trans paid.symm
  have ends : (newMatch invoice transfer).ends = (invoice.id, transfer.id) := rfl
  refine ⟨later, laterMember, terms.id, kept, keptMember, ?_, ?_, ?_⟩
  · rw [id, Table.find?_insert? payment.inserted, if_pos ends]
    rfl
  · rw [keptNetwork, keptAddress]
    exact grows.platform _ _ platform
  · rw [terms.createdAt, keptToken, keptAmount, amount]
    exact quoted

theorem invariant_motion (motion : Motion before after)
    (invariant : BackingInvariant quote before) : BackingInvariant quote after := by
  obtain ⟨grows, old⟩ := grows_of_motion motion
  cases motion with
  | ended change keeps invoice after ending kind =>
      exact invariant_of_grows invariant grows (by rw [ending.frame]; rfl) old
  | recorded transfer after inserted =>
      exact invariant_of_grows invariant grows (by rw [(transfers_of_recorded inserted).2.2]) old
  | noted cursors rpcEndpoints => exact invariant_of_grows invariant grows rfl old
  | paid transfer row draws invoice after stored same payment =>
      rcases payment.credited with bank | ⟨userId, amountVnd, credit, payee, priced, posted⟩
      · exact invariant_of_grows invariant grows bank old
      · rcases Wallet.credit_ok posted with bank | ⟨inserted, keyed, amount⟩
        · exact invariant_of_grows invariant grows bank old
        · refine ⟨?_, ?_⟩
          · intro other member
            obtain ⟨earlier, earlierMember, terms⟩ := old other member
            exact quoted_grows grows terms (invariant.quoted earlier earlierMember)
          · intro other member invoiceId otherKeyed
            rw [Table.rows_of_insert? inserted] at member
            rcases List.mem_append.mp member with earlier | new
            · exact backedRow_grows grows (invariant.backed other earlier invoiceId otherKeyed)
            · obtain rfl := List.mem_singleton.mp new
              have own : other.idempotencyKey = cryptoTopupKey invoice.id := keyed
              obtain rfl := cryptoTopupKey_injective (own.symm.trans otherKeyed)
              exact backed_credit invariant stored same payment grows payee priced amount

theorem platform_of_choice {network : CryptoNetwork} {address : Option String}
    {merchantId : String} {draws : InvoiceDraws} {wallet : CryptoWallet}
    (asks : AsksPlatform runtime network address before)
    (choice : Choice runtime network address merchantId draws before wallet after) :
    Platform network.id wallet.address after := by
  unfold AsksPlatform at asks
  cases choice with
  | supplied text wallet named found =>
      simp only [named] at asks
      obtain ⟨same, foundSame, system⟩ := asks
      obtain rfl : wallet = same := Option.some.inj (found.symm.trans foundSame)
      have located := List.find?_some found
      simp only [Bool.and_eq_true, decide_eq_true_eq] at located
      exact ⟨wallet, List.mem_of_find?_eq_some found, system, located.1.1, rfl⟩
  | added text after named inserted =>
      simp only [named] at asks
      obtain ⟨same, foundSame, system⟩ := asks
      obtain ⟨wallets, accepted, rfl⟩ := Option.map_eq_some_iff.mp inserted
      have clear := ((Table.insertUnique?_eq_some_iff ..).mp accepted).1 same
        (List.mem_of_find?_eq_some foundSame)
      have located := List.find?_some foundSame
      simp only [Bool.and_eq_true, decide_eq_true_eq] at located
      simp [sameAddress, merchantWallet, located.1] at clear
  | assigned wallet unnamed least =>
      simp only [unnamed] at asks
      obtain ⟨member, system⟩ := system_of_leastLoaded asks least
      have free := (List.mem_filter.mp (mem_of_firstBy least)).2
      simp only [eligible, Bool.and_eq_true, decide_eq_true_eq] at free
      exact ⟨wallet, member, system, free.1.1, rfl⟩

theorem invariant_created {payload : CryptoInvoiceCreate} {merchantId : String}
    {userId : Option String} {draws : InvoiceDraws} {invoice : CryptoInvoice}
    (asks : asksQuote quote runtime before (.createInvoice payload merchantId userId draws))
    (creation : Creation runtime payload merchantId userId draws before invoice after)
    (wallets : WalletsKept (fun _ => True) before.wallets after.wallets)
    (invariant : BackingInvariant quote before) : BackingInvariant quote after := by
  cases creation with
  | replayed invoice found same => exact invariant
  | opened network token wallet pay middle opened unused pair choice priced inserted =>
      obtain ⟨grown, frame⟩ := insertInvoice_ok inserted
      have reached := frame_of_choice choice
      have rows : (occupyWallet wallet.id opened).invoices.rows =
          before.invoices.rows ++ [newInvoice payload merchantId userId network token wallet pay
            draws] := by
        have appended := Table.rows_of_insert? grown
        rw [reached] at appended
        exact appended
      have grows : Grows before (occupyWallet wallet.id opened) := by
        refine ⟨?_, ?_, ?_, fun _ _ held => platform_kept wallets held⟩
        · intro earlier member
          exact ⟨earlier, rows ▸ List.mem_append_left _ member, .refl earlier⟩
        · rw [occupyWallet, frame, reached]
          exact fun transfer member => ⟨transfer, member, rfl⟩
        · rw [occupyWallet, frame, reached]
          exact fun _ found => found
      refine ⟨?_, ?_⟩
      · intro row member
        rw [rows] at member
        rcases List.mem_append.mp member with earlier | new
        · exact quoted_grows grows (.refl row) (invariant.quoted row earlier)
        · obtain rfl := List.mem_singleton.mp new
          refine ⟨fun payee amountVnd currency => ?_⟩
          obtain ⟨named, given, rfl⟩ := Option.map_eq_some_iff.mp currency
          obtain ⟨platform, quoted⟩ := asks payee named given network token pay pair priced
          have occupied : WalletsKept (fun _ => True) middle.wallets
              (occupyWallet wallet.id opened).wallets := walletsKept_of_opened inserted
          exact ⟨platform_kept occupied (platform_of_choice platform choice), quoted⟩
      · intro row member invoiceId keyed
        have earlier : row ∈ before.bank.walletTransactions.rows := by
          rw [occupyWallet, frame, reached] at member
          exact member
        exact backedRow_grows grows (invariant.backed row earlier invoiceId keyed)

theorem invariant_serve {op : Op} (asks : asksQuote quote runtime before op)
    (invariant : BackingInvariant quote before) :
    BackingInvariant quote (serve runtime before op) := by
  have served := served_of_serve runtime before op
  generalize serve runtime before op = after at served
  have wallets := walletsKept_of_served served
  cases served with
  | created payload merchantId userId draws invoice after creation =>
      exact invariant_created asks creation ⟨wallets.kept, fun _ _ => .inr trivial⟩ invariant
  | registered payload fresh network after inserted =>
      obtain ⟨rows, -, rfl⟩ := Option.map_eq_some_iff.mp inserted
      have grows : Grows before { before with wallets := rows } :=
        ⟨fun invoice member => ⟨invoice, member, .refl invoice⟩,
          fun transfer member => ⟨transfer, member, rfl⟩, fun _ found => found,
          fun _ _ held => platform_kept wallets held⟩
      exact invariant_of_grows invariant grows rfl fun invoice member =>
        ⟨invoice, member, .refl invoice⟩
  | moved op after motions =>
      clear wallets
      induction motions with
      | refl => exact invariant
      | tail earlier motion ih => exact invariant_motion motion ih

theorem credits_backed (quote : Quote) (runtime : Runtime) (start : CryptoDb) (events : List Op)
    (uninvoiced : Uninvoiced start)
    (guarded : Run.Along (asksQuote quote runtime) (serve runtime) start events) :
    Backed quote (events.foldl (serve runtime) start) := by
  have invariant := (Run.of_guarded guarded).invariant (BackingInvariant quote)
    { quoted := by
        intro invoice member
        rw [uninvoiced.invoices] at member
        cases member
      backed := fun row member invoiceId keyed =>
        absurd keyed (uninvoiced.credits row member invoiceId) }
    (by
      intro db op next holds taken
      obtain ⟨asks, rfl⟩ := taken
      exact invariant_serve asks holds)
  exact invariant.backed

theorem uninvoiced_market : Uninvoiced market where
  invoices := rfl
  credits := by
    intro row member
    cases member

/-- 25000 VND a unit, at all times. -/
def unitQuote : Quote := fun _ _ amount => ⌊25000 * amount⌋

def quotedOrder : List Op := [
  .adminCreateWallet systemWallet ⟨"w2", 1⟩,
  .createInvoice { order "r1" none with currencyAmountVnd := some 250000 } "m1" (some "u1")
    (drawsAt 2 "i1" "w1"),
  scan "0x01" platformAddress "tr1" 3]

theorem quoted_credit_backed :
    Backed unitQuote (quotedOrder.foldl (serve .ascii) market) := by
  apply credits_backed unitQuote .ascii market quotedOrder uninvoiced_market
  refine And.intro trivial (And.intro ?_ (And.intro trivial trivial))
  intro _ amountVnd currency network token pay pair priced
  have named : (some 250000 : Option ℚ) = some amountVnd := currency
  have sole : getNetworkToken .ascii "bsc" "USDT" market = .ok (network, token) := pair
  cases named
  cases sole
  have amount : (.ok 10 : Except Error ℚ) = .ok pay := priced
  cases amount
  refine ⟨?_, by decide +kernel⟩
  intro other member free foreign
  have rows : (serve .ascii market (.adminCreateWallet systemWallet ⟨"w2", 1⟩)).wallets.rows =
      [⟨"w2", "system", none, "n1", platformAddress, none, "active", 100, 0, 1⟩] := rfl
  rw [rows, List.mem_singleton] at member
  rw [member] at foreign
  exact absurd rfl foreign

/-- A merchant pays ten units to its own address, for a billion VND. -/
def selfPaid : List Op := [
  .createInvoice { order "r1" (some merchantAddress) with currencyAmountVnd := some 1000000000 }
    "m1" (some "u1") (drawsAt 1 "i1" "w1"),
  scan "0x01" merchantAddress "tr1" 2]

theorem self_payment_credited : ¬∃ quote, ∀ runtime start (events : List Op), Uninvoiced start →
    Backed quote (events.foldl (serve runtime) start) := by
  rintro ⟨quote, always⟩
  have backed := always .ascii market selfPaid uninvoiced_market
  have keys : (selfPaid.foldl (serve .ascii) market).bank.walletTransactions.rows.map
      WalletTransaction.idempotencyKey = [cryptoTopupKey "i1"] := by decide +kernel
  have owners : (selfPaid.foldl (serve .ascii) market).wallets.rows.map CryptoWallet.ownerType =
      ["merchant"] := by decide +kernel
  have credited : cryptoTopupKey "i1" ∈
      (selfPaid.foldl (serve .ascii) market).bank.walletTransactions.rows.map
        WalletTransaction.idempotencyKey := by
    rw [keys]
    exact List.mem_singleton_self _
  obtain ⟨row, listed, keyed⟩ := List.mem_map.mp credited
  obtain ⟨invoice, -, -, transfer, -, -, ⟨wallet, member, system, -⟩, -⟩ :=
    backed row listed "i1" keyed
  have owner : wallet.ownerType ∈
      (selfPaid.foldl (serve .ascii) market).wallets.rows.map CryptoWallet.ownerType :=
    List.mem_map_of_mem member
  rw [owners, system] at owner
  exact absurd owner (by decide)

end ApiBank.Crypto.Backing
