import ApiBank.Crypto.InvoiceTurns

/-!
# Amounts that identify invoices

A transfer is matched by network, token, address and amount. These identify an invoice
as long as no two waiting invoices agree in all four. A creation does not look at the
amounts that are asked for already: a given address or a token without dust gets the
requested amount as it is, and a drawn suffix may have been drawn before.
-/

namespace ApiBank.Crypto.DistinctAmounts

open ApiBank.Db ApiBank.Numeric ApiBank.Relational ApiBank.Transition
open Invoices Operations Watchers History InvoiceTurns

set_option autoImplicit false

variable {runtime : Runtime} {before after : CryptoDb}

/-- Two waiting invoices with one network, token, address and amount are one. -/
def Distinct (rows : List CryptoInvoice) : Prop :=
  ∀ first ∈ rows, ∀ second ∈ rows, first.status.isWaiting = true →
    second.status.isWaiting = true → invoiceTill first = invoiceTill second → first = second

/-- The amounts are distinct, so a transfer fits at most one invoice. -/
structure AmountsIdentify (db : CryptoDb) : Prop where
  distinct : Distinct db.invoices.rows
  identified : ∀ transfer now, ∀ first ∈ db.invoices.rows, ∀ second ∈ db.invoices.rows,
    fits transfer now first = true → fits transfer now second = true → first = second

theorem identify_iff (db : CryptoDb) : AmountsIdentify db ↔ Distinct db.invoices.rows := by
  constructor
  · intro identify
    exact identify.distinct
  · intro distinct
    refine ⟨distinct, ?_⟩
    intro transfer now first firstMember second secondMember firstFits secondFits
    have firstTill := (fits_iff ..).mp firstFits
    have secondTill := (fits_iff ..).mp secondFits
    exact distinct first firstMember second secondMember firstTill.2.1 secondTill.2.1
      (firstTill.1.trans secondTill.1.symm)

section Turns

variable {invoices : Table CryptoInvoice.id} {invoice : CryptoInvoice}
  {change : CryptoInvoice → CryptoInvoice} {keeps : ∀ invoice, (change invoice).id = invoice.id}

theorem distinct_modify (found : invoices.find? invoice.id = some invoice)
    (waiting : invoice.status.isWaiting = true)
    (till : ∀ invoice, invoiceTill (change invoice) = invoiceTill invoice)
    (distinct : Distinct invoices.rows) :
    Distinct (invoices.modify invoice.id change keeps).rows := by
  have old : ∀ row ∈ (invoices.modify invoice.id change keeps).rows,
      row.status.isWaiting = true → ∃ same ∈ invoices.rows, same.status.isWaiting = true ∧
        invoiceTill row = invoiceTill same ∧
          row = if same.id = invoice.id then change same else same := by
    intro row member waits
    obtain ⟨same, sameMember, rfl⟩ := (Table.mem_modify_iff ..).mp member
    by_cases own : same.id = invoice.id
    · obtain rfl : same = invoice :=
        Option.some.inj ((own ▸ Table.find?_of_mem sameMember).symm.trans found)
      exact ⟨same, sameMember, waiting, by rw [if_pos own, till], rfl⟩
    · rw [if_neg own] at waits
      exact ⟨same, sameMember, waits, by rw [if_neg own], rfl⟩
  intro first firstMember second secondMember firstWaits secondWaits sameTill
  obtain ⟨left, leftMember, leftWaits, leftTill, leftRow⟩ := old first firstMember firstWaits
  obtain ⟨right, rightMember, rightWaits, rightTill, rightRow⟩ :=
    old second secondMember secondWaits
  have sameRow : left = right := distinct left leftMember right rightMember leftWaits rightWaits
    (leftTill.symm.trans (sameTill.trans rightTill))
  rw [leftRow, rightRow, sameRow]

theorem distinct_turn (turn : Turn before after) (distinct : Distinct before.invoices.rows) :
    Distinct after.invoices.rows := by
  cases turn with
  | ended change keeps invoice after kind found waiting ending =>
      rw [ending.invoices]
      apply distinct_modify found waiting ?_ distinct
      rcases kind with rfl | ⟨now, rfl⟩
      · exact fun _ => rfl
      · exact fun _ => rfl
  | recorded transfer after inserted =>
      rw [(transfers_of_recorded inserted).2.2]
      exact distinct
  | received transfer draws invoice after found waiting receipt =>
      rw [receipt.payment.invoices]
      exact distinct_modify found waiting (fun _ => rfl) distinct
  | noted cursors rpcEndpoints => exact distinct

end Turns

/-- A new waiting invoice leaves the amounts distinct just when its own is not taken. -/
theorem distinct_append_iff {rows : List CryptoInvoice} {invoice : CryptoInvoice}
    (waiting : invoice.status.isWaiting = true) (fresh : ∀ row ∈ rows, row.id ≠ invoice.id)
    (distinct : Distinct rows) :
    Distinct (rows ++ [invoice]) ↔
      ∀ row ∈ rows, row.status.isWaiting = true → invoiceTill row ≠ invoiceTill invoice := by
  have newest : invoice ∈ rows ++ [invoice] := List.mem_append_right _ (List.mem_singleton_self _)
  constructor
  · intro all row member waits sameTill
    have same := all row (List.mem_append_left _ member) invoice newest waits waiting sameTill
    exact fresh row member (congrArg CryptoInvoice.id same)
  · intro free first firstMember second secondMember firstWaits secondWaits sameTill
    rcases List.mem_append.mp firstMember with left | left
    · rcases List.mem_append.mp secondMember with right | right
      · exact distinct first left second right firstWaits secondWaits sameTill
      · rw [List.mem_singleton.mp right] at sameTill
        exact absurd sameTill (free first left firstWaits)
    · rw [List.mem_singleton.mp left] at sameTill ⊢
      rcases List.mem_append.mp secondMember with right | right
      · exact absurd sameTill.symm (free second right secondWaits)
      · exact (List.mem_singleton.mp right).symm

/-- The address of a request: the one that it names, if its wallet is there or can be
made, or that of the least loaded wallet. -/
def Located (runtime : Runtime) (network : CryptoNetwork) (address : Option String)
    (draws : InvoiceDraws) (db : CryptoDb) (located : String) : Prop :=
  match given address with
  | some text => located = normalizeAddress runtime text network.chainType ∧
      ((suppliedWallet network.id located db).isSome ∨ ∀ wallet ∈ db.wallets.rows,
        wallet.id ≠ draws.walletId ∧ ¬(network.id = wallet.networkId ∧ located = wallet.address))
  | none => ∃ wallet, leastLoaded network.id db = some wallet ∧ located = wallet.address

/-- What a request needs for a new invoice. -/
structure Admitted (runtime : Runtime) (payload : CryptoInvoiceCreate) (merchantId : String)
    (draws : InvoiceDraws) (db : CryptoDb) (network : CryptoNetwork) (token : CryptoToken)
    (address : String) : Prop where
  unused : existingInvoice merchantId payload.requestId db = none
  pair : getNetworkToken runtime payload.network payload.token db = .ok (network, token)
  bounded : token.minInvoiceAmount ≤ payload.amount ∧ payload.amount ≤ token.maxInvoiceAmount
  located : Located runtime network payload.address draws db address
  measured : payload.address = none → token.dustPrecision ≠ 0 →
    ⌊payload.amount * 10 ^ token.dustPrecision⌋ < 10 ^ contextDigits
  url : (given payload.callbackUrl).bind runtime.unsafeReason = none
  keys : given payload.webhookSecret = none ∨ runtime.fernetKeys = true
  fresh : ∀ invoice ∈ db.invoices.rows, invoice.id ≠ draws.id ∧ invoice.transId ≠ draws.transId

/-- The amount that a request asks for: as it is, or in whole units of dust and the
drawn number of units. -/
def askedAmount (payload : CryptoInvoiceCreate) (token : CryptoToken) (draws : InvoiceDraws) : ℚ :=
  if payload.address ≠ none ∨ token.dustPrecision = 0 then tokenColumn payload.amount
  else tokenColumn (significant contextDigits
    ((⌊payload.amount * 10 ^ token.dustPrecision⌋ + (draws.suffix + 1)) /
      10 ^ token.dustPrecision))

def AsksFreeAmount (runtime : Runtime) (db : CryptoDb) : Op → Prop
  | .createInvoice payload merchantId _ draws => ∀ network token address,
      Admitted runtime payload merchantId draws db network token address →
        ∀ invoice ∈ db.invoices.rows, invoice.status.isWaiting = true →
          invoiceTill invoice ≠ ⟨network.id, token.id, address, askedAmount payload token draws⟩
  | _ => True

section Creation

variable {payload : CryptoInvoiceCreate} {merchantId : String} {userId : Option String}
  {draws : InvoiceDraws} {network : CryptoNetwork} {token : CryptoToken}

theorem sameAddress_eq_false_iff (wallet other : CryptoWallet) :
    sameAddress wallet other = false ↔
      ¬(wallet.networkId = other.networkId ∧ wallet.address = other.address) := by
  rw [← Bool.not_eq_true]
  simp [sameAddress]

theorem sameRequest_eq_false_iff (invoice other : CryptoInvoice) :
    sameRequest invoice other = false ↔ invoice.transId ≠ other.transId ∧
      ¬(invoice.merchantId = other.merchantId ∧ invoice.requestId = other.requestId) := by
  rw [← Bool.not_eq_true]
  simp [sameRequest]

theorem located_of_choice {address : Option String} {wallet : CryptoWallet}
    (choice : Choice runtime network address merchantId draws before wallet after) :
    Located runtime network address draws before wallet.address := by
  unfold Located
  cases choice with
  | supplied text wallet named found =>
      have row := List.find?_some found
      simp only [Bool.and_eq_true, decide_eq_true_eq] at row
      rw [named]
      refine ⟨row.1.2, .inl ?_⟩
      rw [row.1.2, found]
      rfl
  | added text after named inserted =>
      rw [named]
      refine ⟨rfl, .inr ?_⟩
      obtain ⟨wallets, accepted, -⟩ := Option.map_eq_some_iff.mp inserted
      have unique := (Table.insertUnique?_eq_some_iff ..).mp accepted
      have fresh := Table.fresh_of_insert? unique.2
      intro wallet member
      have apart := (sameAddress_eq_false_iff ..).mp (unique.1 wallet member)
      exact ⟨(Table.find?_eq_none_iff ..).mp fresh wallet member, apart⟩
  | assigned wallet unnamed least =>
      rw [unnamed]
      exact ⟨wallet, least, rfl⟩

theorem choice_of_located (merchantId : String) {address : Option String} {located : String}
    (found : Located runtime network address draws before located) :
    ∃ wallet middle, chooseWallet runtime network address merchantId draws before =
      .ok wallet middle := by
  unfold Located at found
  unfold chooseWallet
  cases named : given address with
  | none =>
      simp only [named] at found
      obtain ⟨wallet, least, -⟩ := found
      exact ⟨wallet, before, (select_ok_iff ..).mpr ⟨least, rfl⟩⟩
  | some text =>
      simp only [named] at found
      obtain ⟨rfl, available⟩ := found
      cases supplied : suppliedWallet network.id
          (normalizeAddress runtime text network.chainType) before with
      | some wallet =>
          refine ⟨wallet, before, ?_⟩
          simp [bind, EStateM.bind, supplied]
      | none =>
          rw [supplied] at available
          have fresh := available.resolve_left (by simp)
          have absent : before.wallets.find? (merchantWallet network.id
              (normalizeAddress runtime text network.chainType) merchantId draws).id = none :=
            (Table.find?_eq_none_iff ..).mpr fun wallet member => (fresh wallet member).1
          obtain ⟨wallets, grown⟩ := Table.insert?_of_fresh absent
          have inserted : before.wallets.insertUnique? sameAddress
              (merchantWallet network.id (normalizeAddress runtime text network.chainType)
                merchantId draws) = some wallets := by
            apply (Table.insertUnique?_eq_some_iff ..).mpr ⟨?_, grown⟩
            intro wallet member
            exact (sameAddress_eq_false_iff ..).mpr (fresh wallet member).2
          refine ⟨merchantWallet network.id (normalizeAddress runtime text network.chainType)
            merchantId draws, { before with wallets }, ?_⟩
          simp [bind, EStateM.bind, supplied, flush, insertWallet?, inserted]

theorem asked_of_priced {pay : ℚ} (priced : payAmount payload token draws = .ok pay) :
    tokenColumn pay = askedAmount payload token draws ∧
      (payload.address = none → token.dustPrecision ≠ 0 →
        ⌊payload.amount * 10 ^ token.dustPrecision⌋ < 10 ^ contextDigits) := by
  unfold payAmount suffixAmount at priced
  unfold askedAmount
  by_cases named : payload.address = none
  · rw [if_pos named] at priced
    by_cases exact : token.dustPrecision = 0
    · rw [if_pos exact] at priced
      cases priced
      simp [exact]
    · rw [if_neg exact] at priced
      dsimp only at priced
      split at priced
      · cases priced
      · rename_i measured
        cases priced
        simp [named, exact, Int.not_le.mp measured]
  · rw [if_neg named] at priced
    cases priced
    simp [named]

theorem priced_of_measured (draws : InvoiceDraws) (measured : payload.address = none → token.dustPrecision ≠ 0 →
    ⌊payload.amount * 10 ^ token.dustPrecision⌋ < 10 ^ contextDigits) :
    ∃ pay, payAmount payload token draws = .ok pay := by
  unfold payAmount suffixAmount
  by_cases named : payload.address = none
  · by_cases exact : token.dustPrecision = 0
    · exact ⟨payload.amount, by simp [named, exact]⟩
    · have small := Int.not_le.mpr (measured named exact)
      exact ⟨_, by rw [if_pos named, if_neg exact]; dsimp only; rw [if_neg small]⟩
  · exact ⟨payload.amount, by simp [named]⟩

/-- A new invoice is one that was admitted, at the end of the table. -/
theorem admitted_of_opened {invoice : CryptoInvoice}
    (returned : createInvoice runtime payload merchantId userId draws before = .ok invoice after)
    (unused : existingInvoice merchantId payload.requestId before = none) :
    ∃ network token address, Admitted runtime payload merchantId draws before network token
      address ∧ after.invoices.rows = before.invoices.rows ++ [invoice] ∧
        invoice.status = .waiting ∧
          invoiceTill invoice =
            ⟨network.id, token.id, address, askedAmount payload token draws⟩ := by
  unfold createInvoice at returned
  obtain ⟨db, start, read, looked⟩ := (Effect.bind_ok_iff ..).mp returned
  cases read
  simp only [unused] at looked
  obtain ⟨db, start, read, asked⟩ := (Effect.bind_ok_iff ..).mp looked
  cases read
  obtain ⟨⟨network, token⟩, start, paired, bounded⟩ := (Effect.bind_ok_iff ..).mp asked
  obtain ⟨pair, rfl⟩ := (outcome_ok_iff ..).mp paired
  simp only at bounded
  split at bounded
  · cases bounded
  · rename_i limits
    obtain ⟨wallet, middle, chosen, quoted⟩ := (Effect.bind_ok_iff ..).mp bounded
    obtain ⟨pay, stay, price, checked⟩ := (Effect.bind_ok_iff ..).mp quoted
    obtain ⟨priced, rfl⟩ := (outcome_ok_iff ..).mp price
    obtain ⟨⟨⟩, stay, checkedUrl, secured⟩ := (Effect.bind_ok_iff ..).mp checked
    obtain ⟨url, rfl⟩ := (outcome_ok_iff ..).mp checkedUrl
    obtain ⟨⟨⟩, stay, checkedKeys, flushed⟩ := (Effect.bind_ok_iff ..).mp secured
    obtain ⟨keys, rfl⟩ := (outcome_ok_iff ..).mp checkedKeys
    obtain ⟨⟨⟩, opened, insert, rest⟩ := (Effect.bind_ok_iff ..).mp flushed
    obtain ⟨invoices, accepted, rfl⟩ :=
      Option.map_eq_some_iff.mp ((flush_ok_iff ..).mp insert)
    cases rest
    have choice := chooseWallet_ok chosen
    rw [congrArg CryptoDb.invoices (frame_of_choice choice)] at accepted
    have unique := (Table.insertUnique?_eq_some_iff ..).mp accepted
    have fresh := (Table.find?_eq_none_iff ..).mp (Table.fresh_of_insert? unique.2)
    have amount := asked_of_priced priced
    refine ⟨network, token, wallet.address, ?_, Table.rows_of_insert? unique.2, rfl, ?_⟩
    · refine ⟨unused, pair, ?_, located_of_choice choice, amount.2, ?_, ?_, ?_⟩
      · simpa using limits
      · unfold checkCallbackUrl at url
        split at url
        · cases url
        · assumption
      · unfold checkSecretKeys at keys
        split at keys
        · cases keys
        · rename_i configured
          cases secret : given payload.webhookSecret with
          | none => exact .inl rfl
          | some text => exact .inr (by simpa [secret] using configured)
      · intro other member
        have apart := (sameRequest_eq_false_iff ..).mp (unique.1 other member)
        exact ⟨fresh other member, apart.1.symm⟩
    · rw [← amount.1]
      rfl

theorem opened_of_admitted (userId : Option String) {address : String}
    (admitted : Admitted runtime payload merchantId draws before network token address) :
    ∃ invoice after, createInvoice runtime payload merchantId userId draws before =
      .ok invoice after := by
  obtain ⟨wallet, middle, chosen⟩ := choice_of_located merchantId admitted.located
  obtain ⟨pay, priced⟩ := priced_of_measured draws admitted.measured
  have same : middle.invoices = before.invoices := by
    rw [frame_of_choice (chooseWallet_ok chosen)]
  have url : checkCallbackUrl runtime payload.callbackUrl = .ok () := by
    simp [checkCallbackUrl, admitted.url]
  have keys : checkSecretKeys runtime payload.webhookSecret = .ok () := by
    rcases admitted.keys with absent | configured
    · simp [checkSecretKeys, absent]
    · simp [checkSecretKeys, configured]
  have limits : ¬(payload.amount < token.minInvoiceAmount ∨
      token.maxInvoiceAmount < payload.amount) := by
    simpa using admitted.bounded
  obtain ⟨invoices, inserted⟩ : ∃ invoices, middle.invoices.insertUnique? sameRequest
      (newInvoice payload merchantId userId network token wallet pay draws) = some invoices := by
    rw [same]
    have absent : before.invoices.find?
        (newInvoice payload merchantId userId network token wallet pay draws).id = none :=
      (Table.find?_eq_none_iff ..).mpr fun invoice member => (admitted.fresh invoice member).1
    obtain ⟨invoices, grown⟩ := Table.insert?_of_fresh absent
    refine ⟨invoices, (Table.insertUnique?_eq_some_iff ..).mpr ⟨?_, grown⟩⟩
    intro other member
    have unused := List.find?_eq_none.mp admitted.unused other member
    simp only [Bool.and_eq_true, decide_eq_true_eq] at unused
    apply (sameRequest_eq_false_iff ..).mpr
    refine ⟨(admitted.fresh other member).2.symm, ?_⟩
    intro requested
    exact unused ⟨requested.1.symm, requested.2.symm⟩
  refine ⟨newInvoice payload merchantId userId network token wallet pay draws,
    occupyWallet wallet.id { middle with invoices }, ?_⟩
  unfold createInvoice
  simp only [bind, EStateM.bind, Effect.get_apply, admitted.unused, admitted.pair, outcome,
    if_neg limits, chosen, priced, url, keys, flush, insertInvoice?, inserted, Option.map_some,
    Effect.modify_apply]
  rfl

theorem located_unique {address : Option String} {first second : String}
    (left : Located runtime network address draws before first)
    (right : Located runtime network address draws before second) : first = second := by
  unfold Located at left right
  cases named : given address with
  | some text =>
      simp only [named] at left right
      exact left.1.trans right.1.symm
  | none =>
      simp only [named] at left right
      obtain ⟨wallet, least, rfl⟩ := left
      obtain ⟨other, sameLeast, rfl⟩ := right
      rw [Option.some.inj (least.symm.trans sameLeast)]

theorem serve_created {invoice : CryptoInvoice}
    (returned : createInvoice runtime payload merchantId userId draws before = .ok invoice after) :
    serve runtime before (.createInvoice payload merchantId userId draws) = after := by
  have performed : perform runtime (.createInvoice payload merchantId userId draws) before =
      .ok () after := by
    simp [perform, Effect.discard, bind, EStateM.bind, returned]
  exact Effect.commit_of_ok performed

theorem serve_refused {failure : Error}
    (raised : createInvoice runtime payload merchantId userId draws before =
      .error failure after) :
    serve runtime before (.createInvoice payload merchantId userId draws) = before := by
  have performed : perform runtime (.createInvoice payload merchantId userId draws) before =
      .error failure after := by
    simp [perform, Effect.discard, bind, EStateM.bind, raised]
  exact Effect.commit_of_error performed

theorem distinct_created_iff (distinct : Distinct before.invoices.rows) :
    Distinct (serve runtime before
      (.createInvoice payload merchantId userId draws)).invoices.rows ↔
        AsksFreeAmount runtime before (.createInvoice payload merchantId userId draws) := by
  cases ran : createInvoice runtime payload merchantId userId draws before with
  | error failure after =>
      rw [serve_refused ran]
      refine iff_of_true distinct ?_
      intro network token address admitted
      obtain ⟨invoice, next, returned⟩ := opened_of_admitted userId admitted
      rw [returned] at ran
      cases ran
  | ok invoice after =>
      rw [serve_created ran]
      cases existing : existingInvoice merchantId payload.requestId before with
      | some earlier =>
          have same : after = before := by
            cases createInvoice_ok ran with
            | replayed invoice found same => rfl
            | opened network token wallet pay middle opened unused => simp [existing] at unused
          rw [same]
          refine iff_of_true distinct ?_
          intro network token address admitted
          have unused := admitted.unused
          simp [existing] at unused
      | none =>
          obtain ⟨network, token, address, admitted, rows, status, till⟩ :=
            admitted_of_opened ran existing
          have waiting : invoice.status.isWaiting = true := by rw [status]; rfl
          have keys := after.invoices.distinct
          rw [rows, List.map_append, List.nodup_append] at keys
          have fresh : ∀ row ∈ before.invoices.rows, row.id ≠ invoice.id := by
            intro row member
            exact keys.2.2 _ (List.mem_map_of_mem member) _ (List.mem_singleton_self _)
          rw [rows, distinct_append_iff waiting fresh distinct, till]
          constructor
          · intro free otherNetwork otherToken otherAddress other
            have pair := admitted.pair.symm.trans other.pair
            cases pair
            rw [← located_unique admitted.located other.located]
            exact free
          · intro asks
            exact asks network token address admitted

end Creation

theorem distinct_serve {op : Op} (distinct : Distinct before.invoices.rows)
    (other : ∀ payload merchantId userId draws,
      op ≠ .createInvoice payload merchantId userId draws) :
    Distinct (serve runtime before op).invoices.rows := by
  have attended := attended_of_serve runtime before op
  generalize serve runtime before op = after at attended
  cases attended with
  | created payload merchantId userId draws invoice after returned =>
      exact absurd rfl (other payload merchantId userId draws)
  | registered payload fresh network after inserted =>
      obtain ⟨wallets, -, rfl⟩ := Option.map_eq_some_iff.mp inserted
      exact distinct
  | turned op after turns =>
      exact turns_keep (fun _ _ holds turn => distinct_turn turn holds) distinct turns

theorem amountsIdentify_serve_iff (runtime : Runtime) (before : CryptoDb) (op : Op)
    (identify : AmountsIdentify before) :
    AmountsIdentify (serve runtime before op) ↔ AsksFreeAmount runtime before op := by
  rw [identify_iff]
  cases op with
  | createInvoice payload merchantId userId draws => exact distinct_created_iff identify.distinct
  | _ => exact iff_of_true (distinct_serve identify.distinct (by simp)) trivial

/-- From a state in which amounts identify invoices, they do so after every request of a
run if and only if every new invoice asks for a free amount. -/
theorem amounts_identify_iff (runtime : Runtime) (start : CryptoDb)
    (identify : AmountsIdentify start) (events : List Op) :
    Run.Along (fun db op => AmountsIdentify (serve runtime db op)) (serve runtime) start events ↔
      Run.Along (AsksFreeAmount runtime) (serve runtime) start events :=
  Run.along_iff AmountsIdentify
    (fun db op holds => amountsIdentify_serve_iff runtime db op holds)
    (fun _ _ _ identified => identified) identify

theorem identify_without_invoices {db : CryptoDb} (vacant : db.invoices.rows = []) :
    AmountsIdentify db := by
  rw [identify_iff, vacant]
  intro first member
  cases member

def askedAgain : List Op := [
  .createInvoice (order "r1" (some merchantAddress)) "m1" none (drawsAt 1 "i1" "w1"),
  .cancelInvoice "TXi1" (some "m1") ⟨"callback", 2⟩,
  .createInvoice (order "r2" (some merchantAddress)) "m1" none (drawsAt 3 "i2" "w2")]

theorem amounts_identify_asked_again :
    Run.Along (fun db op => AmountsIdentify (serve .ascii db op)) (serve .ascii) market
      askedAgain := by
  apply (amounts_identify_iff .ascii market (identify_without_invoices rfl) askedAgain).mpr
  have nobody : ∀ invoice ∈ ((askedAgain.take 2).foldl (serve .ascii) market).invoices.rows,
      invoice.status.isWaiting = false := by decide +kernel
  refine ⟨?_, trivial, ?_, trivial⟩
  · intro network token address admitted invoice member
    cases member
  · intro network token address admitted invoice member waiting
    rw [nobody invoice member] at waiting
    cases waiting

def dustyMarket : CryptoDb := { market with
  tokens := ⟨[{ usdt with dustPrecision := 2 }], by decide⟩ }

def drawnTwice : List Op := [
  .adminCreateWallet systemWallet ⟨"w2", 1⟩,
  .createInvoice (order "r1" none) "m1" none { drawsAt 2 "i1" "w1" with suffix := 6 },
  .createInvoice (order "r2" none) "m1" none { drawsAt 3 "i2" "w1" with suffix := 6 }]

theorem suffix_drawn_twice : ¬∀ runtime start (events : List Op), AmountsIdentify start →
    AmountsIdentify (events.foldl (serve runtime) start) := by
  intro always
  have identify := always .ascii dustyMarket drawnTwice (identify_without_invoices rfl)
  have clash : ∃ first ∈ (drawnTwice.foldl (serve .ascii) dustyMarket).invoices.rows,
      ∃ second ∈ (drawnTwice.foldl (serve .ascii) dustyMarket).invoices.rows,
        first.status.isWaiting = true ∧ second.status.isWaiting = true ∧
          invoiceTill first = invoiceTill second ∧ first.id ≠ second.id := by decide +kernel
  obtain ⟨first, firstMember, second, secondMember, firstWaits, secondWaits, till, apart⟩ := clash
  have same := identify.distinct first firstMember second secondMember firstWaits secondWaits till
  exact apart (congrArg CryptoInvoice.id same)

end ApiBank.Crypto.DistinctAmounts
