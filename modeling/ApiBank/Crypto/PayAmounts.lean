import ApiBank.Crypto.Operations
import ApiBank.Numeric.Digits

/-!
# Amounts to pay

A new invoice asks for an amount of some decimal places, and the chain counts in whole
units of the token. The places of the token, of its dust and of the client's amount are
three numbers that nothing relates.
-/

namespace ApiBank.Crypto.PayAmounts

open ApiBank.Db ApiBank.Numeric ApiBank.Relational ApiBank.Transition
open Invoices Operations Watchers

set_option autoImplicit false

variable {runtime : Runtime}

/-- The name is left out. -/
structure CryptoTokenCreate where
  network : String
  symbol : String
  contractAddress : String
  decimals : Nat
  minInvoiceAmount : ℚ
  maxInvoiceAmount : ℚ
  dustPrecision : Nat
  decimals_le : decimals ≤ 36
  minPositive : 0 < minInvoiceAmount
  maxPositive : 0 < maxInvoiceAmount
  dustPrecision_le : dustPrecision ≤ 18

def registeredToken (runtime : Runtime) (payload : CryptoTokenCreate) (network : CryptoNetwork)
    (id : String) : CryptoToken where
  id := id
  networkId := network.id
  symbol := runtime.upperText payload.symbol
  contractAddress :=
    if network.chainType = "evm" then runtime.lowerText payload.contractAddress
    else payload.contractAddress
  decimals := payload.decimals
  minInvoiceAmount := tokenColumn payload.minInvoiceAmount
  maxInvoiceAmount := tokenColumn payload.maxInvoiceAmount
  dustPrecision := payload.dustPrecision
  status := "active"

/-- `uq_crypto_token_network_symbol_contract`. -/
def sameContract (token other : CryptoToken) : Bool :=
  token.networkId = other.networkId && token.symbol = other.symbol &&
    token.contractAddress = other.contractAddress

def insertToken? (token : CryptoToken) (db : CryptoDb) : Option CryptoDb :=
  (db.tokens.insertUnique? sameContract token).map fun tokens => { db with tokens }

def adminCreateToken (runtime : Runtime) (payload : CryptoTokenCreate) (id : String) :
    CryptoSession CryptoToken := do
  let network ← select (networkOf runtime payload.network)
    (.httpException 404 "network not found")
  let token := registeredToken runtime payload network id
  flush (insertToken? token)
  pure token

theorem adminCreateToken_ok {payload : CryptoTokenCreate} {id : String} {before after : CryptoDb}
    {token : CryptoToken}
    (returned : adminCreateToken runtime payload id before = .ok token after) :
    ∃ network, token = registeredToken runtime payload network id := by
  unfold adminCreateToken at returned
  obtain ⟨network, middle, selected, flushed⟩ := (Effect.bind_ok_iff ..).mp returned
  obtain ⟨⟨⟩, final, inserted, done⟩ := (Effect.bind_ok_iff ..).mp flushed
  cases done
  exact ⟨network, rfl⟩

/-! ## What is asked of an invoice -/

/-- The wallet is the platform's choice, and the token has dust. -/
def Suffixed (payload : CryptoInvoiceCreate) (token : CryptoToken) : Prop :=
  payload.address = none ∧ token.dustPrecision ≠ 0

/-- The amount to pay is the requested one and less than one more, more than it under a
suffix, and a raw value of the chain is read as that amount. -/
structure Payable (token : CryptoToken) (suffixed : Prop) (invoice : CryptoInvoice) : Prop where
  atLeast : invoice.requestedAmount ≤ invoice.payAmount
  under : invoice.payAmount < invoice.requestedAmount + 1
  above : suffixed → invoice.requestedAmount < invoice.payAmount
  reachable : ∃ raw : ℕ, 0 < raw ∧ (raw : ℚ) = invoice.payAmount * 10 ^ token.decimals ∧
    tokenColumn (rawToDecimal raw token.decimals) = invoice.payAmount

def OpensPayable (payload : CryptoInvoiceCreate) (token : CryptoToken) (draws : InvoiceDraws) :
    Prop :=
  ∃ pay, payAmount payload token draws = .ok pay ∧ ∀ merchantId userId network wallet,
    Payable token (Suffixed payload token)
      (newInvoice payload merchantId userId network token wallet pay draws)

theorem fits_of_payable {token : CryptoToken} {suffixed : Prop} {invoice : CryptoInvoice}
    (payable : Payable token suffixed invoice) : ∃ raw : ℕ,
      ∀ (transfer : CryptoChainTransfer) (now : Int), transfer.networkId = invoice.networkId →
        transfer.tokenId = invoice.tokenId → transfer.toAddress = invoice.address →
          transfer.amountDecimal = tokenColumn (rawToDecimal raw token.decimals) →
            invoice.status.isWaiting = true → invoice.createdAt ≤ transferTime transfer now →
              transferTime transfer now ≤ invoice.expiresAt → fits transfer now invoice = true := by
  obtain ⟨raw, -, -, read⟩ := payable.reachable
  refine ⟨raw, ?_⟩
  intro transfer now network tokenSame target amount waiting opened due
  rw [read] at amount
  simp [fits, network, tokenSame, target, amount, waiting, opened, due]

/-! ## When it is so -/

/-- Whole units of dust, rounded down. -/
def dustUnits (amount : ℚ) (precision : Nat) : ℤ := ⌊amount * 10 ^ precision⌋

def columnUnits (amount : ℚ) : ℤ := nearestAway (amount * 10 ^ 18)

def nearestTen (units : ℤ) : ℤ := 10 * nearestEven ((units : ℚ) / 10)

/-- Without a suffix: the column holds a positive amount, in whole units of the token and
of no more digits than a context has. -/
structure PlainFits (amount : ℚ) (decimals : Nat) : Prop where
  positive : 0 < columnUnits amount
  whole : (10 : ℤ) ^ 18 ∣ columnUnits amount * 10 ^ decimals
  short : HasDigits contextDigits (columnUnits amount)

/-- With a suffix: the units of dust fit the context, and so does their sum with the suffix,
which is in whole units of the token and is not the requested amount again. A sum of one
digit too many counts by its nearest ten. -/
structure SuffixFits (amount : ℚ) (precision decimals suffix : Nat) : Prop where
  measured : dustUnits amount precision < 10 ^ contextDigits
  short : dustUnits amount precision + (suffix + 1) < 10 ^ contextDigits →
    (suffix = 0 → tokenColumn amount * 10 ^ precision < dustUnits amount precision + 1) ∧
      (10 : ℤ) ^ precision ∣ (dustUnits amount precision + (suffix + 1)) * 10 ^ decimals
  long : 10 ^ contextDigits ≤ dustUnits amount precision + (suffix + 1) →
    tokenColumn amount * 10 ^ precision <
        nearestTen (dustUnits amount precision + (suffix + 1)) ∧
      nearestTen (dustUnits amount precision + (suffix + 1)) <
        (tokenColumn amount + 1) * 10 ^ precision ∧
      (10 : ℤ) ^ precision ∣
        nearestTen (dustUnits amount precision + (suffix + 1)) * 10 ^ decimals

def AmountFits (payload : CryptoInvoiceCreate) (token : CryptoToken) (draws : InvoiceDraws) :
    Prop :=
  (¬Suffixed payload token → PlainFits payload.amount token.decimals) ∧
    (Suffixed payload token →
      SuffixFits payload.amount token.dustPrecision token.decimals draws.suffix)

/-- A raw value is read as some amount just when the amount is a positive number of whole
units and has few enough digits. -/
theorem reachable_iff (units : ℤ) {places : ℕ} (decimals : ℕ) (coarse : places ≤ 18) :
    (∃ raw : ℕ, 0 < raw ∧ (raw : ℚ) = units / 10 ^ places * 10 ^ decimals ∧
      tokenColumn (rawToDecimal raw decimals) = units / 10 ^ places) ↔
        0 < units ∧ (10 : ℤ) ^ places ∣ units * 10 ^ decimals ∧
          HasDigits contextDigits units := by
  have scale : (0 : ℚ) < 10 ^ places := by positivity
  have factor : (0 : ℚ) < 10 ^ decimals := by positivity
  have read {raw : ℕ} (counted : (raw : ℚ) = units / 10 ^ places * 10 ^ decimals) :
      tokenColumn (rawToDecimal raw decimals) =
        significant contextDigits (units / 10 ^ places) := by
    have back : (raw : ℚ) / 10 ^ decimals = units / 10 ^ places := by
      rw [counted, mul_div_assoc, div_self factor.ne', mul_one]
    obtain ⟨whole, rounded⟩ := significant_whole contextDigits places units
    rw [rawToDecimal, back, rounded]
    exact fixedPoint_exact whole coarse
  constructor
  · intro reachable
    obtain ⟨raw, positive, counted, column⟩ := reachable
    have product : (raw : ℤ) * 10 ^ places = units * 10 ^ decimals := by
      have cast : (raw : ℚ) * 10 ^ places = units * 10 ^ decimals := by
        rw [counted]
        field_simp
      exact_mod_cast cast
    refine ⟨?_, ⟨raw, by rw [← product, mul_comm]⟩, ?_⟩
    · have left : 0 < (raw : ℤ) * 10 ^ places := by positivity
      rw [product] at left
      exact pos_of_mul_pos_left left (by positivity)
    · rw [read counted] at column
      exact significant_exact_iff.mp column
  · intro fits
    obtain ⟨positive, ⟨raw, product⟩, short⟩ := fits
    have counts : 0 < raw := by
      have left : 0 < units * 10 ^ decimals := by positivity
      rw [product] at left
      exact pos_of_mul_pos_right left (by positivity)
    lift raw to ℕ using counts.le
    have counted : (raw : ℚ) = units / 10 ^ places * 10 ^ decimals := by
      have cast : (units : ℚ) * 10 ^ decimals = 10 ^ places * raw := by exact_mod_cast product
      rw [div_mul_eq_mul_div, cast, mul_div_cancel_left₀ _ scale.ne']
    refine ⟨raw, by exact_mod_cast counts, counted, ?_⟩
    rw [read counted]
    exact significant_exact_iff.mpr short

theorem column_near {amount : ℚ} {precision : Nat} (nonneg : 0 ≤ amount)
    (coarse : precision ≤ 18) :
    (dustUnits amount precision : ℚ) ≤ tokenColumn amount * 10 ^ precision ∧
      tokenColumn amount * 10 ^ precision ≤ dustUnits amount precision + 1 := by
  have scale : (0 : ℚ) < 10 ^ precision := by positivity
  have below := Int.floor_le (amount * 10 ^ precision)
  have above := (Int.lt_floor_add_one (amount * 10 ^ precision)).le
  have units : 0 ≤ dustUnits amount precision := Int.floor_nonneg.mpr (by positivity)
  constructor
  · have least : (dustUnits amount precision : ℚ) / 10 ^ precision ≤ amount :=
      (div_le_iff₀ scale).mpr below
    have start : (0 : ℚ) ≤ (dustUnits amount precision : ℚ) / 10 ^ precision :=
      div_nonneg (by exact_mod_cast units) scale.le
    have columns := (fixedPoint_mono start least : fixedPoint 18 _ ≤ fixedPoint 18 _)
    rw [fixedPoint_exact _ coarse] at columns
    exact (div_le_iff₀ scale).mp columns
  · have most : amount ≤ ((dustUnits amount precision + 1 : ℤ) : ℚ) / 10 ^ precision := by
      rw [le_div_iff₀ scale]
      push_cast
      exact above
    have columns := (fixedPoint_mono nonneg most : fixedPoint 18 _ ≤ fixedPoint 18 _)
    rw [fixedPoint_exact _ coarse] at columns
    have bound := (le_div_iff₀ scale).mp columns
    push_cast at bound
    exact bound

section Opened

variable {payload : CryptoInvoiceCreate} {token : CryptoToken} {draws : InvoiceDraws}

theorem price_plain (plain : ¬Suffixed payload token) :
    payAmount payload token draws = .ok payload.amount := by
  unfold payAmount suffixAmount
  by_cases unnamed : payload.address = none
  · have dustless : token.dustPrecision = 0 := by
      by_contra dust
      exact plain ⟨unnamed, dust⟩
    rw [if_pos unnamed, if_pos dustless]
  · rw [if_neg unnamed]

theorem opens_plain_iff (plain : ¬Suffixed payload token) :
    OpensPayable payload token draws ↔ PlainFits payload.amount token.decimals := by
  have reaches := reachable_iff (columnUnits payload.amount) token.decimals (le_refl 18)
  constructor
  · intro opens
    obtain ⟨pay, priced, payable⟩ := opens
    rw [price_plain plain] at priced
    cases priced
    have reachable := (payable "" none ⟨"", "", "", "", 0, 0, ""⟩
      (merchantWallet "" "" "" draws)).reachable
    obtain ⟨positive, whole, short⟩ := reaches.mp reachable
    exact ⟨positive, whole, short⟩
  · intro fits
    refine ⟨payload.amount, price_plain plain, ?_⟩
    intro merchantId userId network wallet
    constructor
    · exact le_refl _
    · exact lt_add_one _
    · intro suffixed
      exact absurd suffixed plain
    · exact reaches.mpr ⟨fits.positive, fits.whole, fits.short⟩

def sumUnits (amount : ℚ) (precision suffix : Nat) : ℤ :=
  let sum := dustUnits amount precision + (suffix + 1)
  if sum < 10 ^ contextDigits then sum else nearestTen sum

theorem dustUnits_nonneg {amount : ℚ} (precision : Nat) (nonneg : 0 ≤ amount) :
    0 ≤ dustUnits amount precision :=
  Int.floor_nonneg.mpr (by positivity)

theorem nearestTen_near (units : ℤ) : units - 5 ≤ nearestTen units ∧ nearestTen units ≤ units + 5 := by
  have low := le_nearestEven_add_half ((units : ℚ) / 10)
  have high : nearestEven ((units : ℚ) / 10) ≤ ((units + 5) / 10 : ℤ) := by
    apply nearestEven_le_of_lt
    have floor : units + 5 < 10 * ((units + 5) / 10) + 10 := by omega
    have cast : (units : ℚ) + 5 < 10 * ((units + 5) / 10 : ℤ) + 10 := by exact_mod_cast floor
    linarith
  unfold nearestTen
  constructor
  · have cast : (units : ℚ) - 5 ≤ 10 * nearestEven ((units : ℚ) / 10) := by linarith
    exact_mod_cast cast
  · omega

theorem sum_bounds {amount : ℚ} {precision suffix : Nat} (nonneg : 0 ≤ amount)
    (coarse : precision ≤ 18) (drawn : suffix < 10 ^ precision - 1)
    (measured : dustUnits amount precision < 10 ^ contextDigits) :
    0 < sumUnits amount precision suffix ∧
      HasDigits contextDigits (sumUnits amount precision suffix) ∧
        significant contextDigits
          (((dustUnits amount precision + (suffix + 1) : ℤ) : ℚ) / 10 ^ precision) =
            sumUnits amount precision suffix / 10 ^ precision := by
  have start := dustUnits_nonneg precision nonneg
  have suffixes : (suffix : ℤ) + 1 < 10 ^ 18 := by
    have finer : 10 ^ precision ≤ 10 ^ 18 := Nat.pow_le_pow_right (by norm_num) coarse
    omega
  unfold sumUnits
  generalize dustUnits amount precision = dust at start measured
  dsimp only
  split
  · rename_i fits
    have size : |dust + (suffix + 1)| < 10 ^ contextDigits := by
      rw [abs_of_nonneg (by omega)]
      exact fits
    exact ⟨by omega, ⟨0, by simp, size⟩, significant_exact precision size⟩
  · rename_i exceeds
    have least := not_lt.mp exceeds
    have most : dust + (suffix + 1) < 10 ^ (contextDigits + 1) := by
      norm_num [contextDigits] at measured ⊢
      omega
    have near := nearestTen_near (dust + (suffix + 1))
    have positive : 0 < nearestTen (dust + (suffix + 1)) := by
      norm_num [contextDigits] at least
      omega
    have size : |nearestTen (dust + (suffix + 1))| < 10 ^ (contextDigits + 1) := by
      rw [abs_of_pos positive]
      norm_num [contextDigits] at measured ⊢
      omega
    exact ⟨positive, ⟨1, ⟨nearestEven (((dust + (suffix + 1) : ℤ) : ℚ) / 10), by simp [nearestTen]⟩,
      size⟩, significant_next precision least most⟩

theorem price_suffixed (suffixed : Suffixed payload token) : payAmount payload token draws =
    if 10 ^ contextDigits ≤ dustUnits payload.amount token.dustPrecision then
      .error .invalidOperation
    else .ok (significant contextDigits
      (((dustUnits payload.amount token.dustPrecision + (draws.suffix + 1) : ℤ) : ℚ) /
        10 ^ token.dustPrecision)) := by
  unfold payAmount suffixAmount
  rw [if_pos suffixed.1, if_neg suffixed.2]
  push_cast
  rfl

theorem payable_suffixed_iff (suffixed : Suffixed payload token)
    (coarse : token.dustPrecision ≤ 18) {units : ℤ} (positive : 0 < units)
    (short : HasDigits contextDigits units) (merchantId : String) (userId : Option String)
    (network : CryptoNetwork) (wallet : CryptoWallet) :
    Payable token (Suffixed payload token) (newInvoice payload merchantId userId network token
        wallet (units / 10 ^ token.dustPrecision) draws) ↔
      tokenColumn payload.amount * 10 ^ token.dustPrecision < units ∧
        units < (tokenColumn payload.amount + 1) * 10 ^ token.dustPrecision ∧
          (10 : ℤ) ^ token.dustPrecision ∣ units * 10 ^ token.decimals := by
  have scale : (0 : ℚ) < 10 ^ token.dustPrecision := by positivity
  have column : tokenColumn (units / 10 ^ token.dustPrecision) =
      units / 10 ^ token.dustPrecision := fixedPoint_exact _ coarse
  have reaches := reachable_iff units token.decimals coarse
  constructor
  · intro payable
    have above := payable.above suffixed
    have under := payable.under
    have reachable := payable.reachable
    dsimp only [newInvoice] at above under reachable
    rw [column] at above under reachable
    exact ⟨(lt_div_iff₀ scale).mp above, (div_lt_iff₀ scale).mp under, (reaches.mp reachable).2.1⟩
  · intro fits
    obtain ⟨above, under, whole⟩ := fits
    have more := (lt_div_iff₀ scale).mpr above
    constructor
    · rw [newInvoice, column]
      exact more.le
    · rw [newInvoice, column]
      exact (div_lt_iff₀ scale).mpr under
    · intro drawnToo
      rw [newInvoice, column]
      exact more
    · rw [newInvoice, column]
      exact reaches.mpr ⟨positive, whole, short⟩

theorem opens_suffixed_iff (suffixed : Suffixed payload token) (coarse : token.dustPrecision ≤ 18)
    (drawn : draws.suffix < 10 ^ token.dustPrecision - 1) :
    OpensPayable payload token draws ↔
      dustUnits payload.amount token.dustPrecision < 10 ^ contextDigits ∧
        tokenColumn payload.amount * 10 ^ token.dustPrecision <
            sumUnits payload.amount token.dustPrecision draws.suffix ∧
          sumUnits payload.amount token.dustPrecision draws.suffix <
              (tokenColumn payload.amount + 1) * 10 ^ token.dustPrecision ∧
            (10 : ℤ) ^ token.dustPrecision ∣
              sumUnits payload.amount token.dustPrecision draws.suffix * 10 ^ token.decimals := by
  by_cases measured : dustUnits payload.amount token.dustPrecision < 10 ^ contextDigits
  · obtain ⟨positive, short, rounded⟩ :=
      sum_bounds payload.positive.le coarse drawn measured
    have priced : payAmount payload token draws = .ok
        (sumUnits payload.amount token.dustPrecision draws.suffix / 10 ^ token.dustPrecision) := by
      rw [price_suffixed suffixed, if_neg (not_le.mpr measured), rounded]
    have payable := @payable_suffixed_iff _ _ draws suffixed coarse _ positive short
    constructor
    · intro opens
      obtain ⟨pay, same, always⟩ := opens
      rw [priced] at same
      cases same
      have somewhere := always "" none ⟨"", "", "", "", 0, 0, ""⟩ (merchantWallet "" "" "" draws)
      exact ⟨measured, (payable _ _ _ _).mp somewhere⟩
    · intro fits
      refine ⟨_, priced, ?_⟩
      intro merchantId userId network wallet
      exact (payable merchantId userId network wallet).mpr fits.2
  · constructor
    · intro opens
      obtain ⟨pay, priced, payable⟩ := opens
      rw [price_suffixed suffixed, if_pos (not_lt.mp measured)] at priced
      cases priced
    · intro fits
      exact absurd fits.1 measured

/-- Below the bound of the context the sum is above the requested amount unless the suffix is
one and the column has rounded up, and never as much as one more. -/
theorem suffixFits_iff {amount : ℚ} {precision : Nat} (decimals : Nat) {suffix : Nat}
    (nonneg : 0 ≤ amount) (coarse : precision ≤ 18) (drawn : suffix < 10 ^ precision - 1) :
    SuffixFits amount precision decimals suffix ↔
      dustUnits amount precision < 10 ^ contextDigits ∧
        tokenColumn amount * 10 ^ precision < sumUnits amount precision suffix ∧
          sumUnits amount precision suffix < (tokenColumn amount + 1) * 10 ^ precision ∧
            (10 : ℤ) ^ precision ∣ sumUnits amount precision suffix * 10 ^ decimals := by
  have near := column_near nonneg coarse
  have suffixes : (suffix : ℚ) + 1 < 10 ^ precision := by
    have whole : suffix + 1 < 10 ^ precision := by omega
    exact_mod_cast whole
  unfold sumUnits
  dsimp only
  constructor
  · intro fits
    refine ⟨fits.measured, ?_⟩
    split
    · rename_i few
      obtain ⟨first, whole⟩ := fits.short few
      refine ⟨?_, ?_, whole⟩
      · push_cast
        by_cases one : suffix = 0
        · have less := first one
          simpa [one] using less
        · have two : (1 : ℚ) ≤ suffix := by exact_mod_cast Nat.one_le_iff_ne_zero.mpr one
          linarith
      · push_cast
        linarith
    · rename_i many
      exact fits.long (not_lt.mp many)
  · intro fits
    obtain ⟨measured, rest⟩ := fits
    refine ⟨measured, ?_, ?_⟩
    · intro few
      rw [if_pos few] at rest
      obtain ⟨above, -, whole⟩ := rest
      refine ⟨?_, whole⟩
      intro one
      simpa [one] using above
    · intro many
      rw [if_neg (not_lt.mpr many)] at rest
      exact rest

/-- An invoice of a token that was created here is payable just when its amount fits. -/
theorem opens_payable_iff {creation : CryptoTokenCreate} {id : String} {before after : CryptoDb}
    (created : adminCreateToken runtime creation id before = .ok token after)
    (drawn : Suffixed payload token → draws.suffix < 10 ^ token.dustPrecision - 1) :
    OpensPayable payload token draws ↔ AmountFits payload token draws := by
  obtain ⟨network, registered⟩ := adminCreateToken_ok created
  have coarse : token.dustPrecision ≤ 18 := by
    rw [registered]
    exact creation.dustPrecision_le
  by_cases suffixed : Suffixed payload token
  · rw [opens_suffixed_iff suffixed coarse (drawn suffixed),
      ← suffixFits_iff token.decimals payload.positive.le coarse (drawn suffixed)]
    constructor
    · intro fits
      exact ⟨fun plain => absurd suffixed plain, fun _ => fits⟩
    · intro fits
      exact fits.2 suffixed
  · rw [opens_plain_iff suffixed]
    constructor
    · intro fits
      exact ⟨fun _ => fits, fun dust => absurd dust suffixed⟩
    · intro fits
      exact fits.1 suffixed

def sixPlaces (decimals : Nat) (decimals_le : decimals ≤ 36) : CryptoTokenCreate where
  network := "bsc"
  symbol := "USDT"
  contractAddress := "0x55d398326f99059ff775485246999027b3197955"
  decimals := decimals
  minInvoiceAmount := 1
  maxInvoiceAmount := 100000
  dustPrecision := 6
  decimals_le := decimals_le
  minPositive := by norm_num
  maxPositive := by norm_num
  dustPrecision_le := by norm_num

theorem created_first {creation : CryptoTokenCreate} {network : CryptoNetwork} (id : String)
    {before : CryptoDb} (vacant : before.tokens = .empty)
    (found : networkOf runtime creation.network before = some network) : ∃ after,
      adminCreateToken runtime creation id before =
        .ok (registeredToken runtime creation network id) after := by
  have inserted : insertToken? (registeredToken runtime creation network id) before =
      some { before with tokens := ⟨[registeredToken runtime creation network id], by simp⟩ } := by
    unfold insertToken?
    rw [vacant]
    rfl
  simp [adminCreateToken, bind, EStateM.bind, select, flush, found, inserted]

def tokenless : CryptoDb := { market with tokens := .empty }

theorem ten_in_dust : dustUnits 10 6 = 10000000 := by
  unfold dustUnits
  norm_num

theorem six_decimals_payable : OpensPayable (order "r1" none)
    (registeredToken .ascii (sixPlaces 6 (by decide)) bsc "t2") (drawsAt 1 "i1" "w1") := by
  have network : networkOf .ascii (sixPlaces 6 (by decide)).network tokenless = some bsc := rfl
  obtain ⟨after, created⟩ := created_first "t2" rfl network
  apply (opens_payable_iff created fun suffixed => by decide).mpr
  constructor
  · intro plain
    exact absurd ⟨rfl, by decide⟩ plain
  · intro suffixed
    have column : tokenColumn 10 = 10 := by decide +kernel
    have sum : dustUnits 10 6 + (((0 : ℕ) : ℤ) + 1) = 10000001 := by
      rw [ten_in_dust]
      norm_num
    have fits : SuffixFits 10 6 6 0 := by
      constructor
      · rw [ten_in_dust]
        norm_num [contextDigits]
      · intro few
        refine ⟨?_, Dvd.intro_left _ rfl⟩
        intro first
        rw [column, ten_in_dust]
        norm_num
      · intro many
        rw [sum] at many
        norm_num [contextDigits] at many
    exact fits

/-- Ten and a millionth of a token with two decimals cannot be sent. -/
theorem two_decimals_unpayable : ¬∀ (runtime : Runtime) (creation : CryptoTokenCreate)
    (id : String) (before after : CryptoDb) (token : CryptoToken) (payload : CryptoInvoiceCreate)
    (draws : InvoiceDraws), adminCreateToken runtime creation id before = .ok token after →
      token.minInvoiceAmount ≤ payload.amount → payload.amount ≤ token.maxInvoiceAmount →
        (Suffixed payload token → draws.suffix < 10 ^ token.dustPrecision - 1) →
          OpensPayable payload token draws := by
  intro always
  have network : networkOf .ascii (sixPlaces 2 (by decide)).network tokenless = some bsc := rfl
  obtain ⟨after, created⟩ := created_first "t2" rfl network
  have least : tokenColumn 1 ≤ 10 := by decide +kernel
  have most : 10 ≤ tokenColumn 100000 := by decide +kernel
  have opens := always .ascii _ "t2" _ after _ (order "r1" none) (drawsAt 1 "i1" "w1") created
    least most fun suffixed => by decide
  have told := (opens_suffixed_iff ⟨rfl, by decide⟩ (by decide) (by decide)).mp opens
  have whole : (10 : ℤ) ^ 6 ∣ sumUnits 10 6 0 * 10 ^ 2 := told.2.2.2
  have sum : sumUnits 10 6 0 = 10000001 := by
    unfold sumUnits
    rw [ten_in_dust]
    norm_num [contextDigits]
  rw [sum] at whole
  revert whole
  decide

end Opened

end ApiBank.Crypto.PayAmounts
