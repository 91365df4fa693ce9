import ApiBank.Banks.DateWindows
import ApiBank.Core.ArrivalOrder
import Mathlib.Data.List.Pairwise
import Mathlib.Data.List.TakeWhile

/-!
# The items of a bank's history

Three adapters make transactions of the raw items that a bank lists. The constructor
refuses a zero amount and an empty reference, and as the adapters are generators one
refused item ends the tick: the transactions before it are committed, the cursor is not
saved, and the next tick asks for the same items again. An item without a reference takes
the text of whatever its last reference field holds, `None` for most.
-/

namespace ApiBank.Banks.History

open ApiBank.Db ApiBank.Relational ApiBank.Transition
open ApiBank.Core Core.Ingest Core.MatchDecision Core.Polling Core.SameButIds Core.ArrivalOrder
open Core.Matcher (UnicodeData)
open DateWindows (Adapter astimezone)

set_option autoImplicit false

/-! ## The adapters -/

/-- Python's conversions: `decimal` is `None` where `Decimal` raises, `strptime` and
`fromisoformat` where they raise `ValueError`. The last two are the offsets of the
Vietnamese and of the system's zone at a wall reading. -/
structure Python where
  str : Json → String
  isspace : Char → Bool
  decimal : String → Option Int
  strptime : String → String → Option Int
  fromisoformat : String → Option DateTime
  vietnam : Int → Int
  system : Int → Int

/-- What ends a tick in the middle of the list. -/
inductive Refusal where
  | invalidOperation
  | overflowError
  | valueError (message : String)
  deriving DecidableEq, Repr

/-- `raw.get(key)`. -/
def rawGet (raw : Metadata) (key : String) : Json := (raw.lookup key).getD .null

/-- `first or second or …`: the first true value, or else the last one. -/
def anyOf (values : List Json) : Json :=
  (values.find? Json.truthy).getD (values.getLast?.getD .null)

/-- `value.replace(char, "")`. -/
def without (char : Char) (value : String) : String :=
  String.ofList (value.toList.filter (· ≠ char))

section Reading

variable (python : Python)

def strip (value : String) : String :=
  String.ofList ((value.toList.dropWhile python.isspace).reverse.dropWhile python.isspace).reverse

/-- `_parse_amount` of the MB adapter. -/
def mbParseAmount (value : Json) : Option Int :=
  let normalized := strip python (without ',' (python.str value))
  if normalized = "" then some 0 else python.decimal normalized

/-- `_parse_amount` of the VietinBank adapter, for which an unreadable amount is zero. -/
def vietinParseAmount (value : Json) : Option Int :=
  let text := strip python (without ' ' (without ',' (python.str value)))
  if text = "" then some 0 else some ((python.decimal text).getD 0)

/-- `credit if credit > 0 else -debit`, once both are read. -/
def creditOrDebit (credit debit : Option Int) : Option Int :=
  credit.bind fun credit => debit.map fun debit => if 0 < credit then credit else -debit

def mbAmount (raw : Metadata) : Option Int :=
  creditOrDebit
    (mbParseAmount python
      (anyOf [rawGet raw "creditAmount", rawGet raw "credit_amount", .number 0]))
    (mbParseAmount python
      (anyOf [rawGet raw "debitAmount", rawGet raw "debit_amount", .number 0]))

def vietinAmount (raw : Metadata) : Option Int :=
  creditOrDebit
    (vietinParseAmount python
      (anyOf [rawGet raw "creditAmount", rawGet raw "creditAmt", .number 0]))
    (vietinParseAmount python
      (anyOf [rawGet raw "debitAmount", rawGet raw "debitAmt", .number 0]))

def bridgeAmount (raw : Metadata) : Option Int :=
  let credited := python.decimal
    (python.str (anyOf [rawGet raw "amount", rawGet raw "creditAmount", .number 0]))
  credited.bind fun amount =>
    if amount = 0 then
      (python.decimal (python.str (anyOf [rawGet raw "debitAmount", .number 0]))).map (- ·)
    else some amount

/-- `_parse_datetime`; `None` stands for `OverflowError`. -/
def parseDatetime (formats : List String) (value : String) (now : Int) : Option DateTime :=
  if value = "" then some (.utc now)
  else
    match formats.findSome? (python.strptime value) with
    | some wall => astimezone (fun _ => 0) ⟨wall, some (python.vietnam wall)⟩
    | none =>
        match python.fromisoformat value with
        | some parsed => astimezone (fun _ => 0)
            ⟨parsed.wall, some (parsed.utcOffset.getD (python.system parsed.wall))⟩
        | none => some (.utc now)

def reliableTimestamp (formats : List String) (value : String) : Bool :=
  formats.any (fun format => (python.strptime value format).isSome) ||
    (python.fromisoformat value).any fun parsed =>
      value.toList.contains 'T' && parsed.utcOffset.isSome

/-- What tells one adapter from another: how it reads an amount, which fields hold the
reference, the date and the text, and which formats a date may have. -/
structure Layout where
  amount : Metadata → Option Int
  references : List String
  posted : Metadata → Json
  contents : List String
  formats : List String
  reliableFormats : List String

def mbLayout : Layout where
  amount := mbAmount python
  references := ["refNo", "ref_no", "transactionId", "transactionNumber"]
  posted := fun raw => anyOf
    [rawGet raw "transactionDate", rawGet raw "postingDate", rawGet raw "transactionTime"]
  contents := ["description", "content"]
  formats := ["%d/%m/%Y %H:%M:%S", "%d/%m/%Y", "%Y-%m-%dT%H:%M:%S", "%d%m%Y%H%M%S"]
  reliableFormats := ["%d/%m/%Y %H:%M:%S", "%d%m%Y%H%M%S"]

/-- The node bridge reads dates with the functions of the MB adapter. -/
def bridgeLayout : Layout where
  amount := bridgeAmount python
  references := ["refNo", "transactionId"]
  posted := fun raw => anyOf [rawGet raw "postedAt", rawGet raw "transactionDate", .text ""]
  contents := ["description", "content"]
  formats := (mbLayout python).formats
  reliableFormats := (mbLayout python).reliableFormats

def vietinLayout : Layout where
  amount := vietinAmount python
  references := ["refNo", "transactionRef", "ref", "id"]
  posted := fun raw => anyOf
    [rawGet raw "transDate", rawGet raw "transactionDate", rawGet raw "postingDate", .text ""]
  contents := ["description", "remark", "memo"]
  formats := ["%d/%m/%Y %H:%M:%S", "%d/%m/%Y", "%Y-%m-%d %H:%M:%S", "%Y-%m-%dT%H:%M:%S"]
  reliableFormats := ["%d/%m/%Y %H:%M:%S", "%Y-%m-%d %H:%M:%S", "%Y-%m-%dT%H:%M:%S"]

variable (layout : Layout)

/-- `bank_ref_no`. -/
def referenceText (raw : Metadata) : String :=
  python.str (anyOf (layout.references.map (rawGet raw)))

/-- The reference that the bank gave, if it gave one. -/
def actualReference (raw : Metadata) : Option String :=
  ((layout.references.map (rawGet raw)).find? Json.truthy).map python.str

def contentText (raw : Metadata) : String :=
  python.str (anyOf (layout.contents.map (rawGet raw) ++ [.text ""]))

def postedText (raw : Metadata) : String := python.str (layout.posted raw)

def postInit (bankRefNo : String) (postedAt : DateTime) (amount : Int) (content : String)
    (timestampReliable : Bool) : Except Refusal BankTransaction :=
  if nonzero : amount = 0 then .error (.valueError "amount must be non-zero")
  else if referenced : bankRefNo = "" then .error (.valueError "bank_ref_no is required")
  else .ok ⟨bankRefNo, postedAt, amount, content, timestampReliable, nonzero, referenced⟩

/-- The mapping of one item, at the time `now`. -/
def mapItem (raw : Metadata) (now : Int) : Except Refusal BankTransaction :=
  match layout.amount raw with
  | none => .error .invalidOperation
  | some amount =>
      match parseDatetime python layout.formats (postedText python layout raw) now with
      | none => .error .overflowError
      | some postedAt => postInit (referenceText python layout raw) postedAt amount
          (contentText python layout raw)
          (reliableTimestamp python layout.reliableFormats (postedText python layout raw))

def mapTransaction : Metadata → Int → Except Refusal BankTransaction :=
  mapItem python (mbLayout python)

/-- `MBNodeBridgeAdapter._map_transaction`. -/
def bridgeMapTransaction : Metadata → Int → Except Refusal BankTransaction :=
  mapItem python (bridgeLayout python)

def mapVietinTransaction : Metadata → Int → Except Refusal BankTransaction :=
  mapItem python (vietinLayout python)

def layoutOf : Adapter → Layout
  | .mb => mbLayout python
  | .mbNodeBridge => bridgeLayout python
  | .vietin => vietinLayout python

/-- What `list_transactions` yields for an item. -/
def mapRaw : Adapter → Metadata → Int → Except Refusal BankTransaction
  | .mb => mapTransaction python
  | .mbNodeBridge => bridgeMapTransaction python
  | .vietin => mapVietinTransaction python

end Reading

/-! ## Ticks -/

/-- A bank account as its poller sees it. -/
structure Account where
  python : Python
  unicode : UnicodeData
  bankAccountId : String
  adapter : Adapter

/-- What is drawn for a reference text: the clock when the item that is stored under it is
mapped, and the draws of `ingest_transaction`. -/
structure Draws where
  mappedAt : Int
  ingest : IngestDraws

def tokensOf (draws : String → Draws) (bankRefNo : String) : Tokens where
  txId := (draws bankRefNo).ingest.txId
  walletRowId := (draws bankRefNo).ingest.walletRowId
  attemptId := (draws bankRefNo).ingest.attemptId

namespace Account

variable (account : Account)

def layout : Layout := layoutOf account.python account.adapter

def reference (raw : Metadata) : String := referenceText account.python account.layout raw

def actual (raw : Metadata) : Option String := actualReference account.python account.layout raw

def content (raw : Metadata) : String := contentText account.python account.layout raw

/-- The loop of `_poll_account` and what is committed when it ends. Each call that returns
has committed; an exception, of the adapter or of the call, ends the tick. -/
def poll (draws : String → Draws) : List Metadata → Database → Database
  | [], db => db
  | raw :: rest, db =>
      let drawn := draws (account.reference raw)
      match mapRaw account.python account.adapter raw drawn.mappedAt with
      | .error _ => db
      | .ok bankTransaction =>
          match ingestTransaction account.unicode account.bankAccountId bankTransaction
              drawn.ingest db with
          | .error _ _ => db
          | .ok _ after => poll draws rest after

/-- Some ticks, each of which is shown the same items. -/
def polls (draws : Nat → String → Draws) (items : List Metadata) : Nat → Database → Database
  | 0, db => db
  | count + 1, db => account.poll (draws count) items (polls draws items count db)

/-! ## What the items ask for -/

/-- The amount can be read, and it is not zero. -/
def nonzero (raw : Metadata) : Bool := (account.layout.amount raw).any (· ≠ 0)

/-- The date is none that overflows, which the clock has no part in. -/
def dated (raw : Metadata) : Bool :=
  (parseDatetime account.python account.layout.formats
    (postedText account.python account.layout raw) 0).isSome

/-- The constructor takes the item. -/
def accepts (raw : Metadata) : Bool :=
  account.nonzero raw && account.dated raw && account.reference raw ≠ ""

/-- The items before the first refused one. -/
def yielded (items : List Metadata) : List Metadata := items.takeWhile account.accepts

/-- The transactions that a tick hands to `ingest_transaction`. -/
def arrivals (draws : String → Draws) (items : List Metadata) : List BankTransaction :=
  (account.yielded items).filterMap fun raw =>
    (mapRaw account.python account.adapter raw (draws (account.reference raw)).mappedAt).toOption

def CreditsTaken (draws : String → Draws) (items : List Metadata) (start : Database) : Prop :=
  ArrivalOrder.CreditsTaken account.unicode account.bankAccountId
    (fun bankRefNo => (draws bankRefNo).ingest) start (account.arrivals draws items)

/-- The transaction under which an item is kept. -/
def rowOf (db : Database) (raw : Metadata) : Option Transaction :=
  storedTransaction db account.bankAccountId (account.reference raw)

def Shows (row : Transaction) (raw : Metadata) : Prop :=
  account.layout.amount raw = some row.amountVnd ∧ row.content = account.content raw

/-- The bank gave both items one reference. -/
def SameActual (first second : Metadata) : Prop :=
  ∃ given, account.actual first = some given ∧ account.actual second = some given

/-- Every item over an amount has its reference text stored or before the first refused
item, no two of them have one text without one reference, and a row under the text of one
without a reference is that item's. -/
structure Separable (start : Database) (items : List Metadata) : Prop where
  reached : ∀ raw ∈ items, account.nonzero raw = true → (account.rowOf start raw).isSome = true ∨
    ∃ other ∈ account.yielded items, account.reference other = account.reference raw
  apart : items.Pairwise fun first second =>
    account.nonzero first = true → account.nonzero second = true →
      account.reference first = account.reference second → account.SameActual first second
  unnamed : ∀ raw ∈ items, account.nonzero raw = true → account.actual raw = none →
    ∀ row, account.rowOf start raw = some row → account.Shows row raw

end Account

/-! ## One item -/

section Items

variable {account : Account} {raw : Metadata} {before after db start : Database}

end Items

/-! ## One tick -/

section Ticks

variable {account : Account} {raw : Metadata} {items rest : List Metadata}
variable {draws : String → Draws} {start before after db : Database}
variable {all taken : List BankTransaction} {bankTransaction : BankTransaction}

/-- What ticks do to the row under one text: an old row stays, and a new one is that of an
item with this text that was yielded. -/
structure Polled (account : Account) (items : List Metadata) (before after : Database)
    (text : String) : Prop where
  kept : ∀ row, storedTransaction before account.bankAccountId text = some row →
    storedTransaction after account.bankAccountId text = some row
  added : storedTransaction before account.bankAccountId text = none →
    ∀ row, storedTransaction after account.bankAccountId text = some row →
      ∃ other ∈ account.yielded items, account.reference other = text ∧ account.Shows row other

/-- Every item before the first refused one has its reference text stored. -/
def Reaches (account : Account) (items : List Metadata) (db : Database) : Prop :=
  ∀ raw ∈ account.yielded items, (account.rowOf db raw).isSome = true

theorem Polled.refl (account : Account) (items : List Metadata) (db : Database) (text : String) :
    Polled account items db db text where
  kept := fun _ stored => stored
  added := fun new row stored => by
    rw [new] at stored
    cases stored

theorem Polled.trans {text : String} {middle : Database}
    (first : Polled account items before middle text)
    (second : Polled account items middle after text) :
    Polled account items before after text where
  kept := fun row stored => second.kept row (first.kept row stored)
  added := by
    intro new row stored
    cases between : storedTransaction middle account.bankAccountId text with
    | none => exact second.added between row stored
    | some old =>
        obtain rfl := Option.some.inj ((second.kept old between).symm.trans stored)
        exact first.added new old between

theorem Polled.reached (polled : Polled account items before after (account.reference raw))
    (known : (account.rowOf before raw).isSome = true) :
    (account.rowOf after raw).isSome = true := by
  obtain ⟨row, stored⟩ := Option.isSome_iff_exists.mp known
  exact Option.isSome_of_eq_some (polled.kept row stored)

end Ticks

/-! ## All items of a list -/

section Law

variable {account : Account} {start final : Database} {items : List Metadata}
variable {first second raw : Metadata}

theorem reference_of_actual {given : String} (actual : account.actual raw = some given) :
    account.reference raw = given := by
  unfold Account.actual actualReference at actual
  obtain ⟨value, found, rfl⟩ := Option.map_eq_some_iff.mp actual
  rw [Account.reference, referenceText, anyOf, found, Option.getD_some]

/-- When all items can be mapped and the bank gave each a reference, they are kept apart. -/
theorem separable_of_referenced (accepted : ∀ raw ∈ items, account.accepts raw = true)
    (referenced : ∀ raw ∈ items, (account.actual raw).isSome = true) :
    account.Separable start items where
  reached := by
    intro raw listed _
    have all : account.yielded items = items := List.takeWhile_eq_self_iff.mpr accepted
    exact .inr ⟨raw, by rwa [all], rfl⟩
  apart := by
    apply List.pairwise_of_forall_mem_list
    intro first firstListed second secondListed _ _ same
    obtain ⟨given, firstGiven⟩ := Option.isSome_iff_exists.mp (referenced first firstListed)
    obtain ⟨other, secondGiven⟩ := Option.isSome_iff_exists.mp (referenced second secondListed)
    rw [reference_of_actual firstGiven, reference_of_actual secondGiven] at same
    exact ⟨given, firstGiven, same ▸ secondGiven⟩
  unnamed := by
    intro raw listed _ missing
    have given := referenced raw listed
    rw [missing] at given
    cases given

/-- Without any of its reference fields an item has the text of `None`. -/
theorem reference_of_absent
    (absent : ∀ key ∈ account.layout.references, rawGet raw key = .null) :
    account.actual raw = none ∧ account.reference raw = account.python.str .null := by
  have values : account.layout.references.map (rawGet raw) =
      List.replicate account.layout.references.length .null :=
    List.eq_replicate_iff.mpr ⟨List.length_map _, by simpa using absent⟩
  have untrue : (account.layout.references.map (rawGet raw)).find? Json.truthy = none := by
    rw [values]
    exact List.find?_eq_none.mpr fun value member => by
      simp [List.eq_of_mem_replicate member, Json.truthy]
  constructor
  · rw [Account.actual, actualReference, untrue, Option.map_none]
  · rw [Account.reference, referenceText, anyOf, untrue, values, Option.getD_none,
      List.getLast?_replicate]
    split <;> rfl

/-- Two items over an amount, neither with a reference, are never kept apart. -/
theorem not_separable_of_absent (pair : [first, second].Sublist items)
    (firstNonzero : account.nonzero first = true) (secondNonzero : account.nonzero second = true)
    (firstAbsent : ∀ key ∈ account.layout.references, rawGet first key = .null)
    (secondAbsent : ∀ key ∈ account.layout.references, rawGet second key = .null) :
    ¬account.Separable start items := by
  intro separable
  obtain ⟨missing, text⟩ := reference_of_absent firstAbsent
  have apart := (List.pairwise_pair.mp (separable.apart.sublist pair)) firstNonzero secondNonzero
    (text.trans (reference_of_absent secondAbsent).2.symm)
  obtain ⟨given, actual, -⟩ := apart
  rw [missing] at actual
  cases actual

end Law

end ApiBank.Banks.History
