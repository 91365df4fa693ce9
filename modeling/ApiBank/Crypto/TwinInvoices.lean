import ApiBank.Crypto.TwinRequests

/-!
# Endings and creations from two states of one merchant

Cancelations, expiries and creations of invoices. One of the merchant does the same in both
states; one of another merchant leaves the merchant's part as it is. An expiry job takes a
limited number of invoices, so both sides must come to the end of theirs.
-/

namespace ApiBank.Crypto.TwinInvoices

open ApiBank.Db ApiBank.Relational ApiBank.Transition
open DistinctAmounts History Invoices MerchantParts MerchantWrites Operations Settlement TwinRequests TwinStates
open Watchers

set_option autoImplicit false

variable {runtime : Runtime} {merchant : String}
  {left right left' right' before after : CryptoDb}

section Cancelations

variable {transId : String} {asked : Option String} {draws : EventDraws}

end Cancelations

section Expiries

variable {now : Int} {limit : Nat} {callbackIds : String → String}
  {invoice other : CryptoInvoice}

/-- One round of the loop of the job. -/
def expired (now : Int) (callbackIds : String → String) (db : CryptoDb)
    (invoice : CryptoInvoice) : CryptoDb :=
  Effect.commit (expireInvoice (fun invoice => ⟨callbackIds invoice.id, now⟩) invoice) db

def due (now : Int) (invoice : CryptoInvoice) : Bool :=
  invoice.status.isWaiting && invoice.expiresAt < now

/-- The job comes to the end of the invoices that are due, with new tokens. -/
structure Finishes (now : Int) (limit : Nat) (callbackIds : String → String) (db : CryptoDb) :
    Prop where
  all : (db.invoices.rows.filter (due now)).length ≤ limit
  clear : Unclashing db ((dueInvoices now limit db).map fun invoice => callbackIds invoice.id)

end Expiries

section Creations

variable {invoice other : CryptoInvoice}

/-- A new invoice, with nothing about it yet. -/
structure Grown (invoice : CryptoInvoice) (before after : CryptoDb) : Prop where
  config : SameConfig before after
  invoices : after.invoices.rows = before.invoices.rows ++ [invoice]
  matchRows : after.matchRows = before.matchRows
  callbacks : after.callbacks = before.callbacks
  transfers : after.transfers = before.transfers
  fresh : ∀ row ∈ before.invoices.rows, row.id ≠ invoice.id ∧ row.transId ≠ invoice.transId

section Growth

variable (grown : Grown invoice before after)

include grown

end Growth

variable {payload : CryptoInvoiceCreate} {merchantId : String} {userId : Option String}
  {draws : InvoiceDraws}

def Unshared (runtime : Runtime) (merchant : String) (payload : CryptoInvoiceCreate)
    (merchantId : String) (draws : InvoiceDraws) (db : CryptoDb) : Prop :=
  ∀ network token address, Admitted runtime payload merchantId draws db network token address →
    ∀ row ∈ db.invoices.rows, ¬(row.merchantId = merchant ↔ merchantId = merchant) →
      invoiceTill row ≠ ⟨network.id, token.id, address, askedAmount payload token draws⟩

def assigned (runtime : Runtime) (db : CryptoDb) : Op → Option String
  | .createInvoice payload merchantId userId draws =>
      match createInvoice runtime payload merchantId userId draws db with
      | .ok invoice _ => some invoice.address
      | .error _ _ => none
  | _ => none

end Creations

end ApiBank.Crypto.TwinInvoices
