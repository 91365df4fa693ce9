import ApiBank.Crypto.TwinInvoices

/-!
# What one merchant's calls do to another's invoices

A transfer is matched by network, token, address and amount, and the choice of a wallet
by its address does not read who owns it. So a merchant can ask for the amount of another
one at the other's address, and is paid instead. Two runs that differ in the calls of
others show a merchant the same as long as no invoice of others is at a till of the
merchant, the expiry job comes to its end, and no credit or token fails.
-/

namespace ApiBank.Crypto.NonInterference

open ApiBank.Billing ApiBank.Db ApiBank.Relational ApiBank.Transition
open DistinctAmounts Invoices MerchantParts MerchantWrites Operations Settlement
open TwinInvoices TwinRequests TwinStates Watchers

set_option autoImplicit false

variable {runtime : Runtime} {merchant : String} {left right before after : CryptoDb} {op : Op}

/-- A creation at a till of its own side, an expiry job that reaches every due invoice,
and matches whose credits and tokens are accepted. -/
def Undisturbed (runtime : Runtime) (merchant : String) (db : CryptoDb) : Op → Prop
  | .createInvoice payload merchantId _ draws =>
      Unshared runtime merchant payload merchantId draws db
  | .cancelInvoice _ _ draws => db.callbacks.find? draws.callbackId = none
  | .expireDueInvoices now limit callbackIds => Finishes now limit callbackIds db
  | .adminCreateWallet _ _ => True
  | .reconcileInvoice invoiceId draws => ∀ invoice, db.invoices.find? invoiceId = some invoice →
      Ready db (tokensFor draws (candidateTransfers invoice db))
  | .reconcileTxHash txHash draws => Ready db (tokensFor draws (transfersOf runtime txHash db))
  | op => ∀ sightings, Scans.Feeds runtime db op sightings → Ready db (tokensOf sightings)

section Requests

end Requests

end ApiBank.Crypto.NonInterference
