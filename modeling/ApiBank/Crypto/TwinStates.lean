import ApiBank.Crypto.MerchantWrites
import ApiBank.Crypto.Scans
import ApiBank.Transition.TwoRuns

/-!
# Two states of one merchant

What a step may do to two states that hold the same of a merchant: nothing that the
merchant sees, or the same in both. A transfer at a till of the merchant finds the same
invoice in both, and elsewhere only invoices of others.
-/

namespace ApiBank.Crypto.TwinStates

open ApiBank.Db ApiBank.Relational ApiBank.Transition
open History Invoices InvoiceTurns MerchantParts MerchantWrites Operations Settlement Watchers

set_option autoImplicit false

/-- The merchant's part stays, and others keep their tills. -/
structure Unseen (merchant : String) (before after : CryptoDb) : Prop where
  same : SameFor merchant before after
  stay : ∀ till, Foreign merchant before till → Foreign merchant after till
  filed : Filed before → Filed after

/-- What happens to invoices of others: unseen, and at the tills that they had. -/
structure Beside (merchant : String) (before after : CryptoDb) : Prop
    extends Unseen merchant before after where
  apart : Apart merchant before → Apart merchant after

/-- Two sound states that hold the same of the merchant. -/
structure Twins (merchant : String) (left right : CryptoDb) : Prop where
  same : SameFor merchant left right
  left : Sound merchant left
  right : Sound merchant right

variable {merchant : String} {left right left' right' before middle after : CryptoDb}

section Steps

theorem Unseen.refl (merchant : String) (db : CryptoDb) : Unseen merchant db db :=
  ⟨.refl merchant db, fun _ foreign => foreign, fun filed => filed⟩

theorem Beside.refl (merchant : String) (db : CryptoDb) : Beside merchant db db :=
  ⟨.refl merchant db, fun apart => apart⟩

theorem Beside.trans (first : Beside merchant before middle)
    (second : Beside merchant middle after) : Beside merchant before after where
  same := first.same.trans second.same second.stay
  stay := fun till foreign => second.stay till (first.stay till foreign)
  filed := fun filed => second.filed (first.filed filed)
  apart := fun apart => second.apart (first.apart apart)

theorem Beside.sound (beside : Beside merchant before after) (sound : Sound merchant before) :
    Sound merchant after :=
  ⟨beside.apart sound.apart, beside.filed sound.filed⟩

theorem Twins.symm (twins : Twins merchant left right) : Twins merchant right left :=
  ⟨twins.same.symm, twins.right, twins.left⟩

theorem Twins.beside (twins : Twins merchant left right) (beside : Beside merchant right right') :
    Twins merchant left right' :=
  ⟨twins.same.trans beside.same beside.stay, twins.left, beside.sound twins.right⟩

variable {invoiceId : String} {change : CryptoInvoice → CryptoInvoice}
  {paired : List CryptoInvoiceMatch} {told : List CryptoCallback} {logs : List LogKey}

theorem Twins.touched (twins : Twins merchant left right)
    (first : Touched invoiceId change paired told logs left left')
    (second : Touched invoiceId change paired told logs right right')
    (stored : invoiceId ∈ left.invoices.rows.map CryptoInvoice.id)
    (storedToo : invoiceId ∈ right.invoices.rows.map CryptoInvoice.id) :
    Twins merchant left' right' :=
  ⟨same_touched twins.same first second,
    ⟨apart_touched first twins.left.apart, filed_touched first twins.left.filed stored⟩,
    ⟨apart_touched second twins.right.apart, filed_touched second twins.right.filed storedToo⟩⟩

/-- The rows that are about invoices stay. -/
structure Framed (before after : CryptoDb) : Prop where
  invoices : after.invoices = before.invoices
  matchRows : after.matchRows = before.matchRows
  callbacks : after.callbacks = before.callbacks

theorem ownInvoices_framed (framed : Framed before after) :
    ownInvoices merchant after = ownInvoices merchant before := by
  rw [ownInvoices, ownInvoices, framed.invoices]

theorem ownMatches_framed (framed : Framed before after) :
    ownMatches merchant after = ownMatches merchant before := by
  rw [ownMatches, ownMatches, ownIds, ownIds, ownInvoices_framed framed, framed.matchRows]

theorem ownCallbacks_framed (framed : Framed before after) :
    ownCallbacks merchant after = ownCallbacks merchant before := by
  rw [ownCallbacks, ownCallbacks, ownIds, ownIds, ownInvoices_framed framed, framed.callbacks]

theorem foreign_framed (framed : Framed before after) (till : Till) :
    Foreign merchant after till ↔ Foreign merchant before till := by
  unfold Foreign
  rw [framed.invoices]

theorem apart_framed (framed : Framed before after) (apart : Apart merchant before) :
    Apart merchant after := by
  intro invoice member own foreign
  rw [framed.invoices] at member
  exact apart invoice member own ((foreign_framed framed _).mp foreign)

theorem filed_framed (framed : Framed before after) (filed : Filed before) : Filed after where
  transIds := framed.invoices ▸ filed.transIds
  matched := by
    rw [framed.invoices, framed.matchRows]
    exact filed.matched
  told := by
    rw [framed.invoices, framed.callbacks]
    exact filed.told

theorem sound_framed (framed : Framed before after) (sound : Sound merchant before) :
    Sound merchant after :=
  ⟨apart_framed framed sound.apart, filed_framed framed sound.filed⟩

theorem Twins.framed (twins : Twins merchant left right) (first : Framed left left')
    (second : Framed right right') (config : SameConfig left' right')
    (sighted : left'.transfers.rows.map CryptoChainTransfer.markMatched =
      right'.transfers.rows.map CryptoChainTransfer.markMatched)
    (statuses : ∀ till, transfersAt till left = transfersAt till right →
      transfersAt till left' = transfersAt till right') : Twins merchant left' right' where
  same := by
    refine ⟨config, ?_, ?_, ?_, sighted, ?_⟩
    · rw [ownInvoices_framed first, ownInvoices_framed second, twins.same.invoices]
    · rw [ownMatches_framed first, ownMatches_framed second, twins.same.matchRows]
    · rw [ownCallbacks_framed first, ownCallbacks_framed second, twins.same.callbacks]
    · intro till here there
      rw [foreign_framed first] at here
      rw [foreign_framed second] at there
      exact statuses till (twins.same.statuses till here there)
  left := sound_framed first twins.left
  right := sound_framed second twins.right

end Steps

section Matches

variable {transfer other : CryptoChainTransfer} {now : Int} {draws : MatchDraws}
  {result result' : Option CryptoInvoice}

def Own (merchant : String) (db : CryptoDb) (till : Till) : Prop :=
  ∃ invoice ∈ db.invoices.rows, invoice.merchantId = merchant ∧ invoiceTill invoice = till

def Stored (db : CryptoDb) (transfer : CryptoChainTransfer) : Prop :=
  ∃ row ∈ db.transfers.rows, SameTransfer row transfer

theorem stored_touched {invoiceId : String} {change : CryptoInvoice → CryptoInvoice}
    {paired : List CryptoInvoiceMatch} {told : List CryptoCallback} {logs : List LogKey}
    (touched : Touched invoiceId change paired told logs before after)
    (stored : Stored before transfer) : Stored after transfer := by
  obtain ⟨row, member, same⟩ := stored
  refine ⟨mark logs row, ?_, (markMatched_mark row).trans same⟩
  rw [touched.transfers]
  exact List.mem_map_of_mem member

theorem stored_matched (stored : Stored before other)
    (returned : matchTransfer transfer draws before = .ok result after) : Stored after other := by
  rcases match_cases returned with ⟨rfl, -⟩ | ⟨invoice, received⟩
  · exact stored
  · exact stored_touched received.touched stored

end Matches

end ApiBank.Crypto.TwinStates
