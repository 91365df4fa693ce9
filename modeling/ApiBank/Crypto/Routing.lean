import ApiBank.Crypto.Operations

/-!
# Wallets that the platform assigns

An invoice without an address is put on the least loaded wallet of its network. The
choice does not ask for the owner, so it falls on the wallets that merchants brought
along whenever none of the platform's own is less loaded.
-/

namespace ApiBank.Crypto.Routing

open ApiBank.Db ApiBank.Relational ApiBank.Transition Invoices Operations

set_option autoImplicit false

/-- The request asks for an invoice and names no address. -/
def Addressless : Op → Prop
  | .createInvoice payload _ _ _ => given payload.address = none
  | _ => False

/-- The request inserts the invoice. -/
def Opens (runtime : Runtime) (before : CryptoDb) (op : Op) (invoice : CryptoInvoice) : Prop :=
  before.invoices.find? invoice.id = none ∧
    (serve runtime before op).invoices.find? invoice.id = some invoice

def Registered (events : List Op) (wallet : CryptoWallet) : Prop :=
  wallet.ownerType = "system" ∧ ∃ payload fresh, Op.adminCreateWallet payload fresh ∈ events ∧
    wallet.id = fresh.id ∧ payload.ownerType = "system"

def RoutedToPlatform (runtime : Runtime) (start : CryptoDb) (events : List Op) : Prop :=
  ∀ prior op later, events = prior ++ op :: later → Addressless op → ∀ invoice,
    Opens runtime (prior.foldl (serve runtime) start) op invoice →
      ∃ wallet, (events.foldl (serve runtime) start).wallets.find? invoice.walletId = some wallet ∧
        Registered prior wallet

/-- A free wallet that is not the platform's comes after a free one that is. -/
def SystemLeads (networkId : String) (db : CryptoDb) : Prop :=
  ∀ other ∈ db.wallets.rows, eligible networkId other = true → other.ownerType ≠ "system" →
    ∃ wallet ∈ db.wallets.rows, eligible networkId wallet = true ∧
      wallet.ownerType = "system" ∧ lessLoaded wallet other = true

def systemLeads (runtime : Runtime) (db : CryptoDb) : Op → Prop
  | .createInvoice payload _ _ _ => given payload.address = none → ∀ network token,
      getNetworkToken runtime payload.network payload.token db = .ok (network, token) →
        SystemLeads network.id db
  | _ => True

variable {runtime : Runtime} {start before after : CryptoDb}

theorem lessLoaded_asymm (wallet other : CryptoWallet) (less : lessLoaded wallet other = true) :
    lessLoaded other wallet = false := by
  simp only [lessLoaded, Bool.or_eq_true, Bool.and_eq_true, decide_eq_true_eq,
    Bool.or_eq_false_iff, Bool.and_eq_false_iff, decide_eq_false_iff_not] at less ⊢
  omega

theorem lessLoaded_weak (wallet middle other : CryptoWallet)
    (first : lessLoaded wallet middle = false) (second : lessLoaded middle other = false) :
    lessLoaded wallet other = false := by
  simp only [lessLoaded, Bool.or_eq_false_iff, Bool.and_eq_false_iff,
    decide_eq_false_iff_not] at first second ⊢
  omega

theorem system_of_leastLoaded {networkId : String} {wallet : CryptoWallet}
    (leads : SystemLeads networkId before) (least : leastLoaded networkId before = some wallet) :
    wallet ∈ before.wallets.rows ∧ wallet.ownerType = "system" := by
  obtain ⟨member, free⟩ := List.mem_filter.mp (mem_of_firstBy least)
  refine ⟨member, ?_⟩
  by_contra foreign
  obtain ⟨own, ownMember, ownFree, -, less⟩ := leads wallet member free foreign
  have bound := firstBy_leads lessLoaded_asymm lessLoaded_weak least own
    (List.mem_filter.mpr ⟨ownMember, ownFree⟩)
  exact Bool.false_ne_true (bound.symm.trans less)

theorem unopened_of_motion {id : String} (motion : Motion before after)
    (absent : before.invoices.find? id = none) : after.invoices.find? id = none := by
  cases motion with
  | ended change keeps invoice after ending kind =>
      rw [ending.invoices, Table.find?_modify, absent]
      split <;> rfl
  | recorded transfer after inserted =>
      rw [(transfers_of_recorded inserted).2.2]
      exact absent
  | paid transfer row draws invoice after stored same payment =>
      rw [payment.invoices, Table.find?_modify, absent]
      split <;> rfl
  | noted cursors rpcEndpoints => exact absent

theorem unopened_of_motions {id : String} (motions : Motions before after)
    (absent : before.invoices.find? id = none) : after.invoices.find? id = none := by
  induction motions with
  | refl => exact absent
  | tail earlier motion ih => exact unopened_of_motion motion ih

/-- The wallet of a new invoice without an address is a wallet of the platform. -/
theorem assigned_system {op : Op} {invoice : CryptoInvoice} (leads : systemLeads runtime before op)
    (addressless : Addressless op) (opens : Opens runtime before op invoice) :
    ∃ wallet, before.wallets.find? invoice.walletId = some wallet ∧
      wallet.ownerType = "system" := by
  obtain ⟨absent, present⟩ := opens
  have served := served_of_serve runtime before op
  generalize serve runtime before op = after at present served
  cases served with
  | registered payload fresh network after inserted => exact addressless.elim
  | moved op after motions =>
      rw [unopened_of_motions motions absent] at present
      cases present
  | created payload merchantId userId draws created after creation =>
      cases creation with
      | replayed invoice found same =>
          rw [absent] at present
          cases present
      | opened network token wallet pay middle opened unused pair choice priced inserted =>
          cases choice with
          | supplied text wallet named found =>
              rw [show given payload.address = none from addressless] at named
              cases named
          | added text after named inserted =>
              rw [show given payload.address = none from addressless] at named
              cases named
          | assigned wallet unnamed least =>
              obtain ⟨member, system⟩ :=
                system_of_leastLoaded (leads addressless network token pair) least
              have grown := (insertInvoice_ok inserted).1
              have onWallet : invoice.walletId = wallet.id := by
                have found : opened.invoices.find? invoice.id = some invoice := present
                rw [Table.find?_insert? grown, absent] at found
                split at found
                · cases found
                  rfl
                · cases found
              exact ⟨wallet, onWallet ▸ Table.find?_of_mem member, system⟩

theorem registered_every_run (noWallets : start.wallets.rows = []) (events : List Op) :
    ∀ wallet ∈ (events.foldl (serve runtime) start).wallets.rows, wallet.ownerType = "system" →
      Registered events wallet := by
  apply (Run.of_computed (serve runtime) start events).history
    (fun events db => ∀ wallet ∈ db.wallets.rows, wallet.ownerType = "system" →
      Registered events wallet)
  · intro wallet member
    rw [noWallets] at member
    cases member
  · intro events db op next registered taken wallet member system
    obtain rfl : next = serve runtime db op := taken
    rcases (walletsKept_of_served (served_of_serve runtime db op)).origin wallet member with
      ⟨old, oldMember, account⟩ | merchant | ⟨payload, fresh, rfl, id, owner⟩
    · have sameOwner : wallet.ownerType = old.ownerType := by rw [account]
      have sameId : wallet.id = old.id := by rw [account]
      obtain ⟨-, payload, fresh, listed, id, owner⟩ :=
        registered old oldMember (sameOwner ▸ system)
      exact ⟨system, payload, fresh, List.mem_append_left _ listed, sameId.trans id, owner⟩
    · exact absurd (merchant.symm.trans system) (by decide)
    · exact ⟨system, payload, fresh, List.mem_append_right _ (List.mem_singleton_self _), id,
        owner ▸ system⟩

theorem wallet_kept_every_run {id : String} {wallet : CryptoWallet} (events : List Op)
    (found : start.wallets.find? id = some wallet) :
    ∃ same, (events.foldl (serve runtime) start).wallets.find? id = some same ∧
      SameAccount wallet same := by
  apply (Run.of_computed (serve runtime) start events).invariant
    (fun db => ∃ same, db.wallets.find? id = some same ∧ SameAccount wallet same)
  · exact ⟨wallet, found, .refl wallet⟩
  · intro db op next kept taken
    obtain rfl : next = serve runtime db op := taken
    obtain ⟨same, foundSame, account⟩ := kept
    obtain ⟨last, foundLast, accountLast⟩ :=
      (walletsKept_of_served (served_of_serve runtime db op)).kept id same foundSame
    exact ⟨last, foundLast, account.trans accountLast⟩

theorem platform_invoices_routed (runtime : Runtime) (start : CryptoDb) (events : List Op)
    (noWallets : start.wallets.rows = [])
    (guarded : Run.Along (systemLeads runtime) (serve runtime) start events) :
    RoutedToPlatform runtime start events := by
  intro prior op later split addressless invoice opens
  subst split
  obtain ⟨leads, -⟩ := Run.along_split guarded
  obtain ⟨wallet, found, system⟩ := assigned_system leads addressless opens
  have registered := registered_every_run noWallets prior wallet (Table.mem_of_find? found) system
  obtain ⟨same, foundSame, account⟩ := wallet_kept_every_run (op :: later) found
  refine ⟨same, ?_, ?_⟩
  · rw [List.foldl_append]
    exact foundSame
  · rw [account]
    exact registered

def adminFirst : List Op := [
  .adminCreateWallet systemWallet ⟨"w2", 1⟩,
  .createInvoice (order "r1" (some merchantAddress)) "m1" none (drawsAt 2 "i1" "w1"),
  .createInvoice (order "r2" none) "m2" none (drawsAt 3 "i2" "w3")]

theorem invoice_on_registered_wallet : RoutedToPlatform .ascii market adminFirst := by
  apply platform_invoices_routed .ascii market adminFirst rfl
  have addressed (db : CryptoDb) : systemLeads .ascii db
      (.createInvoice (order "r1" (some merchantAddress)) "m1" none
        (drawsAt 2 "i1" "w1")) := by
    intro unnamed
    exact absurd unnamed (by decide)
  refine And.intro trivial (And.intro (addressed _) (And.intro ?_ trivial))
  intro _ network token pair other member free foreign
  have sole : getNetworkToken .ascii "bsc" "USDT" market = .ok (network, token) := pair
  obtain rfl : network = bsc := by
    cases sole
    rfl
  have rows : ((adminFirst.take 2).foldl (serve .ascii) market).wallets.rows = [
      ⟨"w2", "system", none, "n1", platformAddress, none, "active", 100, 0, 1⟩,
      ⟨"w1", "merchant", some "m1", "n1", merchantAddress, some "merchant supplied", "active",
        100, 1, 2⟩] := rfl
  have listed : other ∈ ((adminFirst.take 2).foldl (serve .ascii) market).wallets.rows := member
  refine ⟨⟨"w2", "system", none, "n1", platformAddress, none, "active", 100, 0, 1⟩, ?_, rfl,
    rfl, ?_⟩
  · exact rows ▸ List.mem_cons_self
  · rw [rows, List.mem_pair] at listed
    rcases listed with rfl | rfl
    · exact absurd rfl foreign
    · decide

def merchantFirst : List Op := [
  .createInvoice (order "r1" (some merchantAddress)) "m1" none (drawsAt 1 "i1" "w1"),
  .adminCreateWallet systemWallet ⟨"w2", 2⟩,
  .createInvoice (order "r2" none) "m2" none (drawsAt 3 "i2" "w3")]

/-- The next invoice without an address: both wallets carry one, the merchant's is older. -/
def strayOrder : Op := .createInvoice (order "r3" none) "m2" none (drawsAt 4 "i3" "w4")

theorem stray_invoice_on_merchant_wallet : ¬∀ runtime start events, start.wallets.rows = [] →
    RoutedToPlatform runtime start events := by
  intro always
  have routed := always .ascii market (merchantFirst ++ [strayOrder]) rfl merchantFirst strayOrder
    [] rfl rfl
  obtain ⟨invoice, opened, named, onWallet⟩ : ∃ invoice,
      (serve .ascii (merchantFirst.foldl (serve .ascii) market) strayOrder).invoices.find? "i3" =
        some invoice ∧ invoice.id = "i3" ∧ invoice.walletId = "w1" := ⟨_, rfl, rfl, rfl⟩
  have opens : Opens .ascii (merchantFirst.foldl (serve .ascii) market) strayOrder invoice := by
    unfold Opens
    rw [named]
    exact ⟨rfl, opened⟩
  obtain ⟨wallet, found, registered⟩ := routed invoice opens
  have merchants : (((merchantFirst ++ [strayOrder]).foldl (serve .ascii) market).wallets.find?
      "w1").map CryptoWallet.ownerType = some "merchant" := rfl
  rw [← onWallet, found] at merchants
  simp [registered.1] at merchants

end ApiBank.Crypto.Routing
