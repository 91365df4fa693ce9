import ApiBank.Crypto.InvoiceTurns

/-!
# Slots of the wallets

The counter of a wallet stands for the number of invoices that wait on it. A creation
takes a slot, and every ending of a waiting invoice gives one back; the clamp at zero
never acts. The override of an admin ends an invoice and keeps its slot.
-/

namespace ApiBank.Crypto.SlotAccounting

open ApiBank.Db ApiBank.Relational ApiBank.Transition Invoices Operations InvoiceTurns

set_option autoImplicit false

variable {runtime : Runtime} {before after : CryptoDb}

def waitsOn (walletId : String) (invoice : CryptoInvoice) : Bool :=
  invoice.walletId = walletId && invoice.status.isWaiting

def SlotsExact (wallets : Table CryptoWallet.id) (invoices : Table CryptoInvoice.id) : Prop :=
  ∀ wallet ∈ wallets.rows,
    wallet.activeInvoiceCount = invoices.rows.countP (waitsOn wallet.id)

def Housed (wallets : Table CryptoWallet.id) (invoices : Table CryptoInvoice.id) : Prop :=
  ∀ invoice ∈ invoices.rows, (wallets.find? invoice.walletId).isSome

def slotsIn (wallets : Table CryptoWallet.id) (walletId : String) : Int :=
  (wallets.find? walletId).elim 0 CryptoWallet.activeInvoiceCount

def NamesAddress : DeskOp → Prop
  | .request (.createInvoice payload _ _ _) => given payload.address ≠ none
  | _ => False

def WithinLimits (before : CryptoDb) (op : DeskOp) (after : CryptoDb) : Prop :=
  NamesAddress op ∨ ∀ wallet ∈ after.wallets.rows,
    wallet.activeInvoiceCount ≤ max wallet.maxActiveInvoices (slotsIn before.wallets wallet.id)

/-- The counters are exact after a request, and no choice of it was beyond a limit. -/
structure SlotsAccounted (before : CryptoDb) (op : DeskOp) (after : CryptoDb) : Prop where
  slots : SlotsExact after.wallets after.invoices
  limits : WithinLimits before op after

section Tables

variable {wallets : Table CryptoWallet.id} {invoices : Table CryptoInvoice.id}
  {invoice : CryptoInvoice} {change : CryptoInvoice → CryptoInvoice}

theorem slots_released (keeps : ∀ invoice, (change invoice).id = invoice.id)
    (found : invoices.find? invoice.id = some invoice)
    (waiting : invoice.status.isWaiting = true)
    (ends : (change invoice).status.isWaiting = false) (slots : SlotsExact wallets invoices) :
    SlotsExact
      (wallets.modify invoice.walletId CryptoWallet.release CryptoWallet.id_release)
      (invoices.modify invoice.id change keeps) := by
  intro wallet member
  obtain ⟨old, oldMember, rfl⟩ := (Table.mem_modify_iff ..).mp member
  have counted := slots old oldMember
  have moved := Table.countP_modify found change keeps (waitsOn old.id)
  have gone : waitsOn old.id (change invoice) = false := by simp [waitsOn, ends]
  rw [gone] at moved
  by_cases own : old.id = invoice.walletId
  · have here : waitsOn old.id invoice = true := by simp [waitsOn, own, waiting]
    simp only [here, if_true, Bool.false_eq_true, if_false] at moved
    have positive : 0 < old.activeInvoiceCount := by omega
    rw [if_pos own, CryptoWallet.id_release, CryptoWallet.release, if_pos positive]
    simp only
    omega
  · have elsewhere : waitsOn old.id invoice = false := by simp [waitsOn, Ne.symm own]
    rw [if_neg own]
    simp only [elsewhere, Bool.false_eq_true, if_false] at moved
    omega

theorem slots_kept (keeps : ∀ invoice, (change invoice).id = invoice.id)
    (found : invoices.find? invoice.id = some invoice)
    (same : ∀ walletId, waitsOn walletId (change invoice) = waitsOn walletId invoice)
    (slots : SlotsExact wallets invoices) :
    SlotsExact wallets (invoices.modify invoice.id change keeps) := by
  intro wallet member
  have counted := slots wallet member
  have moved := Table.countP_modify found change keeps (waitsOn wallet.id)
  rw [same] at moved
  omega

theorem slots_occupied {next : Table CryptoInvoice.id}
    (inserted : invoices.insert? invoice = some next)
    (waiting : invoice.status.isWaiting = true) (slots : SlotsExact wallets invoices) :
    SlotsExact
      (wallets.modify invoice.walletId CryptoWallet.occupy CryptoWallet.id_occupy) next := by
  intro wallet member
  obtain ⟨old, oldMember, rfl⟩ := (Table.mem_modify_iff ..).mp member
  have counted := slots old oldMember
  rw [Table.rows_of_insert? inserted, List.countP_append, List.countP_singleton]
  by_cases own : old.id = invoice.walletId
  · have here : waitsOn old.id invoice = true := by simp [waitsOn, own, waiting]
    rw [if_pos own, CryptoWallet.id_occupy, CryptoWallet.occupy, if_pos here]
    push_cast
    omega
  · have elsewhere : waitsOn old.id invoice = false := by simp [waitsOn, Ne.symm own]
    rw [if_neg own, elsewhere]
    simpa using counted

/-- Nobody waits on a new wallet. -/
theorem slots_added {wallet : CryptoWallet} {next : Table CryptoWallet.id}
    (inserted : wallets.insert? wallet = some next) (free : wallet.activeInvoiceCount = 0)
    (housed : Housed wallets invoices) (slots : SlotsExact wallets invoices) :
    SlotsExact next invoices := by
  intro row member
  rw [Table.rows_of_insert? inserted] at member
  rcases List.mem_append.mp member with old | new
  · exact slots row old
  · obtain rfl := List.mem_singleton.mp new
    have nobody : invoices.rows.countP (waitsOn row.id) = 0 := by
      rw [List.countP_eq_zero]
      intro invoice listed waits
      have home := housed invoice listed
      have own : invoice.walletId = row.id := by
        simp only [waitsOn, Bool.and_eq_true, decide_eq_true_eq] at waits
        exact waits.1
      rw [own, Table.fresh_of_insert? inserted] at home
      cases home
    rw [free, nobody]
    rfl

theorem housed_modify {id : String} (keeps : ∀ invoice, (change invoice).id = invoice.id)
    (stays : ∀ invoice, (change invoice).walletId = invoice.walletId)
    (housed : Housed wallets invoices) : Housed wallets (invoices.modify id change keeps) := by
  intro row member
  obtain ⟨old, oldMember, rfl⟩ := (Table.mem_modify_iff ..).mp member
  have home := housed old oldMember
  split
  · rw [stays]
    exact home
  · exact home

theorem housed_in {next : Table CryptoWallet.id}
    (grows : ∀ id, (wallets.find? id).isSome → (next.find? id).isSome)
    (housed : Housed wallets invoices) : Housed next invoices :=
  fun invoice member => grows _ (housed invoice member)

end Tables

theorem waitsOn_receive {transfer : CryptoChainTransfer} {now : Int} {invoice : CryptoInvoice}
    (waiting : invoice.status.isWaiting = true)
    (unfinished : (invoice.receive transfer now).status ≠ .completed) (walletId : String) :
    waitsOn walletId (invoice.receive transfer now) = waitsOn walletId invoice := by
  have status : (invoice.receive transfer now).status = .partlyPaid := by
    simp only [CryptoInvoice.receive] at unfinished ⊢
    split
    · rename_i paid
      rw [if_pos paid] at unfinished
      exact absurd rfl unfinished
    · rfl
  simp only [waitsOn, status, waiting]
  rfl

/-- The invariant of the slots. -/
structure SlotsKept (db : CryptoDb) : Prop where
  slots : SlotsExact db.wallets db.invoices
  housed : Housed db.wallets db.invoices

/-- No counter rises, and no wallet comes into being. -/
def SlotsFall (before after : Table CryptoWallet.id) : Prop :=
  ∀ wallet ∈ after.rows, wallet.activeInvoiceCount ≤ slotsIn before wallet.id ∧
    (before.find? wallet.id).isSome

theorem slotsIn_of_mem {wallets : Table CryptoWallet.id} {wallet : CryptoWallet}
    (member : wallet ∈ wallets.rows) : slotsIn wallets wallet.id = wallet.activeInvoiceCount := by
  rw [slotsIn, Table.find?_of_mem member]
  rfl

theorem slotsFall_refl (wallets : Table CryptoWallet.id) : SlotsFall wallets wallets := by
  intro wallet member
  rw [slotsIn_of_mem member, Table.find?_of_mem member]
  exact ⟨Int.le_refl _, rfl⟩

theorem release_le (wallet : CryptoWallet) :
    wallet.release.activeInvoiceCount ≤ wallet.activeInvoiceCount := by
  unfold CryptoWallet.release
  split
  · simp
  · exact Int.le_refl _

theorem kept_turn (turn : Turn before after) (kept : SlotsKept before) : SlotsKept after := by
  cases turn with
  | ended change keeps invoice after kind found waiting ending =>
      have ends : (change invoice).status.isWaiting = false := by
        rcases kind with rfl | ⟨now, rfl⟩ <;> rfl
      have stays : ∀ invoice, (change invoice).walletId = invoice.walletId := by
        rcases kind with rfl | ⟨now, rfl⟩ <;> exact fun _ => rfl
      have wallets : after.wallets = (releaseWalletSlot invoice.walletId before).wallets := by
        rw [ending.frame]
      constructor
      · rw [ending.invoices, wallets]
        exact slots_released keeps found waiting ends kept.slots
      · rw [ending.invoices, wallets]
        exact housed_in (fun _ here => Table.isSome_modify CryptoWallet.id_release here)
          (housed_modify keeps stays kept.housed)
  | recorded transfer after inserted =>
      rw [(transfers_of_recorded inserted).2.2]
      exact ⟨kept.slots, kept.housed⟩
  | received transfer draws invoice after found waiting receipt =>
      have wallets := receipt.slot
      have housed : Housed before.wallets (before.invoices.modify invoice.id
          (CryptoInvoice.receive transfer draws.now) (CryptoInvoice.id_receive transfer draws.now)) :=
        housed_modify _ (fun _ => rfl) kept.housed
      by_cases completed : (invoice.receive transfer draws.now).status = .completed
      · rw [if_pos completed] at wallets
        constructor
        · rw [receipt.payment.invoices, wallets]
          exact slots_released _ found waiting (by rw [completed]; rfl) kept.slots
        · rw [receipt.payment.invoices, wallets]
          exact housed_in (fun _ here => Table.isSome_modify CryptoWallet.id_release here) housed
      · rw [if_neg completed] at wallets
        constructor
        · rw [receipt.payment.invoices, wallets]
          exact slots_kept _ found (waitsOn_receive waiting completed) kept.slots
        · rw [receipt.payment.invoices, wallets]
          exact housed
  | noted cursors rpcEndpoints => exact ⟨kept.slots, kept.housed⟩

theorem slotsFall_trans {first second third : Table CryptoWallet.id}
    (left : SlotsFall first second) (right : SlotsFall second third) : SlotsFall first third := by
  intro wallet member
  obtain ⟨fell, here⟩ := right wallet member
  obtain ⟨middle, found⟩ := Option.isSome_iff_exists.mp here
  obtain ⟨earlier, known⟩ := left middle (Table.mem_of_find? found)
  have own := Table.key_of_find? found
  have between : slotsIn second wallet.id = middle.activeInvoiceCount := by
    rw [← own]
    exact slotsIn_of_mem (Table.mem_of_find? found)
  rw [own] at earlier known
  rw [between] at fell
  exact ⟨Int.le_trans fell earlier, known⟩

theorem slotsFall_release (wallets : Table CryptoWallet.id) (walletId : String) :
    SlotsFall wallets
      (wallets.modify walletId CryptoWallet.release CryptoWallet.id_release) := by
  intro wallet member
  obtain ⟨old, oldMember, rfl⟩ := (Table.mem_modify_iff ..).mp member
  split
  · rw [CryptoWallet.id_release, slotsIn_of_mem oldMember, Table.find?_of_mem oldMember]
    exact ⟨release_le old, rfl⟩
  · exact slotsFall_refl wallets old oldMember

theorem slotsFall_turn (turn : Turn before after) : SlotsFall before.wallets after.wallets := by
  cases turn with
  | ended change keeps invoice after kind found waiting ending =>
      rw [ending.frame]
      exact slotsFall_release before.wallets invoice.walletId
  | recorded transfer after inserted =>
      rw [(transfers_of_recorded inserted).2.2]
      exact slotsFall_refl _
  | received transfer draws invoice after found waiting receipt =>
      rw [receipt.slot]
      split
      · exact slotsFall_release before.wallets invoice.walletId
      · exact slotsFall_refl _
  | noted cursors rpcEndpoints => exact slotsFall_refl _

theorem slotsFall_turns (turns : Turns before after) : SlotsFall before.wallets after.wallets :=
  turns_keep (fun _ _ fall turn => slotsFall_trans fall (slotsFall_turn turn))
    (slotsFall_refl before.wallets) turns

theorem within_of_fall {op : DeskOp} (fall : SlotsFall before.wallets after.wallets) :
    WithinLimits before op after :=
  .inr fun wallet member => Int.le_trans (fall wallet member).1 (Int.le_max_right ..)

section Creation

variable {payload : CryptoInvoiceCreate} {merchantId : String} {userId : Option String}
  {draws : InvoiceDraws} {network : CryptoNetwork} {wallet : CryptoWallet}

theorem kept_of_choice {address : Option String}
    (choice : Choice runtime network address merchantId draws before wallet after)
    (kept : SlotsKept before) :
    SlotsKept after ∧ (after.wallets.find? wallet.id).isSome := by
  cases choice with
  | supplied text wallet named found =>
      have here := Table.find?_of_mem (List.mem_of_find?_eq_some found)
      exact ⟨kept, by rw [here]; rfl⟩
  | added text after named inserted =>
      obtain ⟨wallets, accepted, rfl⟩ := Option.map_eq_some_iff.mp inserted
      have grown := ((Table.insertUnique?_eq_some_iff ..).mp accepted).2
      refine ⟨⟨slots_added grown rfl kept.housed kept.slots, ?_⟩, ?_⟩
      · exact housed_in (fun _ here => Table.isSome_insert? grown here) kept.housed
      · rw [Table.find?_insert? grown, if_pos rfl]
        rfl
  | assigned wallet unnamed least =>
      have listed := (List.mem_filter.mp (mem_of_firstBy least)).1
      have here := Table.find?_of_mem listed
      exact ⟨kept, by rw [here]; rfl⟩

/-- The wallet that the platform chooses has a free slot; no other counter moves. -/
theorem within_of_assigned {op : DeskOp} (member : wallet ∈ before.wallets.rows)
    (free : wallet.activeInvoiceCount < wallet.maxActiveInvoices)
    (occupied : after.wallets =
      before.wallets.modify wallet.id CryptoWallet.occupy CryptoWallet.id_occupy) :
    WithinLimits before op after := by
  refine .inr fun row listed => ?_
  rw [occupied] at listed
  obtain ⟨old, oldMember, rfl⟩ := (Table.mem_modify_iff ..).mp listed
  by_cases own : old.id = wallet.id
  · have same : old = wallet := Table.eq_of_key_eq _ oldMember member own
    rw [if_pos own, same]
    exact Int.le_trans free (Int.le_max_left ..)
  · rw [if_neg own, slotsIn_of_mem oldMember]
    exact Int.le_max_right ..

theorem accounted_created {invoice : CryptoInvoice}
    (creation : Creation runtime payload merchantId userId draws before invoice after)
    (kept : SlotsKept before) :
    SlotsKept after ∧ WithinLimits before
      (.request (.createInvoice payload merchantId userId draws)) after := by
  cases creation with
  | replayed invoice found same => exact ⟨kept, within_of_fall (slotsFall_refl _)⟩
  | opened network token wallet pay middle opened unused pair choice priced inserted =>
      obtain ⟨chosen, here⟩ := kept_of_choice choice kept
      obtain ⟨grown, frame⟩ := insertInvoice_ok inserted
      have wallets : opened.wallets = middle.wallets := by rw [frame]
      have occupied : (occupyWallet wallet.id opened).wallets = middle.wallets.modify wallet.id
          CryptoWallet.occupy CryptoWallet.id_occupy := by rw [← wallets]; rfl
      refine ⟨⟨?_, ?_⟩, ?_⟩
      · rw [occupied]
        exact slots_occupied grown rfl chosen.slots
      · rw [occupied]
        apply housed_in (fun _ here => Table.isSome_modify CryptoWallet.id_occupy here)
        intro row member
        have listed : row ∈ opened.invoices.rows := member
        rw [Table.rows_of_insert? grown] at listed
        rcases List.mem_append.mp listed with old | new
        · exact chosen.housed row old
        · obtain rfl := List.mem_singleton.mp new
          exact here
      · cases choice with
        | supplied text wallet named found => exact .inl (by simp [NamesAddress, named])
        | added text middle named added => exact .inl (by simp [NamesAddress, named])
        | assigned wallet unnamed least =>
            obtain ⟨member, free⟩ := List.mem_filter.mp (mem_of_firstBy least)
            simp only [eligible, Bool.and_eq_true, decide_eq_true_eq] at free
            exact within_of_assigned member free.2 occupied

end Creation

theorem accounted_registered {op : DeskOp} {wallet : CryptoWallet}
    (inserted : insertWallet? wallet before = some after) (free : wallet.activeInvoiceCount = 0)
    (kept : SlotsKept before) : SlotsKept after ∧ WithinLimits before op after := by
  obtain ⟨wallets, accepted, rfl⟩ := Option.map_eq_some_iff.mp inserted
  have grown := ((Table.insertUnique?_eq_some_iff ..).mp accepted).2
  refine ⟨⟨slots_added grown free kept.housed kept.slots, ?_⟩, .inr ?_⟩
  · exact housed_in (fun _ here => Table.isSome_insert? grown here) kept.housed
  · intro row member
    rw [Table.rows_of_insert? grown] at member
    rcases List.mem_append.mp member with old | new
    · rw [slotsIn_of_mem old]
      exact Int.le_max_right ..
    · obtain rfl := List.mem_singleton.mp new
      have absent : slotsIn before.wallets row.id = 0 := by
        rw [slotsIn, Table.fresh_of_insert? grown]
        rfl
      rw [absent, free]
      exact Int.le_max_right ..

theorem accounted_serve {op : Op} (kept : SlotsKept before) :
    SlotsKept (serve runtime before op) ∧
      WithinLimits before (.request op) (serve runtime before op) := by
  have attended := attended_of_serve runtime before op
  generalize serve runtime before op = after at attended
  cases attended with
  | created payload merchantId userId draws invoice after returned =>
      exact accounted_created (createInvoice_ok returned) kept
  | registered payload fresh network after inserted => exact accounted_registered inserted rfl kept
  | turned op after turns =>
      exact ⟨turns_keep (fun _ _ holds turn => kept_turn turn holds) kept turns,
        within_of_fall (slotsFall_turns turns)⟩

def CompletesEnded (db : CryptoDb) : DeskOp → Prop
  | .adminForceCompleteInvoice invoiceId => ∀ invoice, db.invoices.find? invoiceId = some invoice →
      invoice.status.isWaiting = false
  | .request _ => True

/-- An override leaves the counters exact just when the invoice waits no more: it never
touches a counter. -/
theorem slots_forced_iff {invoice : CryptoInvoice} (kept : SlotsKept before)
    (found : before.invoices.find? invoice.id = some invoice) :
    SlotsExact before.wallets
        (before.invoices.modify invoice.id forceComplete id_forceComplete) ↔
      invoice.status.isWaiting = false := by
  constructor
  · intro slots
    by_contra waits
    have waiting : invoice.status.isWaiting = true := by simpa using waits
    obtain ⟨wallet, home⟩ := Option.isSome_iff_exists.mp
      (kept.housed invoice (Table.mem_of_find? found))
    have own := Table.key_of_find? home
    have earlier := kept.slots wallet (Table.mem_of_find? home)
    have later := slots wallet (Table.mem_of_find? home)
    have moved := Table.countP_modify found forceComplete id_forceComplete (waitsOn wallet.id)
    have here : waitsOn wallet.id invoice = true := by simp [waitsOn, own, waiting]
    have gone : waitsOn wallet.id (forceComplete invoice) = false := by
      simp [waitsOn, forceComplete, InvoiceStatus.isWaiting]
    simp only [here, gone, if_true, Bool.false_eq_true, if_false] at moved
    omega
  · intro ended
    apply slots_kept id_forceComplete found ?_ kept.slots
    intro walletId
    have forced : (forceComplete invoice).status.isWaiting = false := rfl
    rw [waitsOn, waitsOn, forced, ended]
    rfl

theorem slotsAccounted_attend_iff (db : CryptoDb) (op : DeskOp) (kept : SlotsKept db) :
    SlotsAccounted db op (attend runtime db op) ↔ CompletesEnded db op := by
  cases op with
  | request op =>
      have accounted : SlotsKept (serve runtime db op) ∧
          WithinLimits db (.request op) (serve runtime db op) := accounted_serve kept
      exact iff_of_true ⟨accounted.1.slots, accounted.2⟩ trivial
  | adminForceCompleteInvoice invoiceId =>
      cases found : db.invoices.find? invoiceId with
      | none =>
          rw [attend_missing found]
          refine iff_of_true ⟨kept.slots, within_of_fall (slotsFall_refl _)⟩ ?_
          intro invoice other
          rw [found] at other
          cases other
      | some invoice =>
          obtain rfl := Table.key_of_find? found
          rw [attend_forced found]
          have forced := slots_forced_iff kept found
          constructor
          · intro accounted other same
            obtain rfl := Option.some.inj (found.symm.trans same)
            exact forced.mp accounted.slots
          · intro guarded
            exact ⟨forced.mpr (guarded invoice found), within_of_fall (slotsFall_refl _)⟩

theorem kept_attend (db : CryptoDb) (op : DeskOp) (kept : SlotsKept db)
    (accounted : SlotsAccounted db op (attend runtime db op)) :
    SlotsKept (attend runtime db op) := by
  refine ⟨accounted.slots, ?_⟩
  cases op with
  | request op => exact (accounted_serve kept).1.housed
  | adminForceCompleteInvoice invoiceId =>
      cases found : db.invoices.find? invoiceId with
      | none =>
          rw [attend_missing found]
          exact kept.housed
      | some invoice =>
          rw [attend_forced found]
          exact housed_modify id_forceComplete (fun _ => rfl) kept.housed

/-- From a state with the invariant, every request of a run leaves the counters exact and
within what the platform may choose, if and only if every override is for an invoice
that waits no more. -/
theorem slots_accounted_iff (runtime : Runtime) (start : CryptoDb) (kept : SlotsKept start)
    (events : List DeskOp) :
    Run.Along (fun db op => SlotsAccounted db op (attend runtime db op)) (attend runtime) start
        events ↔
      Run.Along CompletesEnded (attend runtime) start events :=
  Run.along_iff SlotsKept (fun db op holds => slotsAccounted_attend_iff db op holds)
    (fun db op holds accounted => kept_attend db op holds accounted) kept

theorem kept_market : SlotsKept market where
  slots := by
    intro wallet member
    cases member
  housed := by
    intro invoice member
    cases member

def completedLate : List DeskOp := [
  .request (.adminCreateWallet systemWallet ⟨"w2", 1⟩),
  .request (.createInvoice (order "r1" none) "m1" none (drawsAt 2 "i1" "w1")),
  .request (.cancelInvoice "TXi1" (some "m1") ⟨"callback", 3⟩),
  .adminForceCompleteInvoice "i1"]

theorem slots_accounted_completed_late :
    Run.Along (fun db op => SlotsAccounted db op (attend .ascii db op)) (attend .ascii) market
      completedLate := by
  apply (slots_accounted_iff .ascii market kept_market completedLate).mpr
  have ended : ∀ invoice ∈ ((completedLate.take 3).foldl (attend .ascii) market).invoices.rows,
      invoice.status.isWaiting = false := by decide +kernel
  refine ⟨trivial, trivial, trivial, ?_, trivial⟩
  intro invoice found
  exact ended invoice (Table.mem_of_find? found)

/-- The same without the cancelation: the invoice is completed and its slot is not free. -/
def completedEarly : List DeskOp :=
  completedLate.take 2 ++ [.adminForceCompleteInvoice "i1"]

theorem override_keeps_slot : ¬∀ runtime start (events : List DeskOp), SlotsKept start →
    SlotsExact (events.foldl (attend runtime) start).wallets
      (events.foldl (attend runtime) start).invoices := by
  intro always
  have slots := always .ascii market completedEarly kept_market
  have kept : ∃ wallet ∈ (completedEarly.foldl (attend .ascii) market).wallets.rows,
      wallet.activeInvoiceCount ≠
        (completedEarly.foldl (attend .ascii) market).invoices.rows.countP (waitsOn wallet.id) := by
    decide +kernel
  obtain ⟨wallet, member, apart⟩ := kept
  exact apart (slots wallet member)

end ApiBank.Crypto.SlotAccounting
