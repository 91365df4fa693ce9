import ApiBank.Db.Session
import Mathlib.Logic.Function.Basic

/-!
# Reusable payment names

`Order.new` and `allocate_order`: a new order takes a transfer content that no
live reservation of its bank account holds, in a random order of the pool. Every
attempt runs in a savepoint, so a refused insertion leaves the session as it was.
-/

namespace ApiBank.Db.PaymentNames

open ApiBank.Relational ApiBank.Transition

set_option autoImplicit false

def surnames : List String := [
  "NGUYEN", "TRAN", "LE", "PHAM", "HOANG", "HUYNH", "PHAN", "VU", "VO", "DANG", "BUI", "DO",
  "HO", "NGO", "DUONG", "LY", "DINH", "TRINH", "MA", "CAO", "LUONG", "LUU", "TRUONG", "TA",
  "DAO", "LAM", "CHAU", "TO", "LA", "QUACH"]

def middles : List String := [
  "VAN", "THI", "TIEN", "MINH", "QUANG", "DUC", "HUU", "NGOC", "THANH", "HOANG", "GIA", "BAO",
  "TUAN", "HAI", "XUAN", "NHAT", "TRUNG", "KIM", "ANH", "KHANH"]

def names : List String := [
  "DAT", "AN", "BINH", "CUONG", "DUNG", "DUY", "GIANG", "HIEU", "HOA", "HUNG", "HUY", "KHANG",
  "KHOA", "KIEN", "LINH", "LONG", "NAM", "PHONG", "PHUC", "QUAN", "QUYNH", "SON", "TAM", "THAO",
  "THIEN", "THINH", "TRANG", "TRIEU", "VINH", "YEN"]

def paymentNames : List String :=
  surnames.flatMap fun surname =>
    middles.flatMap fun middle =>
      names.map fun name => s!"{surname} {middle} {name} chuyen tien"

/-- `SystemRandom().shuffle`: some permutation of the list. -/
structure Shuffle where
  order : List String → List String
  perm : ∀ contents, (order contents).Perm contents

/-- What a new order draws: its token, its code, the name `Order.new` picks before
the allocation, the order in which the pool is tried, and the clock. -/
structure OrderDraws where
  id : String
  codeHex : String
  name : String
  shuffle : Shuffle
  now : Int

/-- The keyword arguments of `Order.new`. -/
structure OrderArgs where
  amountVnd : Int
  bankAccountId : String
  ttlSeconds : Int
  customerRef : Option String
  metadataJson : Metadata
  userId : Option String

def newOrder (args : OrderArgs) (draws : OrderDraws) : Order where
  id := draws.id
  code := s!"PAY{draws.codeHex}"
  transferContent := some draws.name
  amountVnd := args.amountVnd
  status := .pending
  bankAccountId := args.bankAccountId
  userId := args.userId
  expiredAt := (DateTime.utc draws.now).add (seconds args.ttlSeconds)
  paidTxId := none
  paidAt := none
  customerRef := args.customerRef
  metadataJson := args.metadataJson
  createdAt := .utc draws.now
  updatedAt := .utc draws.now

def cooldown : Int := days 7

/-- `reserved_until` by content, for one bank account. -/
abbrev Reservations := String → Option DateTime

def storedReservations (db : Database) (bankAccountId : String) : Reservations := fun content =>
  (db.paymentNameReservations.find? (bankAccountId, content)).map
    PaymentNameReservation.reservedUntil

/-- One round of the loop over orders from before the reusable names: their code
is the transfer content. -/
def protectLegacy (reservations : Reservations) (previous : Order) : Reservations :=
  if " chuyen tien".toList.isSuffixOf previous.code.toList then
    let ended := if previous.status = .paid then previous.paidAt else none
    let protectedUntil := ((ended.getD previous.expiredAt).replaceUtc).add cooldown
    match reservations previous.code with
    | none => Function.update reservations previous.code (some protectedUntil)
    | some current =>
        if current.replaceUtc.instant < protectedUntil.instant then
          Function.update reservations previous.code (some protectedUntil)
        else reservations
  else reservations

def legacyOrders (db : Database) (bankAccountId : String) : List Order :=
  db.orders.rows.filter fun order =>
    order.bankAccountId = bankAccountId && order.transferContent.isNone

def availableNames (db : Database) (bankAccountId : String) (now : Int) : List String :=
  let reservations :=
    (legacyOrders db bankAccountId).foldl protectLegacy (storedReservations db bankAccountId)
  paymentNames.filter fun name =>
    match reservations name with
    | none => true
    | some reservedUntil => reservedUntil.aware.instant ≤ now

/-- The insertion of a reservation, or the conditional `UPDATE` of an old one.
`none` when the `UPDATE` meets no row that has run out. -/
def claimName (order : Order) (content : String) (now : Int) (db : Database) :
    Option (Table PaymentNameReservation.key) :=
  let reservedUntil :=
    (if order.expiredAt.aware.instant < now then DateTime.utc now else order.expiredAt.aware).add
      cooldown
  match db.paymentNameReservations.find? (order.bankAccountId, content) with
  | none => db.paymentNameReservations.insert? ⟨order.bankAccountId, content, reservedUntil⟩
  | some reservation =>
      if reservation.reservedUntil.instant ≤ now then
        some (db.paymentNameReservations.modify (order.bankAccountId, content)
          (.keepUntil reservedUntil) (PaymentNameReservation.key_keepUntil reservedUntil))
      else none

/-- A claimed name is reserved for seven days beyond the order and the clock, and no
other reservation changes. -/
theorem claimName_ok {order : Order} {content : String} {now : Int} {db : Database}
    {table : Table PaymentNameReservation.key}
    (claimed : claimName order content now db = some table) :
    ∃ row, table.find? (order.bankAccountId, content) = some row ∧
      order.expiredAt.instant + cooldown ≤ row.reservedUntil.instant ∧
        now + cooldown ≤ row.reservedUntil.instant ∧
          ∀ key, key ≠ (order.bankAccountId, content) →
            table.find? key = db.paymentNameReservations.find? key := by
  have bounds : ∀ reservedUntil : DateTime, reservedUntil =
      (if order.expiredAt.aware.instant < now then DateTime.utc now
        else order.expiredAt.aware).add cooldown →
      order.expiredAt.instant + cooldown ≤ reservedUntil.instant ∧
        now + cooldown ≤ reservedUntil.instant := by
    rintro reservedUntil rfl
    rw [DateTime.instant_add]
    split
    · rename_i expired
      rw [DateTime.instant_aware] at expired
      rw [DateTime.instant_utc]
      omega
    · rename_i running
      rw [DateTime.instant_aware] at running ⊢
      omega
  simp only [claimName] at claimed
  split at claimed
  · obtain ⟨first, second⟩ := bounds _ rfl
    refine ⟨⟨order.bankAccountId, content, _⟩, ?_, first, second, ?_⟩
    · rw [Table.find?_insert? claimed]
      exact if_pos rfl
    · intro key different
      rw [Table.find?_insert? claimed]
      exact if_neg (Ne.symm different)
  · rename_i row found
    split at claimed
    · cases claimed
      obtain ⟨first, second⟩ := bounds _ rfl
      refine ⟨row.keepUntil _, ?_, first, second, ?_⟩
      · rw [Table.find?_modify, if_pos rfl, found]
        rfl
      · intro key different
        rw [Table.find?_modify, if_neg different]
    · contradiction

def insertOrder (order : Order) (db : Database) : Option (Table Order.id) :=
  if db.orders.rows.any fun other => other.code = order.code then none
  else db.orders.insert? order

/-- The loop over the shuffled names. -/
def allocateFrom (order : Order) (now : Int) : List String → Session Order
  | [] => throw (.paymentNamePoolFull "Payment name pool is full; retry after cooldown")
  | content :: rest => fun db =>
      match claimName order content now db with
      | none => allocateFrom order now rest db
      | some paymentNameReservations =>
          let named := { order with transferContent := some content }
          match insertOrder named db with
          | some orders => .ok named { db with orders, paymentNameReservations }
          | none =>
              if db.orders.rows.any fun other => other.code = order.code then
                .error .integrityError db
              else if db.paymentNameReservations.find? (order.bankAccountId, content) = none then
                .error .integrityError db
              else allocateFrom order now rest db

def allocateOrder (order : Order) (draws : OrderDraws) : Session Order := fun db =>
  allocateFrom order draws.now
    (draws.shuffle.order (availableNames db order.bankAccountId draws.now)) db

/-- A new order row, named from the pool. -/
structure Allocated (order : Order) (available : List String) (before : Database) (named : Order)
    (after : Database) : Prop where
  content : ∃ name ∈ available, named = { order with transferContent := some name }
  inserted : before.orders.insert? named = some after.orders
  frame : after = { before with
    orders := after.orders
    paymentNameReservations := after.paymentNameReservations }

theorem allocateFrom_ok {order named : Order} {now : Int} {contents : List String}
    {before after : Database} (returned : allocateFrom order now contents before = .ok named after) :
    Allocated order contents before named after := by
  induction contents with
  | nil => simp [allocateFrom] at returned
  | cons content rest ih =>
      have later (again : allocateFrom order now rest before = .ok named after) :
          Allocated order (content :: rest) before named after := by
        have allocated := ih again
        obtain ⟨name, member, shape⟩ := allocated.content
        exact { allocated with content := ⟨name, List.mem_cons_of_mem _ member, shape⟩ }
      simp only [allocateFrom] at returned
      split at returned
      · exact later returned
      · split at returned
        · rename_i orders inserted
          simp only [EStateM.Result.ok.injEq] at returned
          obtain ⟨rfl, rfl⟩ := returned
          refine ⟨⟨content, by simp, rfl⟩, ?_, rfl⟩
          unfold insertOrder at inserted
          split at inserted
          · contradiction
          · exact inserted
        · split at returned
          · contradiction
          · split at returned
            · contradiction
            · exact later returned

theorem allocateOrder_ok {order named : Order} {draws : OrderDraws} {before after : Database}
    (returned : allocateOrder order draws before = .ok named after) :
    Allocated order paymentNames before named after := by
  have allocated := allocateFrom_ok returned
  obtain ⟨name, member, shape⟩ := allocated.content
  have offered := (draws.shuffle.perm _).mem_iff.mp member
  have pooled : name ∈ paymentNames := (List.mem_filter.mp offered).1
  exact { allocated with content := ⟨name, pooled, shape⟩ }

/-- What an allocated new order still says about its arguments. -/
structure Fresh (args : OrderArgs) (draws : OrderDraws) (order : Order) : Prop where
  id : order.id = draws.id
  status : order.status = .pending
  paidTxId : order.paidTxId = none
  amountVnd : order.amountVnd = args.amountVnd
  bankAccountId : order.bankAccountId = args.bankAccountId
  userId : order.userId = args.userId
  metadataJson : order.metadataJson = args.metadataJson

theorem fresh_of_allocated {args : OrderArgs} {draws : OrderDraws} {available : List String}
    {before after : Database} {named : Order}
    (allocated : Allocated (newOrder args draws) available before named after) :
    Fresh args draws named := by
  obtain ⟨name, -, rfl⟩ := allocated.content
  exact ⟨rfl, rfl, rfl, rfl, rfl, rfl, rfl⟩

end ApiBank.Db.PaymentNames
