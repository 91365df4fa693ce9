import ApiBank.Crypto.Models
import ApiBank.Transition.Keyed
import Mathlib.Data.Prod.Lex

/-!
# Settlement by chain time

What the chain alone says about who is paid. Invoices queue at a till: one address, one
token, one amount. A transfer pays the oldest open invoice of its till that was within
its window when the block was mined; nobody looks at a clock, and nothing expires but
by the date of a block.
-/

namespace ApiBank.Crypto.Settlement

open ApiBank.Numeric ApiBank.Relational ApiBank.Transition

set_option autoImplicit false

/-- Where the money of an invoice is expected, and how much. -/
structure Till where
  networkId : String
  tokenId : String
  address : String
  amount : ℚ
deriving DecidableEq

/-- Network, transaction and number of the log. -/
abbrev LogKey := String × String × Nat

/-- When each log was mined, and its rank among the logs of that moment. -/
structure Blocks where
  time : LogKey → Int
  index : LogKey → Nat
  distinct : ∀ first second, first.1 = second.1 → time first = time second →
    index first = index second → first = second

/-- What happens at a till. -/
inductive Event where
  | opened (id : String) (till : Till) (createdAt expiresAt : Int)
  | canceled (id : String) (till : Till) (now : Int)
  | mined (log : LogKey) (till : Till)
deriving DecidableEq

def Event.till : Event → Till
  | .opened _ till _ _ => till
  | .canceled _ till _ => till
  | .mined _ till => till

def Event.isMined : Event → Bool
  | .mined .. => true
  | _ => false

/-- Time first; at one moment requests come before blocks. -/
abbrev Place := Int ×ₗ (Nat ×ₗ Nat)

def Event.place (blocks : Blocks) : Event → Place
  | .opened _ _ createdAt _ => toLex (createdAt, toLex (0, 0))
  | .canceled _ _ now => toLex (now, toLex (0, 0))
  | .mined log _ => toLex (blocks.time log, toLex (1, blocks.index log))

def InChainOrder (blocks : Blocks) (events : List Event) : Prop :=
  events.Pairwise fun earlier later =>
    earlier.till = later.till → earlier.place blocks ≤ later.place blocks

instance (blocks : Blocks) (events : List Event) : Decidable (InChainOrder blocks events) :=
  inferInstanceAs (Decidable (List.Pairwise _ events))

structure Bill where
  id : String
  createdAt : Int
  expiresAt : Int
  received : ℚ
  isOpen : Bool
deriving DecidableEq

def Bill.withdraw (bill : Bill) : Bill := { bill with isOpen := false }

def Bill.receive (amount : ℚ) (bill : Bill) : Bill :=
  let received := significant contextDigits (bill.received + amount)
  { bill with
    received
    isOpen := !decide (amount ≤ received) }

def Bill.covers (time : Int) (bill : Bill) : Prop := bill.createdAt ≤ time ∧ time ≤ bill.expiresAt

instance (time : Int) (bill : Bill) : Decidable (bill.covers time) :=
  inferInstanceAs (Decidable (_ ∧ _))

/-- Bills in the order of their opening, and the payments so far. -/
structure Desk where
  bills : List Bill
  pairs : List (LogKey × String)

def Desk.vacant : Desk := ⟨[], []⟩

def payee (time : Int) (bills : List Bill) : Option Bill :=
  firstBy (fun bill other => bill.createdAt < other.createdAt)
    (bills.filter fun bill => bill.isOpen && decide (bill.covers time))

def amend (id : String) (change : Bill → Bill) (bills : List Bill) : List Bill :=
  bills.map fun bill => if bill.id = id then change bill else bill

def Desk.settle (blocks : Blocks) (desk : Desk) : Event → Desk
  | .opened id _ createdAt expiresAt =>
      { desk with bills := desk.bills ++ [⟨id, createdAt, expiresAt, 0, true⟩] }
  | .canceled id _ _ => { desk with bills := amend id Bill.withdraw desk.bills }
  | .mined log till =>
      match payee (blocks.time log) desk.bills with
      | none => desk
      | some bill =>
          { bills := amend bill.id (Bill.receive till.amount) desk.bills
            pairs := desk.pairs ++ [(log, bill.id)] }

theorem Desk.settle_unclaimed {blocks : Blocks} {desk : Desk} {log : LogKey} {till : Till}
    (unclaimed : payee (blocks.time log) desk.bills = none) :
    desk.settle blocks (.mined log till) = desk := by
  simp [Desk.settle, unclaimed]

theorem Desk.settle_claimed {blocks : Blocks} {desk : Desk} {log : LogKey} {till : Till}
    {bill : Bill} (claimed : payee (blocks.time log) desk.bills = some bill) :
    desk.settle blocks (.mined log till) =
      ⟨amend bill.id (Bill.receive till.amount) desk.bills,
        desk.pairs ++ [(log, bill.id)]⟩ := by
  simp [Desk.settle, claimed]

def settle (blocks : Blocks) (events : List Event) (till : Till) : Desk :=
  events.foldl (Keyed.tell Event.till (Desk.settle blocks)) (fun _ => Desk.vacant) till

section History

variable {blocks : Blocks} {events : List Event} {till : Till}

theorem settle_nil : settle blocks [] till = Desk.vacant := rfl

theorem settle_own (event : Event) :
    settle blocks (events ++ [event]) event.till =
      (settle blocks events event.till).settle blocks event := by
  unfold settle
  rw [List.foldl_append, List.foldl_cons, List.foldl_nil, Keyed.tell_self]

theorem settle_apart {event : Event} (apart : event.till ≠ till) :
    settle blocks (events ++ [event]) till = settle blocks events till := by
  unfold settle
  rw [List.foldl_append, List.foldl_cons, List.foldl_nil, Keyed.tell_other apart]

theorem settle_snoc (event : Event) (till : Till) :
    settle blocks (events ++ [event]) till =
      if event.till = till then (settle blocks events till).settle blocks event
      else settle blocks events till := by
  split
  · rename_i own
    subst own
    exact settle_own event
  · rename_i apart
    exact settle_apart apart

theorem pairs_of_request {event : Event} (request : event.isMined = false) (till : Till) :
    (settle blocks (events ++ [event]) till).pairs = (settle blocks events till).pairs := by
  rw [settle_snoc]
  split
  · cases event with
    | opened id till createdAt expiresAt => rfl
    | canceled id till now => rfl
    | mined log till => cases request
  · rfl

theorem payee_spec {time : Int} {bills : List Bill} {bill : Bill}
    (found : payee time bills = some bill) :
    bill ∈ bills ∧ bill.isOpen = true ∧ bill.covers time := by
  obtain ⟨member, fit⟩ := List.mem_filter.mp (mem_of_firstBy found)
  have parts : bill.isOpen = true ∧ bill.covers time := by simpa using fit
  exact ⟨member, parts⟩

theorem payee_of_open {time : Int} {bills : List Bill} {bill : Bill} (member : bill ∈ bills)
    (isOpen : bill.isOpen = true) (covers : bill.covers time) :
    ∃ other, payee time bills = some other := by
  cases found : payee time bills with
  | some other => exact ⟨other, rfl⟩
  | none =>
      have empty := firstBy_eq_none_iff.mp found
      have listed : bill ∈ bills.filter fun bill => bill.isOpen && decide (bill.covers time) :=
        List.mem_filter.mpr ⟨member, by simp [isOpen, covers]⟩
      rw [empty] at listed
      cases listed

def Event.opens (till : Till) (bill : Bill) : Event :=
  .opened bill.id till bill.createdAt bill.expiresAt

/-- The two bills stand for one invoice. -/
structure SameTerms (bill other : Bill) : Prop where
  id : other.id = bill.id
  createdAt : other.createdAt = bill.createdAt
  expiresAt : other.expiresAt = bill.expiresAt

theorem SameTerms.refl (bill : Bill) : SameTerms bill bill := ⟨rfl, rfl, rfl⟩

theorem sameTerms_withdraw (bill : Bill) : SameTerms bill bill.withdraw := ⟨rfl, rfl, rfl⟩

theorem sameTerms_receive (amount : ℚ) (bill : Bill) : SameTerms bill (bill.receive amount) :=
  ⟨rfl, rfl, rfl⟩

theorem SameTerms.opens {bill other : Bill} (same : SameTerms bill other) :
    Event.opens till other = Event.opens till bill := by
  rw [Event.opens, same.id, same.createdAt, same.expiresAt, Event.opens]

theorem SameTerms.covers {bill other : Bill} (same : SameTerms bill other) {time : Int} :
    other.covers time ↔ bill.covers time := by
  unfold Bill.covers
  rw [same.createdAt, same.expiresAt]

theorem old_of_amend {id : String} {change : Bill → Bill} {bills : List Bill} {bill : Bill}
    (same : ∀ bill, SameTerms bill (change bill)) (member : bill ∈ amend id change bills) :
    ∃ old ∈ bills, SameTerms old bill ∧ (bill = old ∨ bill.id = id) := by
  obtain ⟨old, oldMember, rfl⟩ := List.mem_map.mp member
  refine ⟨old, oldMember, ?_⟩
  split
  · rename_i own
    exact ⟨same old, .inr ((same old).id.trans own)⟩
  · exact ⟨.refl old, .inl rfl⟩

theorem new_of_amend {id : String} {change : Bill → Bill} {bills : List Bill} {bill : Bill}
    (same : ∀ bill, SameTerms bill (change bill)) (member : bill ∈ bills) :
    ∃ new ∈ amend id change bills, SameTerms bill new := by
  refine ⟨_, List.mem_map_of_mem member, ?_⟩
  split
  · exact same bill
  · exact .refl bill

/-- Why the books of a till are as they are. -/
structure Explained (blocks : Blocks) (events : List Event) (till : Till) (desk : Desk) : Prop where
  terms : ∀ bill ∈ desk.bills, Event.opens till bill ∈ events
  paid : ∀ pair ∈ desk.pairs, .mined pair.1 till ∈ events ∧
    ∃ bill ∈ desk.bills, bill.id = pair.2 ∧ bill.covers (blocks.time pair.1)
  closed : ∀ bill ∈ desk.bills, bill.isOpen = false →
    (∃ now, .canceled bill.id till now ∈ events) ∨ ∃ log, (log, bill.id) ∈ desk.pairs
  served : ∀ log, .mined log till ∈ events → ∀ bill ∈ desk.bills,
    bill.covers (blocks.time log) →
      (∃ now ≤ blocks.time log, .canceled bill.id till now ∈ events) ∨
        (∃ other, (other, bill.id) ∈ desk.pairs) ∨ ∃ id, (log, id) ∈ desk.pairs

theorem explained_vacant : Explained blocks [] till Desk.vacant where
  terms := by simp [Desk.vacant]
  paid := by simp [Desk.vacant]
  closed := by simp [Desk.vacant]
  served := by simp

theorem explained_apart {desk : Desk} {event : Event}
    (explained : Explained blocks events till desk) (apart : event.till ≠ till) :
    Explained blocks (events ++ [event]) till desk where
  terms := fun bill member => List.mem_append_left _ (explained.terms bill member)
  paid := by
    intro pair member
    obtain ⟨mined, bill⟩ := explained.paid pair member
    exact ⟨List.mem_append_left _ mined, bill⟩
  closed := by
    intro bill member shut
    rcases explained.closed bill member shut with ⟨now, canceled⟩ | paired
    · exact .inl ⟨now, List.mem_append_left _ canceled⟩
    · exact .inr paired
  served := by
    intro log mined bill member covers
    rcases List.mem_append.mp mined with mined | last
    · rcases explained.served log mined bill member covers with ⟨now, past, canceled⟩ | paired
      · exact .inl ⟨now, past, List.mem_append_left _ canceled⟩
      · exact .inr paired
    · obtain rfl := List.mem_singleton.mp last
      exact absurd rfl apart

theorem uncovered_of_place {log : LogKey} {id : String} {createdAt expiresAt : Int}
    (place : (Event.mined log till).place blocks ≤
      (Event.opened id till createdAt expiresAt).place blocks) :
    blocks.time log < createdAt := by
  simp only [Event.place, Prod.Lex.toLex_le_toLex] at place
  omega

theorem past_of_place {log : LogKey} {id : String} {now : Int}
    (place : (Event.canceled id till now).place blocks ≤ (Event.mined log till).place blocks) :
    now ≤ blocks.time log := by
  simp only [Event.place, Prod.Lex.toLex_le_toLex] at place
  omega

theorem explained_opened {desk : Desk} {id : String} {createdAt expiresAt : Int}
    (explained : Explained blocks events till desk)
    (ordered : ∀ log, .mined log till ∈ events → blocks.time log < createdAt) :
    Explained blocks (events ++ [.opened id till createdAt expiresAt]) till
      (desk.settle blocks (.opened id till createdAt expiresAt)) where
  terms := by
    intro bill member
    rcases List.mem_append.mp member with old | new
    · exact List.mem_append_left _ (explained.terms bill old)
    · obtain rfl := List.mem_singleton.mp new
      exact List.mem_append_right _ (List.mem_singleton_self _)
  paid := by
    intro pair member
    obtain ⟨mined, bill, old, paid⟩ := explained.paid pair member
    exact ⟨List.mem_append_left _ mined, bill, List.mem_append_left _ old, paid⟩
  closed := by
    intro bill member shut
    rcases List.mem_append.mp member with old | new
    · rcases explained.closed bill old shut with ⟨now, canceled⟩ | paired
      · exact .inl ⟨now, List.mem_append_left _ canceled⟩
      · exact .inr paired
    · obtain rfl := List.mem_singleton.mp new
      cases shut
  served := by
    intro log mined bill member covers
    have earlier : .mined log till ∈ events := by simpa using mined
    rcases List.mem_append.mp member with old | new
    · rcases explained.served log earlier bill old covers with ⟨now, past, canceled⟩ | paired
      · exact .inl ⟨now, past, List.mem_append_left _ canceled⟩
      · exact .inr paired
    · obtain rfl := List.mem_singleton.mp new
      exact absurd covers.1 (Int.not_le.mpr (ordered log earlier))

theorem explained_canceled {desk : Desk} {id : String} {now : Int}
    (explained : Explained blocks events till desk) :
    Explained blocks (events ++ [.canceled id till now]) till
      (desk.settle blocks (.canceled id till now)) where
  terms := by
    intro bill member
    obtain ⟨old, oldMember, same, -⟩ := old_of_amend sameTerms_withdraw member
    rw [same.opens]
    exact List.mem_append_left _ (explained.terms old oldMember)
  paid := by
    intro pair member
    obtain ⟨mined, bill, oldMember, id, covers⟩ := explained.paid pair member
    obtain ⟨new, newMember, same⟩ := new_of_amend sameTerms_withdraw oldMember
    exact ⟨List.mem_append_left _ mined, new, newMember, same.id.trans id, same.covers.mpr covers⟩
  closed := by
    intro bill member shut
    obtain ⟨old, oldMember, same, kept⟩ := old_of_amend sameTerms_withdraw member
    rcases kept with rfl | own
    · rcases explained.closed bill oldMember shut with ⟨now, canceled⟩ | paired
      · exact .inl ⟨now, List.mem_append_left _ canceled⟩
      · exact .inr paired
    · rw [own]
      exact .inl ⟨now, List.mem_append_right _ (List.mem_singleton_self _)⟩
  served := by
    intro log mined bill member covers
    have earlier : .mined log till ∈ events := by simpa using mined
    obtain ⟨old, oldMember, same, -⟩ := old_of_amend sameTerms_withdraw member
    rw [same.id]
    rcases explained.served log earlier old oldMember (same.covers.mp covers) with
      ⟨now, past, canceled⟩ | paired
    · exact .inl ⟨now, past, List.mem_append_left _ canceled⟩
    · exact .inr paired

/-- A transfer that finds no open bill leaves only closed bills behind it. -/
theorem explained_unclaimed {desk : Desk} {log : LogKey}
    (explained : Explained blocks events till desk)
    (unclaimed : payee (blocks.time log) desk.bills = none)
    (ordered : ∀ id now, .canceled id till now ∈ events → now ≤ blocks.time log) :
    Explained blocks (events ++ [.mined log till]) till desk where
  terms := fun bill member => List.mem_append_left _ (explained.terms bill member)
  paid := by
    intro pair member
    obtain ⟨mined, bill⟩ := explained.paid pair member
    exact ⟨List.mem_append_left _ mined, bill⟩
  closed := by
    intro bill member shut
    rcases explained.closed bill member shut with ⟨now, canceled⟩ | paired
    · exact .inl ⟨now, List.mem_append_left _ canceled⟩
    · exact .inr paired
  served := by
    intro other mined bill member covers
    have settled : (∃ now ≤ blocks.time other, .canceled bill.id till now ∈ events) ∨
        (∃ other, (other, bill.id) ∈ desk.pairs) ∨ ∃ id, (other, id) ∈ desk.pairs := by
      rcases List.mem_append.mp mined with earlier | last
      · exact explained.served other earlier bill member covers
      · obtain ⟨rfl, -⟩ := Event.mined.inj (List.mem_singleton.mp last)
        cases isOpen : bill.isOpen with
        | true =>
            obtain ⟨taker, found⟩ := payee_of_open member isOpen covers
            rw [unclaimed] at found
            cases found
        | false =>
            rcases explained.closed bill member isOpen with ⟨now, canceled⟩ | paired
            · exact .inl ⟨now, ordered _ _ canceled, canceled⟩
            · exact .inr (.inl paired)
    rcases settled with ⟨now, past, canceled⟩ | paired
    · exact .inl ⟨now, past, List.mem_append_left _ canceled⟩
    · exact .inr paired

theorem explained_claimed {desk : Desk} {log : LogKey} {bill : Bill}
    (explained : Explained blocks events till desk)
    (claimed : payee (blocks.time log) desk.bills = some bill) :
    Explained blocks (events ++ [.mined log till]) till
      ⟨amend bill.id (Bill.receive till.amount) desk.bills, desk.pairs ++ [(log, bill.id)]⟩ where
  terms := by
    intro bill member
    obtain ⟨old, oldMember, same, -⟩ := old_of_amend (sameTerms_receive till.amount) member
    rw [same.opens]
    exact List.mem_append_left _ (explained.terms old oldMember)
  paid := by
    intro pair member
    rcases List.mem_append.mp member with earlier | last
    · obtain ⟨mined, old, oldMember, id, covers⟩ := explained.paid pair earlier
      obtain ⟨new, newMember, same⟩ := new_of_amend (sameTerms_receive till.amount) oldMember
      exact ⟨List.mem_append_left _ mined, new, newMember, same.id.trans id,
        same.covers.mpr covers⟩
    · obtain rfl := List.mem_singleton.mp last
      obtain ⟨oldMember, -, covers⟩ := payee_spec claimed
      obtain ⟨new, newMember, same⟩ := new_of_amend (sameTerms_receive till.amount) oldMember
      exact ⟨List.mem_append_right _ (List.mem_singleton_self _), new, newMember, same.id,
        same.covers.mpr covers⟩
  closed := by
    intro other member shut
    obtain ⟨old, oldMember, same, kept⟩ := old_of_amend (sameTerms_receive till.amount) member
    rcases kept with rfl | own
    · rcases explained.closed other oldMember shut with ⟨now, canceled⟩ | ⟨payment, paired⟩
      · exact .inl ⟨now, List.mem_append_left _ canceled⟩
      · exact .inr ⟨payment, List.mem_append_left _ paired⟩
    · rw [own]
      exact .inr ⟨log, List.mem_append_right _ (List.mem_singleton_self _)⟩
  served := by
    intro other mined new member covers
    rcases List.mem_append.mp mined with earlier | last
    · obtain ⟨old, oldMember, same, -⟩ := old_of_amend (sameTerms_receive till.amount) member
      rw [same.id]
      rcases explained.served other earlier old oldMember (same.covers.mp covers) with
        ⟨now, past, canceled⟩ | ⟨payment, paired⟩ | ⟨id, paired⟩
      · exact .inl ⟨now, past, List.mem_append_left _ canceled⟩
      · exact .inr (.inl ⟨payment, List.mem_append_left _ paired⟩)
      · exact .inr (.inr ⟨id, List.mem_append_left _ paired⟩)
    · obtain ⟨rfl, -⟩ := Event.mined.inj (List.mem_singleton.mp last)
      exact .inr (.inr ⟨bill.id, List.mem_append_right _ (List.mem_singleton_self _)⟩)

theorem explained_settle (ordered : InChainOrder blocks events) :
    Explained blocks events till (settle blocks events till) := by
  induction events using List.reverseRecOn with
  | nil => exact explained_vacant
  | append_singleton events event ih =>
      obtain ⟨earlier, -, last⟩ := List.pairwise_append.mp ordered
      have explained := ih earlier
      by_cases own : event.till = till
      · subst own
        rw [settle_own]
        cases event with
        | opened id till createdAt expiresAt =>
            apply explained_opened explained
            intro log mined
            exact uncovered_of_place (last _ mined _ (List.mem_singleton_self _) rfl)
        | canceled id till now => exact explained_canceled explained
        | mined log till =>
            cases claimed : payee (blocks.time log)
                (settle blocks events (Event.mined log till).till).bills with
            | none =>
                rw [Desk.settle_unclaimed claimed]
                apply explained_unclaimed explained claimed
                intro id now canceled
                exact past_of_place (last _ canceled _ (List.mem_singleton_self _) rfl)
            | some bill =>
                rw [Desk.settle_claimed claimed]
                exact explained_claimed explained claimed
      · rw [settle_apart own]
        exact explained_apart explained own

end History

section Alike

variable {blocks : Blocks} {first second : List Event}

def atPlace (blocks : Blocks) (till : Till) (wanted : Place) (events : List Event) : List Event :=
  (events.filter fun event => event.till = till).filter fun event => event.place blocks = wanted

theorem mem_atPlace {till : Till} {wanted : Place} {events : List Event} {event : Event} :
    event ∈ atPlace blocks till wanted events ↔
      event ∈ events ∧ event.till = till ∧ event.place blocks = wanted := by
  simp [atPlace, and_comm]

/-- A kind of event may be singled out first when nothing else is at the place. -/
theorem atPlace_filter {till : Till} {wanted : Place} {keep : Event → Bool}
    (kept : ∀ event : Event, event.place blocks = wanted → keep event = true)
    (events : List Event) :
    atPlace blocks till wanted (events.filter keep) = atPlace blocks till wanted events := by
  unfold atPlace
  rw [List.filter_filter, List.filter_filter, List.filter_filter]
  apply List.filter_congr
  intro event _
  by_cases here : event.place blocks = wanted
  · simp [here, kept event here]
  · simp [here]

theorem mined_once {till : Till} {wanted : Place} {event other : Event}
    (placed : ∀ log till, .mined log till ∈ first → log.1 = till.networkId)
    (listed : event ∈ atPlace blocks till wanted (first.filter Event.isMined))
    (otherListed : other ∈ atPlace blocks till wanted (first.filter Event.isMined)) :
    event = other := by
  obtain ⟨member, own, here⟩ := mem_atPlace.mp listed
  obtain ⟨otherMember, otherOwn, otherHere⟩ := mem_atPlace.mp otherListed
  obtain ⟨member, mined⟩ := List.mem_filter.mp member
  obtain ⟨otherMember, otherMined⟩ := List.mem_filter.mp otherMember
  cases event with
  | opened id till createdAt expiresAt => cases mined
  | canceled id till now => cases mined
  | mined log home =>
      cases other with
      | opened id till createdAt expiresAt => cases otherMined
      | canceled id till now => cases otherMined
      | mined otherLog otherHome =>
          obtain rfl : home = till := own
          obtain rfl : otherHome = home := otherOwn
          have network := (placed _ _ member).trans (placed _ _ otherMember).symm
          have level := here.trans otherHere.symm
          simp only [Event.place, EmbeddingLike.apply_eq_iff_eq, Prod.mk.injEq, true_and] at level
          rw [blocks.distinct log otherLog network level.1 level.2]

theorem atPlace_alike {till : Till} {wanted : Place}
    (requests : (first.filter fun event => !event.isMined) =
      second.filter fun event => !event.isMined)
    (mined : (first.filter Event.isMined).Perm (second.filter Event.isMined))
    (placed : ∀ log till, .mined log till ∈ first → log.1 = till.networkId) :
    atPlace blocks till wanted first = atPlace blocks till wanted second := by
  by_cases request : (ofLex (ofLex wanted).2).1 = 0
  · have kept : ∀ event : Event, event.place blocks = wanted → (!event.isMined) = true := by
      rintro (_ | _ | _) rfl
      · rfl
      · rfl
      · cases request
    rw [← atPlace_filter kept first, ← atPlace_filter kept second, requests]
  · have kept : ∀ event : Event, event.place blocks = wanted → event.isMined = true := by
      rintro (_ | _ | _) rfl
      · exact absurd rfl request
      · exact absurd rfl request
      · rfl
    rw [← atPlace_filter kept first, ← atPlace_filter kept second]
    apply Keyed.eq_of_perm_of_same ((mined.filter _).filter _)
    intro event listed other otherListed
    exact mined_once placed listed otherListed

/-- Two histories with the same requests and blocks settle alike when each till hears of
its events in the order in which they happened. -/
theorem settled_alike (ordered : InChainOrder blocks first) (orderedToo : InChainOrder blocks second)
    (requests : (first.filter fun event => !event.isMined) =
      second.filter fun event => !event.isMined)
    (mined : (first.filter Event.isMined).Perm (second.filter Event.isMined))
    (placed : ∀ log till, .mined log till ∈ first → log.1 = till.networkId) (till : Till) :
    settle blocks first till = settle blocks second till := by
  have sorted : ∀ {events : List Event}, InChainOrder blocks events →
      (events.filter fun event => event.till = till).Pairwise fun earlier later =>
        earlier.place blocks ≤ later.place blocks := by
    intro events ordered
    rw [List.pairwise_filter]
    refine ordered.imp ?_
    intro earlier later inOrder own ownLater
    simp only [decide_eq_true_eq] at own ownLater
    exact inOrder (own.trans ownLater.symm)
  have same := Keyed.eq_of_places (sorted ordered) (sorted orderedToo)
    fun wanted => atPlace_alike requests mined placed
  unfold settle
  rw [Keyed.foldl_tell, Keyed.foldl_tell, same]

end Alike

end ApiBank.Crypto.Settlement
