import ApiBank.Db.Models
import ApiBank.Relational.Keyset
import Mathlib.Data.List.Sort
import Mathlib.Data.String.Basic

/-!
# Reading the wallet history

`list_transactions` sorts the rows of a user by time and identifier, the newest first, and
continues after a row by comparing identifiers alone. Identifiers are random, so the rows
behind a page end need not have the smaller identifiers.
-/

namespace ApiBank.Billing.WalletHistory

open ApiBank.Db ApiBank.Relational

set_option autoImplicit false

/-- The order in which the database compares texts, as the order of their sort keys. -/
structure Collation (Key : Type) where
  sortKey : String → Key
  injective : Function.Injective sortKey

/-- The order of the code points. -/
def binary : Collation String where
  sortKey := id
  injective := Function.injective_id

variable {Key : Type} [LinearOrder Key] (collation : Collation Key)

/-- `ORDER BY created_at DESC, id DESC`. -/
def Precedes (row other : WalletTransaction) : Prop :=
  other.createdAt.instant < row.createdAt.instant ∨
    other.createdAt.instant = row.createdAt.instant ∧
      collation.sortKey other.id ≤ collation.sortKey row.id

instance : DecidableRel (Precedes collation) :=
  fun _ _ => inferInstanceAs (Decidable (_ ∨ _ ∧ _))

instance : Std.Total (Precedes collation) where
  total row other := by
    rcases lt_trichotomy row.createdAt.instant other.createdAt.instant with older | same | newer
    · exact .inr (.inl older)
    · rcases le_total (collation.sortKey other.id) (collation.sortKey row.id) with le | ge
      · exact .inl (.inr ⟨same.symm, le⟩)
      · exact .inr (.inr ⟨same, ge⟩)
    · exact .inl (.inl newer)

instance : IsTrans WalletTransaction (Precedes collation) where
  trans first second third ahead later := by
    rcases ahead with newer | ⟨same, le⟩
    · rcases later with newerStill | ⟨sameStill, -⟩
      · exact .inl (newerStill.trans newer)
      · exact .inl (sameStill ▸ newer)
    · rcases later with newerStill | ⟨sameStill, leStill⟩
      · exact .inl (same ▸ newerStill)
      · exact .inr ⟨sameStill.trans same, leStill.trans le⟩

def listTransactions (table : Table WalletTransaction.id) (userId : String) (limit : Nat)
    (beforeId : Option String) : List WalletTransaction :=
  let own := table.rows.filter fun row => row.userId = userId
  let stmt :=
    match beforeId with
    | none => own
    | some before =>
        if before = "" then own
        else own.filter fun row => collation.sortKey row.id < collation.sortKey before
  (stmt.insertionSort (Precedes collation)).take limit

/-- The calls up to the first that returns nothing, each with the last identifier that the
one before returned. -/
def readHistory (table : Table WalletTransaction.id) (userId : String) (limit : Nat) :
    Nat → Option String → Option (List WalletTransaction)
  | 0, _ => none
  | fuel + 1, beforeId =>
      let rows := listTransactions collation table userId limit beforeId
      match rows.getLast? with
      | none => some []
      | some last => (readHistory table userId limit fuel (some last.id)).map (rows ++ ·)

/-- The whole history, the newest row first. -/
def history (table : Table WalletTransaction.id) (userId : String) : List WalletTransaction :=
  (table.rows.filter fun row => row.userId = userId).insertionSort (Precedes collation)

/-- The row comes behind the cursor. -/
def Beyond (last row : WalletTransaction) : Prop :=
  collation.sortKey row.id < collation.sortKey last.id

instance : DecidableRel (Beyond collation) := fun _ _ => inferInstanceAs (Decidable (_ < _))

instance : IsTrans WalletTransaction (Beyond collation) where
  trans _ _ _ later laterStill := laterStill.trans later

instance : Std.Irrefl (Beyond collation) where
  irrefl _ := lt_irrefl _

section Pages

variable {collation} {table : Table WalletTransaction.id} {userId : String}

theorem mem_history {row : WalletTransaction} :
    row ∈ history collation table userId ↔ row ∈ table.rows ∧ row.userId = userId := by
  simp [history, List.mem_insertionSort]

theorem history_perm : (history collation table userId).Perm
    (table.rows.filter fun row => row.userId = userId) :=
  List.perm_insertionSort _ _

theorem history_sorted : (history collation table userId).Pairwise (Precedes collation) :=
  List.pairwise_insertionSort _ _

theorem history_nodup : (history collation table userId).Nodup :=
  history_perm.nodup_iff.mpr ((List.Nodup.of_map _ table.distinct).filter _)

theorem sort_filter (condition : WalletTransaction → Bool) :
    ((table.rows.filter fun row => row.userId = userId).filter condition).insertionSort
      (Precedes collation) = (history collation table userId).filter condition := by
  refine List.Perm.eq_of_pairwise ?_ (List.pairwise_insertionSort (Precedes collation) _)
    (history_sorted.filter _)
    ((List.perm_insertionSort _ _).trans ((history_perm.filter condition).symm))
  · intro row other member otherMember ahead behind
    rw [List.mem_insertionSort, List.mem_filter] at member
    have stored := (List.mem_filter.mp member.1).1
    have otherStored := (mem_history.mp (List.mem_filter.mp otherMember).1).1
    apply table.eq_of_key_eq stored otherStored
    apply collation.injective
    rcases ahead with newer | ⟨same, le⟩
    · rcases behind with older | ⟨same, -⟩ <;> omega
    · rcases behind with older | ⟨-, ge⟩
      · omega
      · exact le_antisymm ge le

/-- A call returns the page behind the row that it names. -/
theorem listTransactions_eq_page (limit : Nat) {cursor : Option WalletTransaction}
    (token : ∀ last ∈ cursor, last.id ≠ "") :
    listTransactions collation table userId limit (cursor.map WalletTransaction.id) =
      Keyset.page (Beyond collation) (history collation table userId) limit cursor := by
  cases cursor with
  | none => rfl
  | some last =>
      simp only [listTransactions, Option.map_some, if_neg (token last rfl), sort_filter]
      rfl

theorem readHistory_eq_walk (tokens : ∀ row ∈ table.rows, row.id ≠ "") (limit fuel : Nat)
    {cursor : Option WalletTransaction} (token : ∀ last ∈ cursor, last.id ≠ "") :
    readHistory collation table userId limit fuel (cursor.map WalletTransaction.id) =
      Keyset.walk (Beyond collation) (history collation table userId) limit fuel cursor := by
  induction fuel generalizing cursor with
  | zero => rfl
  | succ fuel ih =>
      rw [readHistory, Keyset.walk]
      simp only [listTransactions_eq_page limit token]
      cases ends : (Keyset.page (Beyond collation) (history collation table userId) limit
          cursor).getLast? with
      | none => rfl
      | some last =>
          have shown := Keyset.mem_eligible_of_mem_page (List.mem_of_getLast? ends)
          have stored : last ∈ history collation table userId := by
            cases cursor with
            | none => exact shown
            | some before => exact (Keyset.mem_eligible_some.mp shown).1
          have named : last.id ≠ "" := tokens last (mem_history.mp stored).1
          have token : ∀ row ∈ some last, row.id ≠ "" := by simpa using named
          have later := ih token
          rw [Option.map_some] at later
          simp only [later]

/-- At the end of so many pages the last row has the least identifier of the rows shown,
and every row that is not shown a smaller one. -/
def IdsCut (collation : Collation Key) (listing : List WalletTransaction) (limit pages : Nat) :
    Prop :=
  ∀ last, (listing.take (pages * limit)).getLast? = some last →
    (∀ row ∈ listing.take (pages * limit),
      collation.sortKey last.id ≤ collation.sortKey row.id) ∧
    ∀ row ∈ listing.drop (pages * limit), collation.sortKey row.id < collation.sortKey last.id

theorem idsCut_iff {listing : List WalletTransaction} {limit pages : Nat} :
    IdsCut collation listing limit pages ↔
      Keyset.SeparatedAt (Beyond collation) listing limit pages := by
  have split := List.take_append_drop (pages * limit) listing
  apply forall_congr'
  intro last
  apply imp_congr_right
  intro ends
  have parts := @Keyset.filter_append_eq_right_iff _
    (fun row => decide (Beyond collation last row)) (listing.take (pages * limit))
    (listing.drop (pages * limit))
  rw [split] at parts
  rw [Keyset.eligible, parts]
  simp only [decide_eq_false_iff_not, decide_eq_true_eq]
  simp only [Beyond, not_lt]

theorem history_eq_nil_iff : history collation table userId = [] ↔
    (table.rows.filter fun row => row.userId = userId) = [] := by
  rw [← List.length_eq_zero_iff, ← List.length_eq_zero_iff, history_perm.length_eq]

theorem createdAt_sorted : (history collation table userId).Pairwise
    fun row other => other.createdAt.instant ≤ row.createdAt.instant := by
  apply history_sorted.imp
  intro row other ahead
  rcases ahead with newer | ⟨same, -⟩
  · exact newer.le
  · exact same.le

/-- The calls come to an end. They return every row of the user once, the newest first,
exactly when there is none, or the page is not empty and the identifiers cut at each page
end just where the listing is cut. -/
theorem wallet_history_complete_iff (collation : Collation Key)
    {table : Table WalletTransaction.id} (tokens : ∀ row ∈ table.rows, row.id ≠ "")
    (userId : String) (limit : Nat) :
    ∃ visited, readHistory collation table userId limit (table.rows.length + 1) none =
        some visited ∧
      ((visited.Perm (table.rows.filter fun row => row.userId = userId) ∧
          visited.Pairwise fun row other => other.createdAt.instant ≤ row.createdAt.instant) ↔
        history collation table userId = [] ∨
          0 < limit ∧ ∀ pages, IdsCut collation (history collation table userId) limit pages) := by
  have short : (Keyset.eligible (Beyond collation) (history collation table userId) none).length <
      table.rows.length + 1 := by
    rw [Keyset.eligible, history_perm.length_eq]
    exact Nat.lt_succ_of_le (List.length_filter_le _ _)
  obtain ⟨visited, walked⟩ :
      ∃ visited, Keyset.walk (Beyond collation) (history collation table userId) limit
        (table.rows.length + 1) none = some visited := Keyset.walk_ends short
  have noCursor : ∀ last ∈ (none : Option WalletTransaction), last.id ≠ "" := by simp
  refine ⟨visited, (readHistory_eq_walk tokens limit _ noCursor).trans walked, ?_⟩
  rcases Nat.eq_zero_or_pos limit with rfl | positive
  · have nothing : visited = [] := by
      rcases Keyset.walk_cases walked with ⟨-, empty⟩ | ⟨last, later, ends, -, -⟩
      · exact empty
      · simp [Keyset.page] at ends
    rw [nothing, List.nil_perm, history_eq_nil_iff]
    simp
  · have complete := Keyset.walk_complete_iff positive (Keyset.apart_of_nodup history_nodup) walked
    simp only [idsCut_iff]
    constructor
    · intro shown
      exact .inr ⟨positive, complete.1.mp (shown.1.trans history_perm.symm)⟩
    · intro cut
      have whole : visited = history collation table userId := by
        rcases cut with empty | ⟨-, separated⟩
        · have none : visited ⊆ [] := by
            intro row member
            have left := Keyset.eligible_of_visited walked member
            rwa [Keyset.eligible, empty] at left
          rw [empty]
          exact List.subset_nil.mp none
        · exact complete.2 separated
      rw [whole]
      exact ⟨history_perm, createdAt_sorted⟩

end Pages

def walletRow (id : String) (now : Int) : WalletTransaction where
  id := id
  userId := "u1"
  type := .topup
  amountVnd := 70000
  balanceAfter := 70000
  refKind := none
  refId := none
  idempotencyKey := id
  note := none
  createdBy := none
  createdAt := .utc now

def risingIds : Table WalletTransaction.id :=
  ⟨[walletRow "wtx_Bq" 1, walletRow "wtx_Xa" 2], by decide⟩

def fallingIds : Table WalletTransaction.id :=
  ⟨[walletRow "wtx_Xa" 1, walletRow "wtx_Bq" 2], by decide⟩

theorem history_of_risingIds :
    history binary risingIds "u1" = [walletRow "wtx_Xa" 2, walletRow "wtx_Bq" 1] := by
  decide

/-- A page of fifty, of two rows whose identifiers rise with the time. -/
theorem rising_history_is_complete : ∃ visited,
    readHistory binary risingIds "u1" 50 3 none = some visited ∧
      visited.Perm (risingIds.rows.filter fun row => row.userId = "u1") := by
  obtain ⟨visited, shown, complete⟩ :=
    @wallet_history_complete_iff _ _ binary risingIds (by decide) "u1" 50
  refine ⟨visited, shown, (complete.mpr (.inr ⟨by decide, ?_⟩)).1⟩
  intro pages last ends
  rw [history_of_risingIds] at ends ⊢
  cases pages with
  | zero => simp at ends
  | succ pages =>
      have all : [walletRow "wtx_Xa" 2, walletRow "wtx_Bq" 1].length ≤ (pages + 1) * 50 := by
        simp only [List.length_cons, List.length_nil]
        omega
      rw [List.take_of_length_le all] at ends ⊢
      rw [List.drop_of_length_le all]
      obtain rfl : walletRow "wtx_Bq" 1 = last := by simpa using ends
      decide

/-- A page of one row: the older row has the greater identifier and is never returned. -/
theorem older_row_is_skipped :
    readHistory binary fallingIds "u1" 1 3 none = some [walletRow "wtx_Bq" 2] ∧
      ¬[walletRow "wtx_Bq" 2].Perm (fallingIds.rows.filter fun row => row.userId = "u1") := by
  constructor
  · decide
  · intro complete
    have lengths := complete.length_eq
    simp [fallingIds, walletRow] at lengths

end ApiBank.Billing.WalletHistory
