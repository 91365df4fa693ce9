import ApiBank.Db.Models
import ApiBank.Relational.Keyset
import Mathlib.Data.List.Sort

/-!
# Reading the audit log

The admin listing sorts the rows by their time alone, in an order among equal times that
the database chooses, and continues behind a row at the times strictly before it. A row of
the same time that did not fit on the page is behind the cursor and is never shown.
-/

namespace ApiBank.Api.AuditListing

open ApiBank.Db ApiBank.Relational

set_option autoImplicit false

structure AuditLog where
  id : String
  actor : String
  action : String
  targetType : String
  targetId : String
  ip : Option String
  createdAt : DateTime
deriving DecidableEq, Repr

/-- `LIKE` and `ILIKE` of a text and a pattern. -/
structure Dialect where
  like : String → String → Bool
  ilike : String → String → Bool

/-- The filters of the route. -/
structure AuditQuery where
  action : Option String
  actor : Option String
  targetType : Option String
  targetId : Option String
  ip : Option String
  q : Option String
  dateFrom : Option DateTime
  dateTo : Option DateTime
deriving DecidableEq, Repr

/-- What the route accepts as `limit`. -/
structure PageSize where
  rows : Nat
  least : 1 ≤ rows
  most : rows ≤ 200

/-- How the database carries out `ORDER BY created_at DESC`. -/
structure Arrangement where
  order : List AuditLog → List AuditLog
  perm : ∀ rows, (order rows).Perm rows
  sorted : ∀ rows, (order rows).Pairwise fun row other =>
    other.createdAt.instant ≤ row.createdAt.instant

/-- An empty text counts as absent. -/
def given (value : Option String) : Option String := value.filter fun text => text ≠ ""

def selects (dialect : Dialect) (query : AuditQuery) (row : AuditLog) : Bool :=
  ((given query.action).all fun action => dialect.like row.action (action ++ "%")) &&
    ((given query.actor).all fun actor => row.actor = actor) &&
    ((given query.targetType).all fun targetType => row.targetType = targetType) &&
    ((given query.targetId).all fun targetId => row.targetId = targetId) &&
    ((given query.ip).all fun ip => row.ip = some ip) &&
    ((given query.q).all fun q => dialect.ilike row.action ("%" ++ q ++ "%")) &&
    (query.dateFrom.all fun dateFrom => dateFrom.instant ≤ row.createdAt.instant) &&
    (query.dateTo.all fun dateTo => row.createdAt.instant ≤ dateTo.instant)

structure AdminAuditResponse where
  items : List AuditLog
  total : Nat
  limit : Nat
  offset : Nat
deriving DecidableEq, Repr

def adminAudit (dialect : Dialect) (arrangement : Arrangement) (table : Table AuditLog.id)
    (query : AuditQuery) (size : PageSize) (offset : Nat) (cursor : Option String) :
    AdminAuditResponse :=
  let stmt := table.rows.filter (selects dialect query)
  let (paged, offset) :=
    match given cursor with
    | none => (stmt, offset)
    | some id =>
        match table.find? id with
        | none => (stmt, 0)
        | some anchor =>
            (stmt.filter fun row => row.createdAt.instant < anchor.createdAt.instant, 0)
  { items := ((arrangement.order paged).drop offset).take size.rows
    total := stmt.length
    limit := size.rows
    offset }

/-- The table when a page is requested, and the order that its query yields. -/
structure Moment where
  table : Table AuditLog.id
  arrangement : Arrangement

section Walk

variable (dialect : Dialect) (query : AuditQuery) (size : PageSize)

/-- The items of one request after another, each with the identifier of the last item before
as its cursor, up to an empty page; none when the requests end earlier. -/
def readAudit : List Moment → Option String → Option (List AuditLog)
  | [], _ => none
  | moment :: later, cursor =>
      let items := (adminAudit dialect moment.arrangement moment.table query size 0 cursor).items
      match items.getLast? with
      | none => some []
      | some last => (readAudit later (some last.id)).map (items ++ ·)

def Below (anchor : Option AuditLog) (row : AuditLog) : Prop :=
  ∀ last ∈ anchor, row.createdAt.instant < last.createdAt.instant

instance (anchor : Option AuditLog) : DecidablePred (Below anchor) :=
  fun row => decidable_of_iff (anchor.all fun last =>
    row.createdAt.instant < last.createdAt.instant) (by cases anchor <;> simp [Below])

/-- The rows from which a page is taken. -/
def listing (moment : Moment) (anchor : Option AuditLog) : List AuditLog :=
  moment.arrangement.order ((moment.table.rows.filter (selects dialect query)).filter
    fun row => Below anchor row)

def LeavesNone (start : List AuditLog) : List Moment → Option AuditLog → Prop
  | [], _ => True
  | moment :: later, anchor =>
      ∀ last, ((listing dialect query moment anchor).take size.rows).getLast? = some last →
        (∀ row ∈ (listing dialect query moment anchor).drop size.rows, row ∈ start →
          row.createdAt.instant ≠ last.createdAt.instant) ∧ LeavesNone start later (some last)

end Walk

/-- The log only grows while it is read, from the rows of the start on. Identifiers are
tokens. -/
structure Grows (start : List AuditLog) (moments : List Moment) : Prop where
  kept : ∀ moment ∈ moments, start ⊆ moment.table.rows
  chain : moments.Pairwise fun earlier later => earlier.table.rows ⊆ later.table.rows
  tokens : ∀ moment ∈ moments, ∀ row ∈ moment.table.rows, row.id ≠ ""

theorem Grows.tail {start : List AuditLog} {moment : Moment} {later : List Moment}
    (grows : Grows start (moment :: later)) : Grows start later where
  kept := fun other member => grows.kept other (List.mem_cons_of_mem moment member)
  chain := (List.pairwise_cons.mp grows.chain).2
  tokens := fun other member => grows.tokens other (List.mem_cons_of_mem moment member)

def Anchored (moments : List Moment) (anchor : Option AuditLog) : Prop :=
  ∀ last ∈ anchor, last.id ≠ "" ∧ ∀ moment ∈ moments, last ∈ moment.table.rows

section Pages

variable {dialect : Dialect} {query : AuditQuery} {size : PageSize}

theorem mem_listing {moment : Moment} {anchor : Option AuditLog} {row : AuditLog} :
    row ∈ listing dialect query moment anchor ↔
      row ∈ moment.table.rows ∧ selects dialect query row = true ∧ Below anchor row := by
  rw [listing, (moment.arrangement.perm _).mem_iff, List.mem_filter, List.mem_filter,
    decide_eq_true_eq, and_assoc]

theorem listing_sorted (moment : Moment) (anchor : Option AuditLog) :
    (listing dialect query moment anchor).Pairwise fun row other =>
      other.createdAt.instant ≤ row.createdAt.instant :=
  moment.arrangement.sorted _

theorem listing_nodup (moment : Moment) (anchor : Option AuditLog) :
    (listing dialect query moment anchor).Nodup := by
  have distinct : moment.table.rows.Nodup := List.Nodup.of_map _ moment.table.distinct
  exact (moment.arrangement.perm _).nodup_iff.mpr ((distinct.filter _).filter _)

/-- A request shows the first rows behind its anchor. -/
theorem items_eq {moment : Moment} {later : List Moment} {anchor : Option AuditLog}
    (anchored : Anchored (moment :: later) anchor) :
    (adminAudit dialect moment.arrangement moment.table query size 0
      (anchor.map AuditLog.id)).items = (listing dialect query moment anchor).take size.rows := by
  cases anchor with
  | none => simp [adminAudit, given, listing, Below]
  | some last =>
      obtain ⟨token, stored⟩ := anchored last rfl
      have found : moment.table.find? last.id = some last :=
        Table.find?_of_mem (stored moment List.mem_cons_self)
      have cursor : given (some last.id) = some last.id := by simp [given, token]
      simp only [adminAudit, Option.map_some, cursor, found, List.drop_zero, listing, Below,
        Option.mem_some_iff, forall_eq']

/-- A sequence of requests that has come to its end: at an empty page, or after one more. -/
theorem readAudit_cases {moment : Moment} {later : List Moment} {anchor : Option AuditLog}
    (anchored : Anchored (moment :: later) anchor) {shown : List AuditLog}
    (read : readAudit dialect query size (moment :: later) (anchor.map AuditLog.id) =
      some shown) :
    (listing dialect query moment anchor = [] ∧ shown = []) ∨
      ∃ last rest, ((listing dialect query moment anchor).take size.rows).getLast? = some last ∧
        readAudit dialect query size later ((some last).map AuditLog.id) = some rest ∧
          shown = (listing dialect query moment anchor).take size.rows ++ rest := by
  simp only [readAudit, items_eq anchored] at read
  cases ends : ((listing dialect query moment anchor).take size.rows).getLast? with
  | none =>
      rw [ends] at read
      have empty := List.getLast?_eq_none_iff.mp ends
      have positive := size.least
      rw [List.take_eq_nil_iff] at empty
      exact .inl ⟨empty.resolve_left (by omega), (Option.some.inj read).symm⟩
  | some last =>
      rw [ends] at read
      obtain ⟨rest, continued, whole⟩ := Option.map_eq_some_iff.mp read
      exact .inr ⟨last, rest, rfl, continued, whole.symm⟩

theorem mem_listing_of_last {moment : Moment} {anchor : Option AuditLog} {last : AuditLog}
    (ends : ((listing dialect query moment anchor).take size.rows).getLast? = some last) :
    last ∈ listing dialect query moment anchor :=
  List.mem_of_mem_take (List.mem_of_getLast? ends)

/-- The last row of a page stays in the log, so the next request finds its anchor. -/
theorem anchored_last {start : List AuditLog} {moment : Moment} {later : List Moment}
    {anchor : Option AuditLog} {last : AuditLog} (grows : Grows start (moment :: later))
    (ends : ((listing dialect query moment anchor).take size.rows).getLast? = some last) :
    Anchored later (some last) := by
  have stored := (mem_listing.mp (mem_listing_of_last ends)).1
  intro row found
  obtain rfl := Option.some.inj found
  refine ⟨grows.tokens moment List.mem_cons_self last stored, ?_⟩
  intro other member
  exact (List.pairwise_cons.mp grows.chain).1 other member stored

theorem below_of_below {moment : Moment} {anchor : Option AuditLog} {last row : AuditLog}
    (ends : ((listing dialect query moment anchor).take size.rows).getLast? = some last)
    (below : Below (some last) row) : Below anchor row := by
  have own := (mem_listing.mp (mem_listing_of_last ends)).2.2
  intro before found
  exact (below last rfl).trans (own before found)

theorem page_bounds {moment : Moment} {anchor : Option AuditLog} {last : AuditLog}
    (ends : ((listing dialect query moment anchor).take size.rows).getLast? = some last) :
    (∀ row ∈ (listing dialect query moment anchor).take size.rows,
      last.createdAt.instant ≤ row.createdAt.instant) ∧
    ∀ row ∈ (listing dialect query moment anchor).drop size.rows,
      row.createdAt.instant ≤ last.createdAt.instant := by
  have sorted := @listing_sorted dialect query moment anchor
  rw [← List.take_append_drop size.rows (listing dialect query moment anchor)] at sorted
  obtain ⟨front, -, across⟩ := List.pairwise_append.mp sorted
  constructor
  · intro row member
    obtain ⟨before, parts⟩ := List.getLast?_eq_some_iff.mp ends
    rw [parts] at front member
    rcases List.mem_append.mp member with earlier | own
    · exact (List.pairwise_append.mp front).2.2 row earlier last (by simp)
    · rw [List.mem_singleton.mp own]
  · intro row member
    exact across last (List.mem_of_getLast? ends) row member

/-- What is shown matches, lies behind the anchor and stands in the log. -/
theorem of_shown {start : List AuditLog} {moments : List Moment}
    {anchor : Option AuditLog} (grows : Grows start moments) (anchored : Anchored moments anchor)
    {shown : List AuditLog}
    (read : readAudit dialect query size moments (anchor.map AuditLog.id) = some shown) :
    ∀ row ∈ shown, Below anchor row ∧ selects dialect query row = true ∧
      ∃ moment ∈ moments, row ∈ moment.table.rows := by
  induction moments generalizing anchor shown with
  | nil => cases read
  | cons moment later ih =>
      rcases readAudit_cases anchored read with ⟨-, rfl⟩ | ⟨last, rest, ends, continued, rfl⟩
      · intro row member
        cases member
      · intro row member
        rcases List.mem_append.mp member with own | behind
        · obtain ⟨stored, selected, below⟩ := mem_listing.mp (List.mem_of_mem_take own)
          exact ⟨below, selected, moment, List.mem_cons_self, stored⟩
        · obtain ⟨below, selected, other, found, stored⟩ :=
            ih grows.tail (anchored_last grows ends) continued row behind
          exact ⟨below_of_below ends below, selected, other,
            List.mem_cons_of_mem moment found, stored⟩

/-- No row is shown twice, and none before a newer one. -/
theorem shown_ordered {start : List AuditLog} {moments : List Moment}
    {anchor : Option AuditLog} (grows : Grows start moments) (anchored : Anchored moments anchor)
    {shown : List AuditLog}
    (read : readAudit dialect query size moments (anchor.map AuditLog.id) = some shown) :
    shown.Nodup ∧ shown.Pairwise fun row other =>
      other.createdAt.instant ≤ row.createdAt.instant := by
  induction moments generalizing anchor shown with
  | nil => cases read
  | cons moment later ih =>
      rcases readAudit_cases anchored read with ⟨-, rfl⟩ | ⟨last, rest, ends, continued, rfl⟩
      · exact ⟨List.nodup_nil, List.Pairwise.nil⟩
      · have following := anchored_last grows ends
        obtain ⟨distinct, sorted⟩ := ih grows.tail following continued
        have apart : ∀ row ∈ (listing dialect query moment anchor).take size.rows,
            ∀ other ∈ rest, other.createdAt.instant < row.createdAt.instant := by
          intro row own other behind
          have below := (of_shown grows.tail following continued other behind).1 last rfl
          exact below.trans_le ((page_bounds ends).1 row own)
        constructor
        · refine List.nodup_append.mpr ⟨(listing_nodup moment anchor).take, distinct, ?_⟩
          intro row own other behind same
          have older := apart row own other behind
          rw [same] at older
          exact lt_irrefl _ older
        · refine List.pairwise_append.mpr ⟨(listing_sorted moment anchor).take, sorted, ?_⟩
          intro row own other behind
          exact (apart row own other behind).le

/-- The rows of the start that match are shown exactly when no page leaves one behind that
has the time of its last row. -/
theorem shown_iff_leavesNone {start : List AuditLog} {moments : List Moment}
    {anchor : Option AuditLog} (grows : Grows start moments) (anchored : Anchored moments anchor)
    {shown : List AuditLog}
    (read : readAudit dialect query size moments (anchor.map AuditLog.id) = some shown) :
    (∀ row ∈ start, selects dialect query row = true → Below anchor row → row ∈ shown) ↔
      LeavesNone dialect query size start moments anchor := by
  induction moments generalizing anchor shown with
  | nil => cases read
  | cons moment later ih =>
      have stored : ∀ row ∈ start, row ∈ moment.table.rows :=
        fun row member => grows.kept moment List.mem_cons_self member
      rcases readAudit_cases anchored read with ⟨empty, rfl⟩ | ⟨last, rest, ends, continued, rfl⟩
      · constructor
        · intro _
          simp [LeavesNone, empty]
        · intro _ row member selected below
          have listed := mem_listing.mpr ⟨stored row member, selected, below⟩
          rw [empty] at listed
          cases listed
      · have following := anchored_last grows ends
        have bounds := page_bounds ends
        have split := List.take_append_drop size.rows (listing dialect query moment anchor)
        have distinct := @listing_nodup dialect query moment anchor
        rw [← split] at distinct
        rw [LeavesNone]
        constructor
        · intro complete other otherEnds
          rw [ends] at otherEnds
          obtain rfl := Option.some.inj otherEnds
          constructor
          · intro row behind member same
            obtain ⟨-, selected, below⟩ := mem_listing.mp (List.mem_of_mem_drop behind)
            rcases List.mem_append.mp (complete row member selected below) with front | later
            · exact (List.nodup_append.mp distinct).2.2 row front row behind rfl
            · have older := (of_shown grows.tail following continued row later).1 last rfl
              omega
          · apply (ih grows.tail following continued).mp
            intro row member selected below
            have shown := complete row member selected (below_of_below ends below)
            rcases List.mem_append.mp shown with front | later
            · have newer := bounds.1 row front
              have older := below last rfl
              omega
            · exact later
        · intro leaves row member selected below
          obtain ⟨none, leavesLater⟩ := leaves last ends
          have listed := mem_listing.mpr ⟨stored row member, selected, below⟩
          rw [← split] at listed
          rcases List.mem_append.mp listed with front | behind
          · exact List.mem_append_left rest front
          · have older := bounds.2 row behind
            have apart := none row behind member
            have belowLast : Below (some last) row := by
              intro own found
              obtain rfl := Option.some.inj found
              omega
            exact List.mem_append_right _
              ((ih grows.tail following continued).mpr leavesLater row member selected belowLast)

/-- The times of the matching rows, the latest first. -/
def times (dialect : Dialect) (query : AuditQuery) (table : Table AuditLog.id) : List Int :=
  ((table.rows.filter (selects dialect query)).map fun row => row.createdAt.instant).insertionSort
    (· ≥ ·)

theorem times_perm {table : Table AuditLog.id} : (times dialect query table).Perm
    ((table.rows.filter (selects dialect query)).map fun row => row.createdAt.instant) :=
  List.perm_insertionSort _ _

theorem times_sorted {table : Table AuditLog.id} :
    (times dialect query table).Pairwise (· ≥ ·) :=
  List.pairwise_insertionSort _ _

theorem times_of_listing (moment : Moment) (anchor : Option AuditLog) :
    (listing dialect query moment anchor).map (fun row => row.createdAt.instant) =
      Keyset.eligible (· > ·) (times dialect query moment.table)
        (anchor.map fun last => last.createdAt.instant) := by
  have arranged := moment.arrangement.perm
    ((moment.table.rows.filter (selects dialect query)).filter fun row => Below anchor row)
  have sorted : ((listing dialect query moment anchor).map
      fun row => row.createdAt.instant).Pairwise (· ≥ ·) := by
    rw [List.pairwise_map]
    exact listing_sorted moment anchor
  cases anchor with
  | none =>
      refine List.Perm.eq_of_pairwise (fun first other _ _ ge le => le_antisymm le ge) sorted
        times_sorted ((arranged.map _).trans ?_)
      simpa [Below, Keyset.eligible] using times_perm.symm
  | some last =>
      refine List.Perm.eq_of_pairwise (fun first other _ _ ge le => le_antisymm le ge) sorted
        (times_sorted.filter _) ((arranged.map _).trans ?_)
      refine List.Perm.trans (.of_eq ?_) (times_perm.symm.filter _)
      rw [List.filter_map]
      simp [Below, Function.comp_def]

theorem times_of_readAudit {table : Table AuditLog.id} {moments : List Moment}
    (still : ∀ moment ∈ moments, moment.table = table) {anchor : Option AuditLog}
    (tokens : ∀ row ∈ table.rows, row.id ≠ "") (anchored : Anchored moments anchor) :
    (readAudit dialect query size moments (anchor.map AuditLog.id)).map
        (fun shown => shown.map fun row => row.createdAt.instant) =
      Keyset.walk (· > ·) (times dialect query table) size.rows moments.length
        (anchor.map fun last => last.createdAt.instant) := by
  induction moments generalizing anchor with
  | nil => rfl
  | cons moment later ih =>
      obtain rfl := still moment List.mem_cons_self
      have shown : ((listing dialect query moment anchor).take size.rows).map
          (fun row => row.createdAt.instant) =
            Keyset.page (· > ·) (times dialect query moment.table) size.rows
              (anchor.map fun last => last.createdAt.instant) := by
        rw [List.map_take, times_of_listing, Keyset.page]
      simp only [readAudit, items_eq anchored, List.length_cons, Keyset.walk, ← shown,
        List.getLast?_map]
      cases ends : ((listing dialect query moment anchor).take size.rows).getLast? with
      | none => rfl
      | some last =>
          have stored := (mem_listing.mp (mem_listing_of_last ends)).1
          have following : Anchored later (some last) := by
            intro row found
            obtain rfl := Option.some.inj found
            refine ⟨tokens last stored, ?_⟩
            intro other member
            rw [still other (List.mem_cons_of_mem moment member)]
            exact stored
          have rest := ih (fun other member => still other (List.mem_cons_of_mem moment member))
            following
          simp only [Option.map_some] at rest ⊢
          rw [← rest, Option.map_map, Option.map_map]
          congr 1
          funext later
          simp [shown]

def TimesCut (times : List Int) (size : PageSize) (pages : Nat) : Prop :=
  ∀ last, (times.take (pages * size.rows)).getLast? = some last →
    ∀ time ∈ times.drop (pages * size.rows), time ≠ last

theorem timesCut_iff {table : Table AuditLog.id} {pages : Nat} :
    TimesCut (times dialect query table) size pages ↔
      Keyset.SeparatedAt (· > ·) (times dialect query table) size.rows pages := by
  have split := List.take_append_drop (pages * size.rows) (times dialect query table)
  have sorted := @times_sorted dialect query table
  rw [← split] at sorted
  obtain ⟨front, -, across⟩ := List.pairwise_append.mp sorted
  apply forall_congr'
  intro last
  apply imp_congr_right
  intro ends
  have parts := @Keyset.filter_append_eq_right_iff _ (fun time => decide (last > time))
    ((times dialect query table).take (pages * size.rows))
    ((times dialect query table).drop (pages * size.rows))
  rw [split] at parts
  rw [Keyset.eligible, parts]
  simp only [decide_eq_false_iff_not, decide_eq_true_eq]
  have least : ∀ time ∈ (times dialect query table).take (pages * size.rows), ¬last > time := by
    intro time member
    obtain ⟨before, whole⟩ := List.getLast?_eq_some_iff.mp ends
    rw [whole] at front member
    rcases List.mem_append.mp member with earlier | own
    · have bound := (List.pairwise_append.mp front).2.2 time earlier last (by simp)
      omega
    · rw [List.mem_singleton.mp own]
      omega
  constructor
  · intro apart
    refine ⟨least, ?_⟩
    intro time member
    have bound := across last (List.mem_of_getLast? ends) time member
    have differs := apart time member
    omega
  · intro separated time member
    have bound := separated.2 time member
    omega

/-- Every matching row of the start is shown once, and none before a newer one. -/
def Complete (dialect : Dialect) (query : AuditQuery) (start shown : List AuditLog) : Prop :=
  (∀ row ∈ start, selects dialect query row = true → shown.count row = 1) ∧
    shown.Pairwise fun row other => other.createdAt.instant ≤ row.createdAt.instant

theorem noAnchor {moments : List Moment} : Anchored moments none := by
  intro last found
  cases found

theorem complete_iff_leavesNone {start : List AuditLog} {moments : List Moment}
    (grows : Grows start moments) {shown : List AuditLog}
    (read : readAudit dialect query size moments none = some shown) :
    Complete dialect query start shown ↔ LeavesNone dialect query size start moments none := by
  have own : readAudit dialect query size moments
      ((none : Option AuditLog).map AuditLog.id) = some shown := read
  obtain ⟨distinct, sorted⟩ := shown_ordered grows noAnchor own
  rw [← shown_iff_leavesNone grows noAnchor own, Complete, and_iff_left sorted]
  constructor
  · intro once row member selected _
    rw [← List.one_le_count_iff, once row member selected]
  · intro all row member selected
    exact List.count_eq_one_of_mem distinct (all row member selected (by simp [Below]))

theorem grows_of_still {table : Table AuditLog.id} {moments : List Moment}
    (still : ∀ moment ∈ moments, moment.table = table)
    (tokens : ∀ row ∈ table.rows, row.id ≠ "") : Grows table.rows moments where
  kept := by
    intro moment member
    rw [still moment member]
    exact List.Subset.refl _
  chain := by
    apply List.pairwise_of_forall_mem_list
    intro earlier member later laterMember
    rw [still earlier member, still later laterMember]
    exact List.Subset.refl _
  tokens := by
    intro moment member
    rw [still moment member]
    exact tokens

theorem complete_iff_timesCut {table : Table AuditLog.id} {moments : List Moment}
    (still : ∀ moment ∈ moments, moment.table = table)
    (tokens : ∀ row ∈ table.rows, row.id ≠ "") {shown : List AuditLog}
    (read : readAudit dialect query size moments none = some shown) :
    Complete dialect query table.rows shown ↔
      ∀ pages, TimesCut (times dialect query table) size pages := by
  have own : readAudit dialect query size moments
      ((none : Option AuditLog).map AuditLog.id) = some shown := read
  have grows := grows_of_still still tokens
  obtain ⟨distinct, sorted⟩ := shown_ordered grows noAnchor own
  have walked := @times_of_readAudit dialect query size table moments still none tokens noAnchor
  rw [own] at walked
  have separates := Keyset.walk_complete_iff size.least
    (Keyset.apart_of_sorted (times_sorted.imp fun ge => by omega) (by simp)) walked.symm
  simp only [timesCut_iff, ← separates.1]
  have inside : shown ⊆ table.rows.filter (selects dialect query) := by
    intro row member
    obtain ⟨-, selected, moment, found, stored⟩ := of_shown grows noAnchor own row member
    rw [still moment found] at stored
    exact List.mem_filter.mpr ⟨stored, selected⟩
  constructor
  · intro complete
    have all : (table.rows.filter (selects dialect query)) ⊆ shown := by
      intro row member
      obtain ⟨stored, selected⟩ := List.mem_filter.mp member
      rw [← List.one_le_count_iff, complete.1 row stored selected]
    have rowsDistinct : (table.rows.filter (selects dialect query)).Nodup :=
      (List.Nodup.of_map _ table.distinct).filter _
    have same : shown.Perm (table.rows.filter (selects dialect query)) :=
      (List.perm_ext_iff_of_nodup distinct rowsDistinct).mpr fun row => ⟨(inside ·), (all ·)⟩
    exact (same.map _).trans times_perm.symm
  · intro same
    have lengths := (same.trans times_perm).length_eq
    rw [List.length_map, List.length_map] at lengths
    have whole : shown.Perm (table.rows.filter (selects dialect query)) :=
      (List.subperm_of_subset distinct inside).perm_of_length_le lengths.ge
    refine ⟨?_, sorted⟩
    intro row stored selected
    apply List.count_eq_one_of_mem distinct
    exact whole.mem_iff.mpr (List.mem_filter.mpr ⟨stored, selected⟩)

end Pages

/-- A log that grows while it is read is shown completely exactly when no page leaves a row
behind that has the time of its last row. On a log that stays as it is the requests come to
an end, and this means that the times on both sides of every page end differ. -/
theorem audit_listing_complete_iff (dialect : Dialect) (query : AuditQuery) (size : PageSize) :
    (∀ start moments shown, Grows start moments →
      readAudit dialect query size moments none = some shown →
        (Complete dialect query start shown ↔
          LeavesNone dialect query size start moments none)) ∧
    ∀ table : Table AuditLog.id, (∀ row ∈ table.rows, row.id ≠ "") →
      ∀ moments : List Moment, (∀ moment ∈ moments, moment.table = table) →
        table.rows.length < moments.length →
          ∃ shown, readAudit dialect query size moments none = some shown ∧
            (Complete dialect query table.rows shown ↔
              ∀ pages, TimesCut (times dialect query table) size pages) := by
  constructor
  · intro start moments shown grows read
    exact complete_iff_leavesNone grows read
  · intro table tokens moments still enough
    have short : (Keyset.eligible (· > ·) (times dialect query table) none).length <
        moments.length := by
      rw [Keyset.eligible, times_perm.length_eq, List.length_map]
      exact Nat.lt_of_le_of_lt (List.length_filter_le _ _) enough
    obtain ⟨visited, walked⟩ : ∃ visited, Keyset.walk (· > ·) (times dialect query table)
        size.rows moments.length none = some visited := Keyset.walk_ends short
    have read := @times_of_readAudit dialect query size table moments still none tokens noAnchor
    rw [Option.map_none, Option.map_none, walked] at read
    obtain ⟨shown, own, -⟩ := Option.map_eq_some_iff.mp read
    exact ⟨shown, own, complete_iff_timesCut still tokens own⟩

def auditRow (id : String) (now : Int) : AuditLog where
  id := id
  actor := "root"
  action := "admin.security.update"
  targetType := "app_config"
  targetId := "admin_security"
  ip := none
  createdAt := .utc now

def noFilter : AuditQuery where
  action := none
  actor := none
  targetType := none
  targetId := none
  ip := none
  q := none
  dateFrom := none
  dateTo := none

/-- Patterns without wildcards. -/
def literal : Dialect where
  like := fun text pattern => text = pattern
  ilike := fun text pattern => text = pattern

def NotOlder (row other : AuditLog) : Prop := other.createdAt.instant ≤ row.createdAt.instant

instance : DecidableRel NotOlder := fun _ _ => inferInstanceAs (Decidable (_ ≤ _))

instance : Std.Total NotOlder where
  total row other := (le_total row.createdAt.instant other.createdAt.instant).symm

instance : IsTrans AuditLog NotOlder where
  trans _ _ _ newer newerStill := le_trans newerStill newer

def stable : Arrangement where
  order := List.insertionSort NotOlder
  perm := List.perm_insertionSort NotOlder
  sorted := List.pairwise_insertionSort NotOlder

def onePerPage : PageSize := ⟨1, by decide, by decide⟩

def apartLog : Table AuditLog.id := ⟨[auditRow "audit_a" 1, auditRow "audit_b" 2], by decide⟩

def tiedLog : Table AuditLog.id := ⟨[auditRow "audit_a" 1, auditRow "audit_b" 1], by decide⟩

/-- Two rows at two times, one for each page. -/
theorem apart_log_is_complete : ∃ shown,
    readAudit literal noFilter onePerPage (List.replicate 3 ⟨apartLog, stable⟩) none =
      some shown ∧ Complete literal noFilter apartLog.rows shown := by
  obtain ⟨shown, read, complete⟩ := (audit_listing_complete_iff literal noFilter onePerPage).2
    apartLog (by decide) (List.replicate 3 ⟨apartLog, stable⟩)
    (fun moment member => by rw [List.eq_of_mem_replicate member]) (by decide)
  refine ⟨shown, read, complete.mpr ?_⟩
  have listed : times literal noFilter apartLog = [2, 1] := by decide
  rw [listed]
  intro pages last ends time member
  cases pages with
  | zero => simp at ends
  | succ pages =>
      cases pages with
      | zero =>
          obtain rfl : 2 = last := by simpa [onePerPage] using ends
          obtain rfl : time = 1 := by simpa [onePerPage] using member
          decide
      | succ pages => simp [onePerPage] at member

/-- Two rows at one time, one for each page: the second is never shown. -/
theorem tied_row_is_skipped :
    readAudit literal noFilter onePerPage (List.replicate 3 ⟨tiedLog, stable⟩) none =
      some [auditRow "audit_a" 1] ∧
        ¬Complete literal noFilter tiedLog.rows [auditRow "audit_a" 1] := by
  constructor
  · decide
  · intro complete
    have skipped := complete.1 (auditRow "audit_b" 1) (by decide) (by decide)
    revert skipped
    decide

end ApiBank.Api.AuditListing
