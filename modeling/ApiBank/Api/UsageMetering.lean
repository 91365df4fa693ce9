import ApiBank.Db.Clock
import ApiBank.Relational.Amounts
import ApiBank.Transition.Run
import Mathlib.Algebra.Group.Pi.Basic
import Mathlib.Algebra.Group.Prod
import Mathlib.Algebra.Order.Ring.Nat
import Mathlib.Algebra.Ring.Pi
import Mathlib.Algebra.Ring.Prod
import Mathlib.Tactic.Common

/-!
# Usage metering

Requests are counted in a buffer of the process. A flush takes the buffer away, writes it into
`api_usage_daily` statement by statement and commits; when an exception stops it, it puts the
counts back. Nothing puts them back when the task of the flush is cancelled: the counts of a
key stay whole in every order of recordings and flushes if and only if no flush is cancelled
after it took the buffer and before it committed.
-/

namespace ApiBank.Api.UsageMetering

open ApiBank.Db ApiBank.Relational ApiBank.Transition

set_option autoImplicit false

/-- A count and how many of it are errors. -/
abbrev Counts : Type := Nat × Nat

/-- Day (by its number; the code keeps its ISO text), user, API key and endpoint group. -/
structure UsageKey where
  day : Int
  userId : String
  apiKeyId : String
  endpointGroup : String
deriving DecidableEq

/-- One entry of the buffer. -/
structure Tally where
  key : UsageKey
  counts : Counts

/-- A row of `api_usage_daily`. -/
structure UsageDaily where
  key : UsageKey
  counts : Counts
  updatedAt : DateTime

def Tally.add (counts : Counts) (tally : Tally) : Tally :=
  { tally with counts := tally.counts + counts }

@[simp] theorem Tally.key_add (counts : Counts) (tally : Tally) :
    (tally.add counts).key = tally.key := rfl

def UsageDaily.add (row : UsageDaily) (counts : Counts) (now : Int) : UsageDaily :=
  { row with counts := row.counts + counts, updatedAt := .utc now }

def UsageDaily.assign (row : UsageDaily) (counts : Counts) (now : Int) : UsageDaily :=
  { row with counts := counts, updatedAt := .utc now }

theorem UsageDaily.key_add (counts : Counts) (now : Int) (row : UsageDaily) :
    (row.add counts now).key = row.key := rfl

theorem UsageDaily.key_assign (counts : Counts) (now : Int) (row : UsageDaily) :
    (row.assign counts now).key = row.key := rfl

abbrev Buffer : Type := Table Tally.key

/-- `self._buffer[key] += counts`, or the first entry of the key. -/
def count (buffer : Buffer) (tally : Tally) : Buffer :=
  buffer.upsert tally (Tally.add tally.counts) (Tally.key_add tally.counts)

/-- What `_record` reads of a request. -/
structure Call where
  apiKeyId : Option String
  userId : Option String
  path : String
  method : String

def isPublic (path : String) : Bool := "/v1/".toList.isPrefixOf path.toList

def classifyEndpoint (path method : String) : String :=
  if !isPublic path then "other"
  else
    let segment := String.ofList ((path.toList.drop 4).takeWhile fun char => char ≠ '/')
    let suffix := if method = "" then "other" else method.toLower
    if segment = "orders" then
      if method = "POST" then "orders.create" else "orders.read"
    else if segment = "transactions" then "transactions.list"
    else if segment = "webhooks" then "webhooks." ++ suffix
    else if segment = "bank-accounts" then "bank_accounts." ++ suffix
    else "v1." ++ segment

/-- The key that `_record` counts a request under, if it counts it. -/
def recordKey? (call : Call) (now : Int) : Option UsageKey :=
  match call.apiKeyId with
  | none => none
  | some apiKeyId =>
      if apiKeyId = "" || !isPublic call.path then none
      else some ⟨now / days 1, call.userId.getD "", apiKeyId,
        classifyEndpoint call.path call.method⟩

def statusCounts (statusCode : Nat) : Counts := (1, if 400 ≤ statusCode then 1 else 0)

def record (call : Call) (statusCode : Nat) (now : Int) (buffer : Buffer) : Buffer :=
  match recordKey? call now with
  | none => buffer
  | some key => count buffer ⟨key, statusCounts statusCode⟩

inductive Dialect where
  | postgresql
  | sqlite
  | other

/-- How a statement writes a tally: by `ON CONFLICT DO UPDATE`, or after a `SELECT` as a new row
or as an assignment on top of the counts that were read. -/
inductive Writing where
  | upsert
  | insert
  | assign (base : Counts)

structure Statement where
  tally : Tally
  writing : Writing

/-- The statement that `_flush` executes for one item of its snapshot. -/
def statement (dialect : Dialect) (stored : Table UsageDaily.key) (tally : Tally) : Statement where
  tally := tally
  writing :=
    match dialect with
    | .postgresql => .upsert
    | .sqlite => .upsert
    | .other =>
        match stored.find? tally.key with
        | none => .insert
        | some existing => .assign existing.counts

def Statement.row (now : Int) (written : Statement) : UsageDaily where
  key := written.tally.key
  counts := written.tally.counts
  updatedAt := .utc now

@[simp] theorem Statement.key_row (now : Int) (written : Statement) :
    (written.row now).key = written.tally.key := rfl

/-- The statement in the transaction of its flush. An insertion fails on a taken key, an
assignment when its row is gone. -/
def Statement.apply (now : Int) (stored : Table UsageDaily.key) (written : Statement) :
    Option (Table UsageDaily.key) :=
  match written.writing with
  | .upsert => some (stored.upsert (written.row now) (fun row => row.add written.tally.counts now)
      (UsageDaily.key_add written.tally.counts now))
  | .insert => stored.insert? (written.row now)
  | .assign base =>
      if (stored.find? written.tally.key).isSome then
        some (stored.modify written.tally.key
          (fun row => row.assign (base + written.tally.counts) now)
          (UsageDaily.key_assign (base + written.tally.counts) now))
      else none

def applyAll (now : Int) : List Statement → Table UsageDaily.key → Option (Table UsageDaily.key)
  | [], stored => some stored
  | written :: rest, stored => (written.apply now stored).bind (applyAll now rest)

/-- A flush between the swap of the buffer and its commit: the snapshot, what it has written in
its transaction and the items it has still to write. -/
structure FlushRun where
  id : Nat
  now : Int
  snapshot : Buffer
  written : List Statement
  todo : List Tally
  covers : written.map Statement.tally ++ todo = snapshot.rows

/-- The metering of one process and the table it writes into. -/
structure Metering where
  buffer : Buffer
  running : Table FlushRun.id
  stored : Table UsageDaily.key

inductive Event where
  | record (call : Call) (statusCode : Nat) (now : Int)
  | swap (flush : Nat) (now : Int)
  | execute (flush : Nat)
  | commit (flush : Nat)
  | fail (flush : Nat)
  | cancel (flush : Nat)

def mergeBack (snapshot buffer : Buffer) : Buffer := snapshot.rows.foldl count buffer

def FlushRun.open (id : Nat) (now : Int) (buffer : Buffer) : FlushRun where
  id := id
  now := now
  snapshot := buffer
  written := []
  todo := buffer.rows
  covers := rfl

/-- The next statement of a flush, if an item is left. -/
def FlushRun.advance (dialect : Dialect) (stored : Table UsageDaily.key) (run : FlushRun) :
    FlushRun :=
  match split : run.todo with
  | [] => run
  | tally :: rest => { run with
      written := run.written ++ [statement dialect stored tally]
      todo := rest
      covers := by
        have covers := run.covers
        rw [split] at covers
        simpa [statement] using covers }

@[simp] theorem FlushRun.id_advance (dialect : Dialect) (stored : Table UsageDaily.key)
    (run : FlushRun) : (run.advance dialect stored).id = run.id := by
  unfold advance
  split
  · rfl
  · rfl

@[simp] theorem FlushRun.snapshot_advance (dialect : Dialect) (stored : Table UsageDaily.key)
    (run : FlushRun) : (run.advance dialect stored).snapshot = run.snapshot := by
  unfold advance
  split
  · rfl
  · rfl

def Metering.giveBack (state : Metering) (run : FlushRun) : Metering := { state with
  buffer := mergeBack run.snapshot state.buffer
  running := state.running.delete run.id }

/-- One step. `swap` enters `_flush` and takes the lock; the four others happen at the awaits
behind it. -/
def step (dialect : Dialect) (state : Metering) : Event → Metering
  | .record call statusCode now => { state with
      buffer := record call statusCode now state.buffer }
  | .swap flush now =>
      if state.buffer.rows.isEmpty then state
      else
        match state.running.insert? (.open flush now state.buffer) with
        | none => state
        | some running => { state with buffer := .empty, running }
  | .execute flush => { state with
      running := state.running.modify flush (FlushRun.advance dialect state.stored)
        (FlushRun.id_advance dialect state.stored) }
  | .commit flush =>
      match state.running.find? flush with
      | none => state
      | some run =>
          if run.todo.isEmpty then
            match applyAll run.now run.written state.stored with
            | none => state.giveBack run
            | some stored => { state with stored, running := state.running.delete flush }
          else state
  | .fail flush =>
      match state.running.find? flush with
      | none => state
      | some run => state.giveBack run
  | .cancel flush => { state with running := state.running.delete flush }

def start (stored : Table UsageDaily.key) : Metering := ⟨.empty, .empty, stored⟩

def held (state : Metering) (key : UsageKey) : Counts :=
  state.stored.amount UsageDaily.counts key + state.buffer.amount Tally.counts key +
    state.running.total fun run => run.snapshot.amount Tally.counts key

def tallied : Event → UsageKey → Counts
  | .record call statusCode now, key =>
      if recordKey? call now = some key then statusCounts statusCode else 0
  | _, _ => 0

def recorded (events : List Event) : UsageKey → Counts := (events.map tallied).sum

/-- Every tally of the process, in the buffer or in a snapshot. -/
structure EachTally (Holds : Counts → Prop) (state : Metering) : Prop where
  buffer : ∀ tally ∈ state.buffer.rows, Holds tally.counts
  running : ∀ run ∈ state.running.rows, ∀ tally ∈ run.snapshot.rows, Holds tally.counts

def Sound (counts : Counts) : Prop := counts.2 ≤ counts.1

def Counted (counts : Counts) : Prop := 0 < counts.1

/-- Nowhere are there more errors than requests. -/
structure AllSound (state : Metering) : Prop where
  stored : ∀ row ∈ state.stored.rows, Sound row.counts
  tallies : EachTally Sound state

/-- The statement fails at the commit. -/
def Refused (stored : Table UsageDaily.key) (written : Statement) : Prop :=
  match written.writing with
  | .upsert => False
  | .insert => stored.find? written.tally.key ≠ none
  | .assign _ => stored.find? written.tally.key = none

def Statement.base (stored : Table UsageDaily.key) (written : Statement) : Counts :=
  match written.writing with
  | .assign base => base
  | _ => stored.amount UsageDaily.counts written.tally.key

/-- No flush is cancelled between its swap and its commit, and none commits an assignment over
counts that it has not read. The second can only happen in a database that is neither
PostgreSQL nor SQLite. -/
def Undisturbed (state : Metering) : Event → Prop
  | .commit flush => ∀ run, state.running.find? flush = some run → run.todo = [] →
      (∃ written ∈ run.written, Refused state.stored written) ∨
        ∀ written ∈ run.written,
          written.base state.stored = state.stored.amount UsageDaily.counts written.tally.key
  | .cancel flush => state.running.find? flush = none
  | _ => True

section Buffers

variable {snapshot buffer : Buffer} {tally : Tally} {key : UsageKey}

theorem amount_count (buffer : Buffer) (tally : Tally) (key : UsageKey) :
    (count buffer tally).amount Tally.counts key =
      buffer.amount Tally.counts key + if tally.key = key then tally.counts else 0 :=
  Table.amount_upsert _ (fun _ => rfl) key

theorem amount_record (call : Call) (statusCode : Nat) (now : Int) (buffer : Buffer)
    (key : UsageKey) :
    (record call statusCode now buffer).amount Tally.counts key =
      buffer.amount Tally.counts key + tallied (.record call statusCode now) key := by
  unfold record
  cases counted : recordKey? call now with
  | none => simp [tallied, counted]
  | some other => simp [tallied, counted, amount_count]

theorem amount_fold (tallies : List Tally) (buffer : Buffer) (key : UsageKey) :
    (tallies.foldl count buffer).amount Tally.counts key =
      buffer.amount Tally.counts key + share Tally.key Tally.counts key tallies := by
  induction tallies generalizing buffer with
  | nil => simp [share]
  | cons tally rest ih =>
      rw [List.foldl_cons, ih, amount_count, add_assoc]
      simp [share]

theorem amount_mergeBack (snapshot buffer : Buffer) (key : UsageKey) :
    (mergeBack snapshot buffer).amount Tally.counts key =
      buffer.amount Tally.counts key + snapshot.amount Tally.counts key := by
  rw [mergeBack, amount_fold, Table.share_rows]

end Buffers

section Statements

variable {stored next : Table UsageDaily.key} {written : Statement} {now : Int}

/-- A statement touches the row of its key only. -/
theorem apply_frame (applied : written.apply now stored = some next) {key : UsageKey}
    (other : key ≠ written.tally.key) : next.find? key = stored.find? key := by
  unfold Statement.apply at applied
  split at applied
  · rw [← Option.some.inj applied]
    exact Table.find?_upsert_of_ne _ other
  · rw [Table.find?_insert? applied]
    exact if_neg (Ne.symm other)
  · split at applied
    · rw [← Option.some.inj applied, Table.find?_modify, if_neg other]
    · contradiction

/-- The row of a statement's key afterwards. -/
theorem apply_amount (applied : written.apply now stored = some next) :
    next.amount UsageDaily.counts written.tally.key =
      written.base stored + written.tally.counts := by
  unfold Statement.apply at applied
  split at applied
  · rename_i upserts
    rw [← Option.some.inj applied, Table.amount_upsert, Statement.key_row, if_pos rfl]
    · simp only [Statement.base, upserts]
      rfl
    · intro old
      rfl
  · rename_i inserts
    rw [Table.amount_insert? applied, Statement.key_row, if_pos rfl]
    simp only [Statement.base, inserts]
    rfl
  · rename_i base assigns
    split at applied
    · rename_i present
      obtain ⟨row, found⟩ := Option.isSome_iff_exists.mp present
      rw [← Option.some.inj applied, Table.amount_modify _ found, if_pos rfl]
      simp only [Statement.base, assigns]
      rfl
    · contradiction

theorem apply_eq_none_iff : written.apply now stored = none ↔ Refused stored written := by
  unfold Statement.apply Refused
  cases written.writing with
  | upsert => simp
  | insert =>
      dsimp only
      rw [Table.insert?_eq_none_iff, Ne, Table.find?_eq_none_iff]
      simp only [Statement.key_row, not_forall, not_not, exists_prop]
  | assign base =>
      cases stored.find? written.tally.key with
      | none => simp
      | some row => simp

theorem base_congr {other : Table UsageDaily.key}
    (same : other.find? written.tally.key = stored.find? written.tally.key) :
    written.base other = written.base stored := by
  simp only [Statement.base, Table.amount, same]

theorem refused_congr {other : Table UsageDaily.key}
    (same : other.find? written.tally.key = stored.find? written.tally.key) :
    Refused other written ↔ Refused stored written := by
  simp only [Refused, same]

variable {statements : List Statement}

theorem applyAll_frame (applied : applyAll now statements stored = some next) {key : UsageKey}
    (other : ∀ written ∈ statements, key ≠ written.tally.key) :
    next.find? key = stored.find? key := by
  induction statements generalizing stored with
  | nil =>
      cases applied
      rfl
  | cons written rest ih =>
      obtain ⟨middle, first, later⟩ := Option.bind_eq_some_iff.mp applied
      rw [ih later fun later member => other later (List.mem_cons_of_mem written member)]
      exact apply_frame first (other written List.mem_cons_self)

theorem applyAll_amount (distinct : (statements.map fun written => written.tally.key).Nodup)
    (applied : applyAll now statements stored = some next) (written : Statement)
    (listed : written ∈ statements) :
    next.amount UsageDaily.counts written.tally.key =
      written.base stored + written.tally.counts := by
  induction statements generalizing stored with
  | nil => contradiction
  | cons first rest ih =>
      rw [List.map_cons, List.nodup_cons] at distinct
      obtain ⟨middle, applies, later⟩ := Option.bind_eq_some_iff.mp applied
      rcases List.mem_cons.mp listed with rfl | behind
      · have apart : ∀ other ∈ rest, written.tally.key ≠ other.tally.key := by
          intro other member same
          exact distinct.1 (List.mem_map.mpr ⟨other, member, same.symm⟩)
        rw [Table.amount, applyAll_frame later apart]
        exact apply_amount applies
      · rw [ih distinct.2 later behind]
        congr 1
        apply base_congr
        apply apply_frame applies
        intro same
        exact distinct.1 (List.mem_map.mpr ⟨written, behind, same⟩)

theorem applyAll_eq_none_iff
    (distinct : (statements.map fun written => written.tally.key).Nodup) :
    applyAll now statements stored = none ↔ ∃ written ∈ statements, Refused stored written := by
  induction statements generalizing stored with
  | nil => simp [applyAll]
  | cons first rest ih =>
      rw [List.map_cons, List.nodup_cons] at distinct
      rw [applyAll, List.exists_mem_cons_iff]
      cases applies : first.apply now stored with
      | none => simp [apply_eq_none_iff.mp applies]
      | some middle =>
          have accepted : ¬Refused stored first := by
            intro fails
            rw [apply_eq_none_iff.mpr fails] at applies
            contradiction
          rw [Option.bind_some, ih distinct.2, or_iff_right accepted]
          apply exists_congr
          intro written
          apply and_congr_right
          intro member
          apply refused_congr
          apply apply_frame applies
          intro same
          exact distinct.1 (List.mem_map.mpr ⟨written, member, same⟩)

end Statements

section Steps

variable {dialect : Dialect} {state : Metering} {event : Event}

/-- What a step does, with the reason why nothing happens. -/
inductive Moved (dialect : Dialect) (state : Metering) : Event → Metering → Prop where
  | idle (event : Event) (uncounted : tallied event = 0) (undisturbed : Undisturbed state event) :
      Moved dialect state event state
  | counted (call : Call) (statusCode : Nat) (now : Int) :
      Moved dialect state (.record call statusCode now)
        { state with buffer := record call statusCode now state.buffer }
  | swapped (flush : Nat) (now : Int) (running : Table FlushRun.id)
      (filled : state.buffer.rows ≠ [])
      (inserted : state.running.insert? (.open flush now state.buffer) = some running) :
      Moved dialect state (.swap flush now) { state with buffer := .empty, running }
  | executed (flush : Nat) :
      Moved dialect state (.execute flush) { state with
        running := state.running.modify flush (FlushRun.advance dialect state.stored)
          (FlushRun.id_advance dialect state.stored) }
  | committed (run : FlushRun) (stored : Table UsageDaily.key)
      (found : state.running.find? run.id = some run) (done : run.todo = [])
      (applied : applyAll run.now run.written state.stored = some stored) :
      Moved dialect state (.commit run.id)
        { state with stored, running := state.running.delete run.id }
  | gaveBack (event : Event) (run : FlushRun) (uncounted : tallied event = 0)
      (undisturbed : Undisturbed state event)
      (found : state.running.find? run.id = some run) :
      Moved dialect state event (state.giveBack run)
  | canceled (flush : Nat) :
      Moved dialect state (.cancel flush)
        { state with running := state.running.delete flush }

theorem FlushRun.rows_of_done {run : FlushRun} (done : run.todo = []) :
    run.snapshot.rows = run.written.map Statement.tally := by
  rw [← run.covers, done, List.append_nil]

theorem FlushRun.written_distinct {run : FlushRun} (done : run.todo = []) :
    (run.written.map fun written => written.tally.key).Nodup := by
  have distinct := run.snapshot.distinct
  rw [FlushRun.rows_of_done done, List.map_map] at distinct
  exact distinct

theorem moved_of_step (dialect : Dialect) (state : Metering) (event : Event) :
    Moved dialect state event (step dialect state event) := by
  cases event with
  | record call statusCode now => exact .counted call statusCode now
  | swap flush now =>
      simp only [step]
      split
      · exact .idle _ rfl trivial
      · rename_i filled
        split
        · exact .idle _ rfl trivial
        · rename_i running inserted
          exact .swapped flush now running (by simpa using filled) inserted
  | execute flush => exact .executed flush
  | commit flush =>
      simp only [step]
      split
      · rename_i absent
        refine .idle _ rfl ?_
        intro run found
        simp [absent] at found
      · rename_i run found
        obtain rfl := Table.key_of_find? found
        split
        · rename_i done
          rw [List.isEmpty_iff] at done
          split
          · rename_i refused
            refine .gaveBack _ run rfl ?_ found
            intro other same _
            obtain rfl := Option.some.inj (found.symm.trans same)
            exact .inl ((applyAll_eq_none_iff (FlushRun.written_distinct done)).mp refused)
          · rename_i stored applied
            exact .committed run stored found done applied
        · rename_i unfinished
          refine .idle _ rfl ?_
          intro other same done
          obtain rfl := Option.some.inj (found.symm.trans same)
          exact absurd (List.isEmpty_iff.mpr done) unfinished
  | fail flush =>
      simp only [step]
      split
      · exact .idle _ rfl trivial
      · rename_i run found
        obtain rfl := Table.key_of_find? found
        exact .gaveBack _ run rfl trivial found
  | cancel flush => exact .canceled flush

/-- A commit adds what the snapshot holds just when every statement writes on top of what is
stored. -/
theorem commit_adds_iff {run : FlushRun} {stored next : Table UsageDaily.key}
    (done : run.todo = []) (applied : applyAll run.now run.written stored = some next) :
    (∀ key, next.amount UsageDaily.counts key =
        stored.amount UsageDaily.counts key + run.snapshot.amount Tally.counts key) ↔
      ∀ written ∈ run.written,
        written.base stored = stored.amount UsageDaily.counts written.tally.key := by
  have rows := FlushRun.rows_of_done done
  have ends := applyAll_amount (FlushRun.written_distinct done) applied
  have holds : ∀ written ∈ run.written,
      run.snapshot.amount Tally.counts written.tally.key = written.tally.counts := by
    intro written listed
    apply Table.amount_of_find?
    apply Table.find?_of_mem
    rw [rows]
    exact List.mem_map_of_mem listed
  constructor
  · intro adds written listed
    have added := adds written.tally.key
    rw [ends written listed, holds written listed] at added
    exact add_right_cancel added
  · intro current key
    by_cases keyed : ∃ written ∈ run.written, written.tally.key = key
    · obtain ⟨written, listed, rfl⟩ := keyed
      rw [ends written listed, holds written listed, current written listed]
    · have apart : ∀ written ∈ run.written, key ≠ written.tally.key := by
        intro written listed same
        exact keyed ⟨written, listed, same.symm⟩
      have absent : run.snapshot.find? key = none := by
        rw [Table.find?_eq_none_iff, rows]
        intro tally member
        obtain ⟨written, listed, rfl⟩ := List.mem_map.mp member
        exact (apart written listed).symm
      rw [Table.amount_of_none absent, add_zero, Table.amount, applyAll_frame applied apart]
      rfl

theorem held_giveBack {run : FlushRun} (found : state.running.find? run.id = some run) :
    held (state.giveBack run) = held state := by
  funext key
  simp only [held, Metering.giveBack, amount_mergeBack, Table.total_delete found, add_assoc]

/-- Every running flush holds a request. -/
def Filled (state : Metering) : Prop :=
  ∀ run ∈ state.running.rows, ∃ tally ∈ run.snapshot.rows, tally.counts ≠ 0

theorem step_held_iff (filled : Filled state) :
    held (step dialect state event) = held state + tallied event ↔ Undisturbed state event := by
  have moved := moved_of_step dialect state event
  generalize step dialect state event = next at moved
  cases moved with
  | idle event uncounted undisturbed =>
      rw [uncounted, add_zero]
      exact iff_of_true rfl undisturbed
  | counted call statusCode now =>
      refine iff_of_true ?_ trivial
      funext key
      simp only [held, amount_record, Pi.add_apply]
      ac_rfl
  | swapped flush now running filled inserted =>
      refine iff_of_true ?_ trivial
      funext key
      simp only [held, Table.total_insert? inserted, Table.amount_empty, Pi.add_apply, tallied,
        FlushRun.open, add_zero]
      ac_rfl
  | executed flush =>
      refine iff_of_true ?_ trivial
      funext key
      simp only [held, Pi.add_apply, tallied, add_zero]
      rw [Table.total_modify]
      intro run _
      rw [FlushRun.snapshot_advance]
  | committed run stored found done applied =>
      have guarded : Undisturbed state (.commit run.id) ↔ ∀ written ∈ run.written,
          written.base state.stored =
            state.stored.amount UsageDaily.counts written.tally.key := by
        have accepted : ¬∃ written ∈ run.written, Refused state.stored written := by
          intro refused
          have fails : applyAll run.now run.written state.stored = none :=
            (applyAll_eq_none_iff (FlushRun.written_distinct done)).mpr refused
          rw [fails] at applied
          contradiction
        constructor
        · intro undisturbed
          exact (undisturbed run found done).resolve_left accepted
        · intro current other same _
          obtain rfl := Option.some.inj (found.symm.trans same)
          exact .inr current
      rw [guarded, ← commit_adds_iff done applied, funext_iff]
      apply forall_congr'
      intro key
      simp only [held, Pi.add_apply, tallied, add_zero, Table.total_delete found]
      constructor
      · intro same
        apply add_right_cancel (b := state.buffer.amount Tally.counts key +
          (state.running.delete run.id).total fun run => run.snapshot.amount Tally.counts key)
        rw [← add_assoc, same]
        ac_rfl
      · intro same
        rw [same]
        ac_rfl
  | gaveBack event run uncounted undisturbed found =>
      rw [uncounted, add_zero]
      exact iff_of_true (held_giveBack found) undisturbed
  | canceled flush =>
      cases found : state.running.find? flush with
      | none =>
          refine iff_of_true ?_ found
          have kept : state.running.delete flush = state.running := by
            apply Table.ext_rows
            apply List.filter_eq_self.mpr
            simpa using (Table.find?_eq_none_iff ..).mp found
          rw [kept]
          exact (add_zero (held state)).symm
      | some run =>
          -- The snapshot is gone, and it holds a request.
          refine iff_of_false ?_ (by simp [Undisturbed, found])
          intro same
          obtain ⟨tally, listed, counted⟩ := filled run (Table.mem_of_find? found)
          have lost := congrFun same tally.key
          simp only [held, Pi.add_apply, tallied, add_zero, Table.total_delete found,
            Table.amount_of_find? (Table.find?_of_mem listed), add_right_inj] at lost
          exact counted (right_eq_add.mp lost)

end Steps

section Invariants

variable {dialect : Dialect} {state : Metering} {event : Event} {Holds : Counts → Prop}

theorem forall_count {buffer : Buffer} {tally : Tally}
    (sums : ∀ left right, Holds left → Holds right → Holds (left + right))
    (all : ∀ old ∈ buffer.rows, Holds old.counts) (new : Holds tally.counts) :
    ∀ old ∈ (count buffer tally).rows, Holds old.counts :=
  Table.upsert_forall _ all new fun old held => sums old.counts tally.counts held new

theorem forall_fold {tallies : List Tally} {buffer : Buffer}
    (sums : ∀ left right, Holds left → Holds right → Holds (left + right))
    (all : ∀ old ∈ buffer.rows, Holds old.counts) (new : ∀ tally ∈ tallies, Holds tally.counts) :
    ∀ old ∈ (tallies.foldl count buffer).rows, Holds old.counts := by
  induction tallies generalizing buffer with
  | nil => exact all
  | cons tally rest ih =>
      exact ih (forall_count sums all (new tally List.mem_cons_self))
        fun later member => new later (List.mem_cons_of_mem tally member)

theorem mem_advanced {flush : Nat} {run : FlushRun}
    (member : run ∈ (state.running.modify flush (FlushRun.advance dialect state.stored)
      (FlushRun.id_advance dialect state.stored)).rows) :
    run ∈ state.running.rows ∨ ∃ old ∈ state.running.rows, run = old.advance dialect state.stored := by
  obtain ⟨old, listed, advanced⟩ := (Table.mem_modify_iff ..).mp member
  split at advanced
  · exact .inr ⟨old, listed, advanced⟩
  · exact .inl (advanced ▸ listed)

theorem step_eachTally (first : ∀ statusCode, Holds (statusCounts statusCode))
    (sums : ∀ left right, Holds left → Holds right → Holds (left + right))
    (each : EachTally Holds state) : EachTally Holds (step dialect state event) := by
  have moved := moved_of_step dialect state event
  generalize step dialect state event = next at moved
  have kept (wanted : Nat) : ∀ run ∈ (state.running.delete wanted).rows,
      ∀ tally ∈ run.snapshot.rows, Holds tally.counts := fun run member =>
    each.running run (List.mem_of_mem_filter member)
  cases moved with
  | idle => exact each
  | counted call statusCode now =>
      refine ⟨?_, each.running⟩
      unfold record
      split
      · exact each.buffer
      · exact forall_count sums each.buffer (first statusCode)
  | swapped flush now running filled inserted =>
      refine ⟨by simp, ?_⟩
      intro run member
      rw [Table.rows_of_insert? inserted] at member
      rcases List.mem_append.mp member with old | new
      · exact each.running run old
      · obtain rfl := List.mem_singleton.mp new
        exact each.buffer
  | executed flush =>
      refine ⟨each.buffer, ?_⟩
      intro run member
      rcases mem_advanced member with same | ⟨old, listed, rfl⟩
      · exact each.running run same
      · rw [FlushRun.snapshot_advance]
        exact each.running old listed
  | committed run stored found done applied => exact ⟨each.buffer, kept run.id⟩
  | gaveBack event run uncounted undisturbed found =>
      exact ⟨forall_fold sums each.buffer (each.running run (Table.mem_of_find? found)),
        kept run.id⟩
  | canceled flush => exact ⟨each.buffer, kept flush⟩

theorem sound_add {left right : Counts} (first : Sound left) (second : Sound right) :
    Sound (left + right) :=
  Nat.add_le_add first second

theorem sound_statusCounts (statusCode : Nat) : Sound (statusCounts statusCode) := by
  unfold Sound statusCounts
  dsimp only
  split
  · exact Nat.le_refl 1
  · exact Nat.zero_le 1

theorem apply_sound {now : Int} {stored next : Table UsageDaily.key} {written : Statement}
    (applied : written.apply now stored = some next)
    (all : ∀ row ∈ stored.rows, Sound row.counts) (tally : Sound written.tally.counts)
    (base : ∀ base, written.writing = .assign base → Sound base) :
    ∀ row ∈ next.rows, Sound row.counts := by
  unfold Statement.apply at applied
  split at applied
  · rw [← Option.some.inj applied]
    exact Table.upsert_forall _ all tally fun old held => sound_add held tally
  · intro row member
    rw [Table.rows_of_insert? applied] at member
    rcases List.mem_append.mp member with old | new
    · exact all row old
    · obtain rfl := List.mem_singleton.mp new
      exact tally
  · rename_i read assigns
    split at applied
    · rw [← Option.some.inj applied]
      intro row member
      obtain ⟨old, listed, rfl⟩ := (Table.mem_modify_iff ..).mp member
      split
      · exact sound_add (base read assigns) tally
      · exact all old listed
    · contradiction

theorem applyAll_sound {now : Int} {statements : List Statement}
    {stored next : Table UsageDaily.key} (applied : applyAll now statements stored = some next)
    (all : ∀ row ∈ stored.rows, Sound row.counts)
    (tallies : ∀ written ∈ statements, Sound written.tally.counts)
    (bases : ∀ written ∈ statements, ∀ base, written.writing = .assign base → Sound base) :
    ∀ row ∈ next.rows, Sound row.counts := by
  induction statements generalizing stored with
  | nil =>
      cases applied
      exact all
  | cons written rest ih =>
      obtain ⟨middle, first, later⟩ := Option.bind_eq_some_iff.mp applied
      have sound := apply_sound first all (tallies written List.mem_cons_self)
        (bases written List.mem_cons_self)
      exact ih later sound (fun other member => tallies other (List.mem_cons_of_mem _ member))
        fun other member => bases other (List.mem_cons_of_mem _ member)

/-- Nothing empty is taken, and what was read is sound; only the fallback reads. -/
structure Invariant (dialect : Dialect) (state : Metering) : Prop where
  sound : AllSound state
  counted : EachTally Counted state
  taken : ∀ run ∈ state.running.rows, run.snapshot.rows ≠ []
  bases : ∀ run ∈ state.running.rows, ∀ written ∈ run.written, ∀ base,
    written.writing = .assign base → dialect = .other ∧ Sound base

theorem filled_of_invariant (invariant : Invariant dialect state) : Filled state := by
  intro run member
  obtain ⟨tally, rest, rows⟩ := List.exists_cons_of_ne_nil (invariant.taken run member)
  have listed : tally ∈ run.snapshot.rows := rows ▸ List.mem_cons_self
  refine ⟨tally, listed, ?_⟩
  intro zero
  have positive := invariant.counted.running run member tally listed
  rw [zero] at positive
  exact Nat.lt_irrefl 0 positive

theorem invariant_start {stored : Table UsageDaily.key}
    (sound : ∀ row ∈ stored.rows, Sound row.counts) : Invariant dialect (start stored) where
  sound := ⟨sound, by simp [start], by simp [start]⟩
  counted := ⟨by simp [start], by simp [start]⟩
  taken := by simp [start]
  bases := by simp [start]

theorem statement_base {stored : Table UsageDaily.key}
    (all : ∀ row ∈ stored.rows, Sound row.counts) {tally : Tally} {base : Counts}
    (assigns : (statement dialect stored tally).writing = .assign base) :
    dialect = .other ∧ Sound base := by
  unfold statement at assigns
  dsimp only at assigns
  split at assigns
  · contradiction
  · contradiction
  · split at assigns
    · contradiction
    · rename_i existing found
      rw [← Writing.assign.inj assigns]
      exact ⟨rfl, all existing (Table.mem_of_find? found)⟩

theorem advance_bases {stored : Table UsageDaily.key} {run : FlushRun}
    (all : ∀ row ∈ stored.rows, Sound row.counts)
    (bases : ∀ written ∈ run.written, ∀ base, written.writing = .assign base →
      dialect = .other ∧ Sound base) :
    ∀ written ∈ (run.advance dialect stored).written, ∀ base,
      written.writing = .assign base → dialect = .other ∧ Sound base := by
  unfold FlushRun.advance
  split
  · exact bases
  · intro written member base assigns
    rcases List.mem_append.mp member with old | new
    · exact bases written old base assigns
    · rw [List.mem_singleton.mp new] at assigns
      exact statement_base all assigns

theorem step_invariant (invariant : Invariant dialect state) :
    Invariant dialect (step dialect state event) := by
  have tallies : EachTally Sound (step dialect state event) :=
    step_eachTally sound_statusCounts (fun _ _ => sound_add) invariant.sound.tallies
  have counted : EachTally Counted (step dialect state event) :=
    step_eachTally (fun _ => Nat.one_pos) (fun _ right first _ => Nat.add_pos_left first right.1)
      invariant.counted
  have moved := moved_of_step dialect state event
  generalize step dialect state event = next at moved tallies counted
  cases moved with
  | idle => exact invariant
  | counted => exact ⟨⟨invariant.sound.stored, tallies⟩, counted, invariant.taken, invariant.bases⟩
  | swapped flush now running filled inserted =>
      refine ⟨⟨invariant.sound.stored, tallies⟩, counted, ?_, ?_⟩
      · intro run member
        rw [Table.rows_of_insert? inserted] at member
        rcases List.mem_append.mp member with old | new
        · exact invariant.taken run old
        · obtain rfl := List.mem_singleton.mp new
          exact filled
      · intro run member
        rw [Table.rows_of_insert? inserted] at member
        rcases List.mem_append.mp member with old | new
        · exact invariant.bases run old
        · obtain rfl := List.mem_singleton.mp new
          simp [FlushRun.open]
  | executed flush =>
      refine ⟨⟨invariant.sound.stored, tallies⟩, counted, ?_, ?_⟩
      · intro run member
        rcases mem_advanced member with same | ⟨old, listed, rfl⟩
        · exact invariant.taken run same
        · rw [FlushRun.snapshot_advance]
          exact invariant.taken old listed
      · intro run member
        rcases mem_advanced member with same | ⟨old, listed, rfl⟩
        · exact invariant.bases run same
        · exact advance_bases invariant.sound.stored (invariant.bases old listed)
  | committed run stored found done applied =>
      have member := Table.mem_of_find? found
      have sound := applyAll_sound applied invariant.sound.stored
        (fun written listed => invariant.sound.tallies.running run member written.tally
          (FlushRun.rows_of_done done ▸ List.mem_map_of_mem listed))
        (fun written listed base assigns => (invariant.bases run member written listed base assigns).2)
      exact ⟨⟨sound, tallies⟩, counted,
        fun run member => invariant.taken run (List.mem_of_mem_filter member),
        fun run member => invariant.bases run (List.mem_of_mem_filter member)⟩
  | gaveBack event run uncounted undisturbed found =>
      exact ⟨⟨invariant.sound.stored, tallies⟩, counted,
        fun run member => invariant.taken run (List.mem_of_mem_filter member),
        fun run member => invariant.bases run (List.mem_of_mem_filter member)⟩
  | canceled flush =>
      exact ⟨⟨invariant.sound.stored, tallies⟩, counted,
        fun run member => invariant.taken run (List.mem_of_mem_filter member),
        fun run member => invariant.bases run (List.mem_of_mem_filter member)⟩

def Uncanceled (state : Metering) : Event → Prop
  | .cancel flush => state.running.find? flush = none
  | _ => True

/-- With `ON CONFLICT DO UPDATE` only a cancellation disturbs. -/
theorem undisturbed_iff_uncanceled (upserts : dialect ≠ .other)
    (invariant : Invariant dialect state) : Undisturbed state event ↔ Uncanceled state event := by
  cases event with
  | commit flush =>
      refine iff_of_true ?_ trivial
      intro run found _
      refine .inr ?_
      intro written listed
      unfold Statement.base
      split
      · rename_i base assigns
        have fallback := invariant.bases run (Table.mem_of_find? found) written listed base assigns
        exact absurd fallback.1 upserts
      · rfl
  | record | swap | execute | fail | cancel => exact Iff.rfl

theorem invariant_run {stored : Table UsageDaily.key}
    (sound : ∀ row ∈ stored.rows, Sound row.counts) (events : List Event) :
    Invariant dialect (events.foldl (step dialect) (start stored)) := by
  apply (Run.of_computed (step dialect) (start stored) events).invariant (Invariant dialect)
    (invariant_start sound)
  rintro state event next invariant rfl
  exact step_invariant invariant

end Invariants

/-- After these events: every key has the counts that were stored at the start and those of the
recorded requests, and nowhere are there more errors than requests. -/
structure Conserves (dialect : Dialect) (stored : Table UsageDaily.key) (events : List Event) :
    Prop where
  counts : ∀ key, held (events.foldl (step dialect) (start stored)) key =
    stored.amount UsageDaily.counts key + recorded events key
  sound : AllSound (events.foldl (step dialect) (start stored))

/-- The counts are conserved at every moment if and only if no step is disturbed. -/
theorem conserves_iff (dialect : Dialect) (stored : Table UsageDaily.key)
    (sound : ∀ row ∈ stored.rows, Sound row.counts) (events : List Event) :
    (∀ prior later, events = prior ++ later → Conserves dialect stored prior) ↔
      Run.Along Undisturbed (step dialect) (start stored) events := by
  have opening : held (start stored) = stored.amount UsageDaily.counts := by
    funext key
    simp [held, start, Table.total]
  rw [← Run.along_iff (Invariant dialect)
    (fun state event invariant => step_held_iff (filled_of_invariant invariant))
    (fun state event invariant _ => step_invariant invariant) (invariant_start sound),
    ← Run.accounted_iff, opening]
  constructor
  · intro conserves prior later split
    exact funext (conserves prior later split).counts
  · intro accounted prior later split
    exact ⟨congrFun (accounted prior later split), (invariant_run sound prior).sound⟩

/-- On PostgreSQL and SQLite the one condition is that no running flush is cancelled. -/
theorem conserves_iff_uncanceled (dialect : Dialect) (upserts : dialect ≠ .other)
    (stored : Table UsageDaily.key) (sound : ∀ row ∈ stored.rows, Sound row.counts)
    (events : List Event) :
    (∀ prior later, events = prior ++ later → Conserves dialect stored prior) ↔
      Run.Along Uncanceled (step dialect) (start stored) events := by
  rw [conserves_iff dialect stored sound, Run.along_iff (Invariant dialect)
    (fun state event invariant => undisturbed_iff_uncanceled upserts invariant)
    (fun state event invariant _ => step_invariant invariant) (invariant_start sound)]

/-- A request for an order's status, the flush that counts it, and one more request. -/
def sampleCall : Call := ⟨some "k1", some "u1", "/v1/orders/o1", "GET"⟩

def sampleEvents : List Event := [
  .record sampleCall 200 0,
  .swap 1 1,
  .record sampleCall 404 2,
  .execute 1,
  .commit 1]

theorem conserves_iff_sample : Conserves .postgresql .empty sampleEvents := by
  have sound : ∀ row ∈ (Table.empty : Table UsageDaily.key).rows, Sound row.counts := by simp
  have invariant : Invariant .postgresql (sampleEvents.take 4 |>.foldl (step .postgresql)
      (start .empty)) := invariant_run sound _
  have commits := (undisturbed_iff_uncanceled (by simp) invariant).mpr
    (show Uncanceled _ (.commit 1) from trivial)
  have always := (conserves_iff .postgresql .empty sound sampleEvents).mpr
    ⟨trivial, trivial, trivial, trivial, commits, trivial⟩
  exact always sampleEvents [] (List.append_nil _).symm

/-- The task of the flush is cancelled while it writes. -/
def canceledEvents : List Event := [.record sampleCall 200 0, .swap 1 1, .cancel 1]

theorem canceled_flush_loses_counts :
    ¬∀ (dialect : Dialect) (stored : Table UsageDaily.key) (events : List Event),
      (∀ row ∈ stored.rows, Sound row.counts) → Conserves dialect stored events := by
  intro claimed
  have conserves := claimed .postgresql .empty canceledEvents (by simp)
  have lost := conserves.counts ⟨0, "u1", "k1", "orders.read"⟩
  revert lost
  decide

end ApiBank.Api.UsageMetering
