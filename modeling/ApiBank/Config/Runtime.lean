import ApiBank.Db.Models
import ApiBank.Errors
import ApiBank.Transition.Run

/-!
# The runtime configuration and its cache

One key of `app_configs` in one process: transactions that call `set_config` and then commit or
roll back, and calls of `get_decrypted` from other sessions, which answer from a cache for
thirty seconds. `set_config` drops the cache entry when it has flushed, not when it has
committed. A reader that fills the cache in between, or a slow one that fills it later with
what it read before, hides the commit until its entry runs out.
-/

namespace ApiBank.Config.Runtime

open ApiBank.Db ApiBank.Relational ApiBank.Transition

set_option autoImplicit false

section Payloads

/-- `payload[field] = value`: the entry keeps its place, a new one comes last. -/
def setField (payload : Metadata) (field : String) (value : Json) : Metadata :=
  if payload.any fun entry => entry.1 = field then
    payload.map fun entry => if entry.1 = field then (field, value) else entry
  else payload ++ [(field, value)]

/-- `payload.pop(field, None)` without the value. -/
def popField (payload : Metadata) (field : String) : Metadata :=
  payload.filter fun entry => entry.1 ≠ field

def setDefault (payload : Metadata) (field : String) (value : Json) : Metadata :=
  if payload.any fun entry => entry.1 = field then payload else payload ++ [(field, value)]

/-- The cipher of the configured keys: what `decrypt` makes of a token, unless it raises. -/
structure Cipher where
  decrypt : String → Option String

def Cipher.opened (cipher : Cipher) : Json → Json
  | .text token => (cipher.decrypt token).elim .null .text
  | _ => .null

/-- One round of the loop of `get_decrypted`. -/
def decryptField (cipher : Option Cipher) (payload : Metadata) (field : String) : Metadata :=
  let token := (payload.lookup (field ++ "_enc")).filter Json.truthy
  let rest := popField payload (field ++ "_enc")
  match token, cipher with
  | some token, some cipher => setField rest field (cipher.opened token)
  | _, _ => setDefault rest field .null

/-- What `get_decrypted` makes of the row that it found. -/
def decrypted (cipher : Option Cipher) (encryptedFields : List String) :
    Option Metadata → Metadata
  | none => []
  | some payload => encryptedFields.foldl (decryptField cipher) payload

/-- The arguments of `set_config`, with the tokens that its encryptions draw. -/
structure SetRequest where
  value : Metadata
  encryptFields : List String
  preserveEmptySecrets : Bool
  token : Json → String

/-- `val in (None, "")`. -/
def isEmptySecret : Json → Bool
  | .null => true
  | .text value => value = ""
  | _ => false

def writeField (cipher : Option Cipher) (request : SetRequest) (newValue : Metadata)
    (entry : String × Json) : Except Error Metadata :=
  let (field, val) := entry
  if request.encryptFields.contains field then
    if isEmptySecret val then
      .ok (if request.preserveEmptySecrets then newValue else popField newValue (field ++ "_enc"))
    else
      match cipher with
      | none => .error (.runtimeError "APIBANK_FERNET_KEYS not set — cannot encrypt secret")
      | some _ => .ok (setField newValue (field ++ "_enc") (.text (request.token val)))
  else .ok (setField newValue field val)

/-- The value that `set_config` stores over an existing one. -/
def merged (cipher : Option Cipher) (request : SetRequest) (existing : Option Metadata) :
    Except Error Metadata :=
  request.value.foldlM (writeField cipher request) (existing.getD [])

/-- `int(flag)`. -/
def flagValue (flag : Bool) : Int := if flag then 1 else 0

mutual

/-- `==` of Python: a flag equals the number that it stands for, and the order of the fields of
an object does not count. -/
def equal : Json → Json → Bool
  | .null, .null => true
  | .bool left, .bool right => left = right
  | .bool left, .number right => flagValue left = right
  | .number left, .bool right => left = flagValue right
  | .number left, .number right => left = right
  | .text left, .text right => left = right
  | .array left, .array right => equalItems left right
  | .object left, .object right => left.length = right.length && equalFields left right
  | _, _ => false

def equalItems : List Json → List Json → Bool
  | [], [] => true
  | left :: rest, right :: others => equal left right && equalItems rest others
  | _, _ => false

def equalFields : List (String × Json) → List (String × Json) → Bool
  | [], _ => true
  | (name, left) :: rest, others =>
      (others.lookup name).any (equal left) && equalFields rest others

end

/-- The payload of the row after the flush: where the assigned payload equals the one that was
loaded, the `UPDATE` leaves the column out. -/
def flushed (row existing : Option Metadata) (newValue : Metadata) : Metadata :=
  match row, existing with
  | some row, some existing =>
      if equal (.object newValue) (.object existing) then row else newValue
  | _, _ => newValue

end Payloads

def cacheTtlSeconds : Int := seconds 30

/-- An entry of `_cache`, with the reading of the clock at the start of the call that made it. -/
structure Entry where
  stamp : Int
  payload : Metadata

/-- `(now - cached[0]) < _CACHE_TTL_SECONDS`. -/
def Entry.Valid (now : Int) (entry : Entry) : Prop := now - entry.stamp < cacheTtlSeconds

instance (now : Int) (entry : Entry) : Decidable (entry.Valid now) :=
  inferInstanceAs (Decidable (_ < _))

/-- A transaction that calls `set_config`: the row that the call in progress has found, and what
the transaction has flushed. -/
structure Writer where
  id : Nat
  loaded : Option (Option Metadata)
  pending : Option Metadata

/-- A call of `get_decrypted` that waits for the database: its clock reading, the row once it is
read, and the values that were committed at some moment since the call began. -/
structure Reader where
  id : Nat
  stamp : Int
  row : Option (Option Metadata)
  window : List (Option Metadata)

/-- What a call of `get_decrypted` has returned, with the values that were committed at some
moment between its start and its return. -/
structure Answer where
  payload : Metadata
  window : List (Option Metadata)

structure Process where
  now : Int
  committed : Option Metadata
  cache : Option Entry
  writers : Table Writer.id
  readers : Table Reader.id
  answers : List Answer

inductive Event where
  | tick (elapsed : Nat)
  | load (writer : Nat)
  | flush (writer : Nat) (request : SetRequest)
  | commit (writer : Nat)
  | rollback (writer : Nat)
  | start (reader : Nat)
  | read (reader : Nat)
  | fill (reader : Nat)
  | invalidate

/-- What the session of a writer sees. -/
def Process.view (process : Process) (writer : Nat) : Option Metadata :=
  match (process.writers.find? writer).bind Writer.pending with
  | some pending => some pending
  | none => process.committed

/-- Another transaction holds the row. -/
def Process.locked (process : Process) (writer : Nat) : Bool :=
  process.writers.rows.any fun other => other.id ≠ writer && other.pending.isSome

def Reader.sees (value : Option Metadata) (reader : Reader) : Reader :=
  { reader with window := value :: reader.window }

/-- The `SELECT` of a call that has not read yet. -/
def Reader.reads (value : Option Metadata) (reader : Reader) : Reader :=
  { reader with row := some (reader.row.getD value) }

theorem Reader.id_sees (value : Option Metadata) (reader : Reader) :
    (reader.sees value).id = reader.id := rfl

theorem Reader.id_reads (value : Option Metadata) (reader : Reader) :
    (reader.reads value).id = reader.id := rfl

def Process.setWriter (process : Process) (writer : Writer) : Process := { process with
  writers := (process.writers.insert? writer).getD
    (process.writers.modify writer.id (fun old => { writer with id := old.id }) fun _ => rfl) }

/-- The end of `set_config` after the merge: a flush waits for the row, fails on a row that was
inserted since it was looked for, and otherwise drops the cache entry. -/
def flush (process : Process) (writer : Nat) (existing : Option Metadata)
    (newValue : Metadata) : Process :=
  if process.locked writer then process
  else if existing.isNone && (process.view writer).isSome then
    { process with writers := process.writers.delete writer }
  else
    let payload := flushed (process.view writer) existing newValue
    { process.setWriter ⟨writer, none, some payload⟩ with cache := none }

/-- The awaits of `set_config` and `get_decrypted` are where one step ends and another begins. -/
def step (cipher : Option Cipher) (encryptedFields : List String) (process : Process) :
    Event → Process
  | .tick elapsed => { process with now := process.now + elapsed }
  | .load writer =>
      let pending := (process.writers.find? writer).bind Writer.pending
      process.setWriter ⟨writer, some (process.view writer), pending⟩
  | .flush writer request =>
      match (process.writers.find? writer).bind Writer.loaded with
      | none => process
      | some existing =>
          match merged cipher request existing with
          | .error _ => process
          | .ok newValue => flush process writer existing newValue
  | .commit writer =>
      match (process.writers.find? writer).bind Writer.pending with
      | none => { process with writers := process.writers.delete writer }
      | some pending => { process with
          committed := some pending
          writers := process.writers.delete writer
          readers := process.readers.update (Reader.sees (some pending)) (Reader.id_sees _) }
  | .rollback writer => { process with writers := process.writers.delete writer }
  | .start reader =>
      match process.cache.filter fun entry => decide (entry.Valid process.now) with
      | some entry => { process with
          answers := ⟨entry.payload, [process.committed]⟩ :: process.answers }
      | none => { process with
          readers := (process.readers.insert? ⟨reader, process.now, none, [process.committed]⟩).getD
            process.readers }
  | .read reader => { process with
      readers := process.readers.modify reader (Reader.reads process.committed)
          (Reader.id_reads process.committed) }
  | .fill reader =>
      match process.readers.find? reader with
      | none => process
      | some call =>
          match call.row with
          | none => process
          | some row => { process with
              cache := some ⟨call.stamp, decrypted cipher encryptedFields row⟩
              readers := process.readers.delete reader
              answers := ⟨decrypted cipher encryptedFields row, call.window⟩ :: process.answers }
  | .invalidate => { process with cache := none }

/-- A process that has just started, over what the table holds. -/
def opening (now : Int) (committed : Option Metadata) : Process :=
  ⟨now, committed, none, .empty, .empty, []⟩

/-- The payload of a value that was committed at some moment while the call ran. -/
def Answer.Fresh (cipher : Option Cipher) (encryptedFields : List String) (answer : Answer) :
    Prop :=
  ∃ value ∈ answer.window, answer.payload = decrypted cipher encryptedFields value

/-- Every call so far has returned a fresh payload, and so does one that starts now and finds
the cache filled. -/
structure Coherent (cipher : Option Cipher) (encryptedFields : List String) (process : Process) :
    Prop where
  answered : ∀ answer ∈ process.answers, answer.Fresh cipher encryptedFields
  next : ∀ reader, ∀ answer ∈ (step cipher encryptedFields process (.start reader)).answers,
    answer.Fresh cipher encryptedFields

/-- A commit finds no valid entry with another payload, and a call that fills the cache with
another payload than the committed one has run longer than an entry lives. -/
def Uncontested (cipher : Option Cipher) (encryptedFields : List String) (process : Process) :
    Event → Prop
  | .commit writer => ∀ pending,
      (process.writers.find? writer).bind Writer.pending = some pending → ∀ entry,
        process.cache = some entry → entry.Valid process.now →
          entry.payload = decrypted cipher encryptedFields (some pending)
  | .fill reader => ∀ call row, process.readers.find? reader = some call → call.row = some row →
      process.now - call.stamp < cacheTtlSeconds →
        decrypted cipher encryptedFields row =
          decrypted cipher encryptedFields process.committed
  | _ => True

section Steps

variable {cipher : Option Cipher} {encryptedFields : List String} {process : Process}
variable {event : Event}

def Served (cipher : Option Cipher) (encryptedFields : List String) (process : Process) : Prop :=
  ∀ entry, process.cache = some entry → entry.Valid process.now →
    entry.payload = decrypted cipher encryptedFields process.committed

theorem coherent_iff : Coherent cipher encryptedFields process ↔
    (∀ answer ∈ process.answers, answer.Fresh cipher encryptedFields) ∧
      Served cipher encryptedFields process := by
  constructor
  · rintro ⟨answered, next⟩
    refine ⟨answered, ?_⟩
    intro entry cached valid
    have hit := next 0 ⟨entry.payload, [process.committed]⟩ (by simp [step, cached, Option.filter, valid])
    obtain ⟨value, current, same⟩ := hit
    rw [List.mem_singleton.mp current] at same
    exact same
  · rintro ⟨answered, served⟩
    refine ⟨answered, ?_⟩
    intro reader answer member
    simp only [step] at member
    split at member
    · rename_i entry hit
      obtain ⟨cached, valid⟩ := Option.filter_eq_some_iff.mp hit
      rcases List.mem_cons.mp member with rfl | earlier
      · exact ⟨process.committed, List.mem_singleton_self _,
          served entry cached (of_decide_eq_true valid)⟩
      · exact answered answer earlier
    · exact answered answer member

/-- What a step does to the cache, the readers and the committed value. -/
inductive Moved (cipher : Option Cipher) (encryptedFields : List String) (process : Process) :
    Event → Process → Prop where
  | apart (event : Event) (writers : Table Writer.id) (cache : Option Entry)
      (kept : cache = process.cache ∨ cache = none)
      (uncontested : Uncontested cipher encryptedFields process event) :
      Moved cipher encryptedFields process event { process with writers, cache }
  | ticked (elapsed : Nat) :
      Moved cipher encryptedFields process (.tick elapsed)
        { process with now := process.now + elapsed }
  | committed (writer : Nat) (pending : Metadata) (writers : Table Writer.id)
      (wrote : (process.writers.find? writer).bind Writer.pending = some pending) :
      Moved cipher encryptedFields process (.commit writer) { process with
        committed := some pending
        writers
        readers := process.readers.update (Reader.sees (some pending)) (Reader.id_sees _) }
  | hit (reader : Nat) (entry : Entry) (cached : process.cache = some entry)
      (valid : entry.Valid process.now) :
      Moved cipher encryptedFields process (.start reader) { process with
        answers := ⟨entry.payload, [process.committed]⟩ :: process.answers }
  | missed (reader : Nat) (readers : Table Reader.id)
      (inserted : process.readers.insert? ⟨reader, process.now, none, [process.committed]⟩ =
        some readers) :
      Moved cipher encryptedFields process (.start reader) { process with readers }
  | read (reader : Nat) :
      Moved cipher encryptedFields process (.read reader) { process with
        readers := process.readers.modify reader (Reader.reads process.committed)
          (Reader.id_reads process.committed) }
  | filled (call : Reader) (row : Option Metadata)
      (found : process.readers.find? call.id = some call) (read : call.row = some row) :
      Moved cipher encryptedFields process (.fill call.id) { process with
        cache := some ⟨call.stamp, decrypted cipher encryptedFields row⟩
        readers := process.readers.delete call.id
        answers := ⟨decrypted cipher encryptedFields row, call.window⟩ :: process.answers }

theorem moved_of_flush {writer : Nat} {existing : Option Metadata} {newValue : Metadata}
    (uncontested : Uncontested cipher encryptedFields process event) :
    Moved cipher encryptedFields process event (flush process writer existing newValue) := by
  unfold flush
  split
  · exact .apart event process.writers process.cache (.inl rfl) uncontested
  · split
    · exact .apart event _ process.cache (.inl rfl) uncontested
    · exact .apart event _ none (.inr rfl) uncontested

theorem moved_of_step (cipher : Option Cipher) (encryptedFields : List String)
    (process : Process) (event : Event) :
    Moved cipher encryptedFields process event (step cipher encryptedFields process event) := by
  have idle (uncontested : Uncontested cipher encryptedFields process event) :
      Moved cipher encryptedFields process event process :=
    .apart event process.writers process.cache (.inl rfl) uncontested
  cases event with
  | tick elapsed => exact .ticked elapsed
  | load writer => exact .apart _ _ process.cache (.inl rfl) trivial
  | flush writer request =>
      simp only [step]
      split
      · exact idle trivial
      · split
        · exact idle trivial
        · exact moved_of_flush trivial
  | commit writer =>
      simp only [step]
      split
      · rename_i nothing
        refine .apart _ _ process.cache (.inl rfl) ?_
        intro pending wrote
        rw [nothing] at wrote
        contradiction
      · rename_i pending wrote
        exact .committed writer pending _ wrote
  | rollback writer => exact .apart _ _ process.cache (.inl rfl) trivial
  | start reader =>
      simp only [step]
      split
      · rename_i entry hit
        obtain ⟨cached, valid⟩ := Option.filter_eq_some_iff.mp hit
        exact .hit reader entry cached (of_decide_eq_true valid)
      · cases inserted : process.readers.insert? ⟨reader, process.now, none, [process.committed]⟩ with
        | none => exact idle trivial
        | some readers => exact .missed reader readers inserted
  | read reader => exact .read reader
  | fill reader =>
      simp only [step]
      split
      · rename_i absent
        refine idle ?_
        intro call row found
        rw [absent] at found
        contradiction
      · rename_i call found
        obtain rfl := Table.key_of_find? found
        split
        · rename_i unread
          refine idle ?_
          intro other row same read
          obtain rfl := Option.some.inj (found.symm.trans same)
          rw [unread] at read
          contradiction
        · rename_i row read
          exact .filled call row found read
  | invalidate => exact .apart _ process.writers none (.inr rfl) trivial

theorem mem_reads {reader : Nat} {call : Reader}
    (member : call ∈ (process.readers.modify reader (Reader.reads process.committed)
      (Reader.id_reads process.committed)).rows) :
    call ∈ process.readers.rows ∨
      ∃ old ∈ process.readers.rows, call = old.reads process.committed := by
  obtain ⟨old, listed, reads⟩ := (Table.mem_modify_iff ..).mp member
  split at reads
  · exact .inr ⟨old, listed, reads⟩
  · exact .inl (reads ▸ listed)

/-- The window of a call ends with the committed value and holds the row that it has read. -/
structure Tracked (process : Process) : Prop where
  current : ∀ call ∈ process.readers.rows, process.committed ∈ call.window
  read : ∀ call ∈ process.readers.rows, ∀ row, call.row = some row → row ∈ call.window

theorem step_tracked (tracked : Tracked process) :
    Tracked (step cipher encryptedFields process event) := by
  have moved := moved_of_step cipher encryptedFields process event
  generalize step cipher encryptedFields process event = next at moved
  cases moved with
  | apart | ticked | hit => exact ⟨tracked.current, tracked.read⟩
  | committed writer pending writers wrote =>
      refine ⟨?_, ?_⟩
      · intro call member
        obtain ⟨old, listed, rfl⟩ := List.mem_map.mp member
        exact List.mem_cons_self
      · intro call member row read
        obtain ⟨old, listed, rfl⟩ := List.mem_map.mp member
        exact List.mem_cons_of_mem _ (tracked.read old listed row read)
  | missed reader readers inserted =>
      refine ⟨?_, ?_⟩
      · intro call member
        rw [Table.rows_of_insert? inserted] at member
        rcases List.mem_append.mp member with old | new
        · exact tracked.current call old
        · obtain rfl := List.mem_singleton.mp new
          exact List.mem_singleton_self _
      · intro call member row read
        rw [Table.rows_of_insert? inserted] at member
        rcases List.mem_append.mp member with old | new
        · exact tracked.read call old row read
        · obtain rfl := List.mem_singleton.mp new
          contradiction
  | read reader =>
      refine ⟨?_, ?_⟩
      · intro call member
        rcases mem_reads member with same | ⟨old, listed, rfl⟩
        · exact tracked.current call same
        · exact tracked.current old listed
      · intro call member row read
        rcases mem_reads member with same | ⟨old, listed, rfl⟩
        · exact tracked.read call same row read
        · cases before : old.row with
          | none =>
              obtain rfl : process.committed = row := by simpa [Reader.reads, before] using read
              exact tracked.current old listed
          | some earlier =>
              obtain rfl : earlier = row := by simpa [Reader.reads, before] using read
              exact tracked.read old listed earlier before
  | filled call row found read =>
      exact ⟨fun other member => tracked.current other (List.mem_of_mem_filter member),
        fun other member => tracked.read other (List.mem_of_mem_filter member)⟩

theorem step_answered (tracked : Tracked process)
    (answered : ∀ answer ∈ process.answers, answer.Fresh cipher encryptedFields)
    (served : Served cipher encryptedFields process) :
    ∀ answer ∈ (step cipher encryptedFields process event).answers,
      answer.Fresh cipher encryptedFields := by
  have moved := moved_of_step cipher encryptedFields process event
  generalize step cipher encryptedFields process event = next at moved
  cases moved with
  | apart | ticked | committed | missed | read => exact answered
  | hit reader entry cached valid =>
      intro answer member
      rcases List.mem_cons.mp member with rfl | earlier
      · exact ⟨process.committed, List.mem_singleton_self _, served entry cached valid⟩
      · exact answered answer earlier
  | filled call row found read =>
      intro answer member
      rcases List.mem_cons.mp member with rfl | earlier
      · exact ⟨row, tracked.read call (Table.mem_of_find? found) row read, rfl⟩
      · exact answered answer earlier

/-- The step lemma: the cache keeps answering what is committed just when the step is
uncontested. -/
theorem step_served_iff (served : Served cipher encryptedFields process) :
    Served cipher encryptedFields (step cipher encryptedFields process event) ↔
      Uncontested cipher encryptedFields process event := by
  have moved := moved_of_step cipher encryptedFields process event
  generalize step cipher encryptedFields process event = next at moved
  cases moved with
  | apart event writers cache kept uncontested =>
      refine iff_of_true ?_ uncontested
      rcases kept with rfl | rfl
      · exact served
      · intro entry cached
        contradiction
  | ticked elapsed =>
      refine iff_of_true ?_ trivial
      intro entry cached valid
      apply served entry cached
      simp only [Entry.Valid] at valid ⊢
      omega
  | committed writer pending writers wrote =>
      constructor
      · intro after other same entry cached valid
        obtain rfl := Option.some.inj (wrote.symm.trans same)
        exact after entry cached valid
      · intro uncontested entry cached valid
        exact uncontested pending wrote entry cached valid
  | hit reader entry cached valid => exact iff_of_true served trivial
  | missed reader readers inserted => exact iff_of_true served trivial
  | read reader => exact iff_of_true served trivial
  | filled call row found read =>
      constructor
      · intro after other value same reads valid
        obtain rfl := Option.some.inj (found.symm.trans same)
        obtain rfl := Option.some.inj (read.symm.trans reads)
        exact after _ rfl valid
      · intro uncontested entry cached valid
        obtain rfl := Option.some.inj cached
        exact uncontested call row found read valid

theorem step_coherent_iff (tracked : Tracked process)
    (coherent : Coherent cipher encryptedFields process) :
    Coherent cipher encryptedFields (step cipher encryptedFields process event) ↔
      Uncontested cipher encryptedFields process event := by
  obtain ⟨answered, served⟩ := coherent_iff.mp coherent
  rw [coherent_iff, ← step_served_iff served]
  exact and_iff_right (step_answered tracked answered served)

end Steps

theorem tracked_opening (now : Int) (committed : Option Metadata) :
    Tracked (opening now committed) := by
  refine ⟨?_, ?_⟩
  · simp [opening]
  · simp [opening]

theorem coherent_opening (cipher : Option Cipher) (encryptedFields : List String) (now : Int)
    (committed : Option Metadata) :
    Coherent cipher encryptedFields (opening now committed) := by
  refine coherent_iff.mpr ⟨by simp [opening], ?_⟩
  intro entry cached
  contradiction

/-- At every moment of a run all answers, also that of a call starting then, are fresh, if and
only if no commit meets a valid entry with another payload and no call fills the cache with a
payload that a commit has overtaken. -/
theorem coherent_iff_uncontested (cipher : Option Cipher) (encryptedFields : List String)
    (now : Int) (committed : Option Metadata) (events : List Event) :
    (∀ prior later, events = prior ++ later → Coherent cipher encryptedFields
        (prior.foldl (step cipher encryptedFields) (opening now committed))) ↔
      Run.Along (Uncontested cipher encryptedFields) (step cipher encryptedFields)
        (opening now committed) events := by
  rw [Run.always_iff, Run.along_iff
    (fun process => Tracked process ∧ Coherent cipher encryptedFields process)
    (fun process event holds => step_coherent_iff holds.1 holds.2)
    (fun process event holds coherent => ⟨step_tracked holds.1, coherent⟩)
    ⟨tracked_opening now committed, coherent_opening cipher encryptedFields now committed⟩]
  exact and_iff_right (coherent_opening cipher encryptedFields now committed)

/-- The bot token is changed, and a notification reads the configuration between the flush and
the commit. -/
def enabledRequest : SetRequest := ⟨[("enabled", .bool true)], ["bot_token"], true, fun _ => ""⟩

def overtakenEvents : List Event := [
  .load 1, .flush 1 enabledRequest, .start 1, .read 1, .fill 1, .commit 1]

theorem overtaken_reader_hides_commit :
    ¬∀ (cipher : Option Cipher) (encryptedFields : List String) (now : Int)
      (committed : Option Metadata) (events : List Event),
      Coherent cipher encryptedFields
        (events.foldl (step cipher encryptedFields) (opening now committed)) := by
  intro claimed
  have served := (coherent_iff.mp (claimed none ["bot_token"] 0 none overtakenEvents)).2
  have same : ([] : Metadata) = [("enabled", .bool true), ("bot_token", .null)] :=
    served ⟨0, []⟩ rfl (by decide)
  contradiction

end ApiBank.Config.Runtime
