import ApiBank.Db.Clock
import ApiBank.Errors
import ApiBank.Relational.Table
import ApiBank.Transition.Effect
import ApiBank.Transition.Run

/-!
# Notification preferences

The channels that `notify` delivers on, the matrix that the settings page shows, and the
two endpoints that write preferences. Delivery reads the defaults of a kind only while the
user has no row of that kind; the matrix reads them pair by pair.
-/

namespace ApiBank.Notifications.Preferences

open ApiBank.Db ApiBank.Relational ApiBank.Transition

set_option autoImplicit false

structure NotificationPreference where
  userId : String
  kind : String
  channel : String
  enabled : Bool
  mutedUntil : Option DateTime
deriving DecidableEq, Repr

/-- `uq_pref_user_kind_channel`. -/
def NotificationPreference.key (pref : NotificationPreference) : String × String × String :=
  (pref.userId, pref.kind, pref.channel)

abbrev PreferenceTable := Table NotificationPreference.key

def defaultChannels : List (String × List String) := [
  ("topup_credited", ["in_app", "email", "telegram"]),
  ("subscription_purchased", ["in_app", "email"]),
  ("subscription_expiring", ["in_app", "email", "telegram"]),
  ("subscription_expired", ["in_app", "email"]),
  ("webhook_failing", ["in_app", "telegram"]),
  ("bank_login_failed", ["in_app", "email", "telegram"])]

def validNotificationChannels : List String := ["in_app", "email", "telegram"]

def validKinds : List String := defaultChannels.map Prod.fst

/-- The defaults of a kind, and `in_app` for a kind that has none. -/
def defaultsOf (kind : String) : List String := (defaultChannels.lookup kind).getD ["in_app"]

def rowsOf (userId kind : String) (prefs : PreferenceTable) : List NotificationPreference :=
  prefs.rows.filter fun pref => pref.userId = userId && pref.kind = kind

def enabledChannels (userId kind : String) (prefs : PreferenceTable) : List String :=
  let rows := rowsOf userId kind prefs
  if rows.isEmpty then defaultsOf kind
  else (rows.filter NotificationPreference.enabled).map NotificationPreference.channel

structure PreferenceItem where
  kind : String
  channel : String
  enabled : Bool
deriving DecidableEq, Repr

def listPreferences (userId : String) (prefs : PreferenceTable) : List PreferenceItem :=
  defaultChannels.flatMap fun (kind, channels) =>
    validNotificationChannels.map fun channel =>
      let override := (prefs.find? (userId, kind, channel)).map NotificationPreference.enabled
      ⟨kind, channel, override.getD (channels.contains channel)⟩

abbrev PreferenceSession := EStateM Error PreferenceTable

def checkItem (item : PreferenceItem) : PreferenceSession Unit :=
  if !validKinds.contains item.kind then throw (.httpException 400 s!"unknown kind: {item.kind}")
  else if !validNotificationChannels.contains item.channel then
    throw (.httpException 400 s!"unknown channel: {item.channel}")
  else pure ()

def newPreference (userId kind channel : String) (enabled : Bool) : NotificationPreference where
  userId := userId
  kind := kind
  channel := channel
  enabled := enabled
  mutedUntil := none

@[simp] theorem key_newPreference (userId kind channel : String) (enabled : Bool) :
    (newPreference userId kind channel enabled).key = (userId, kind, channel) := rfl

def addPreference (pref : NotificationPreference) : PreferenceSession Unit := do
  match (← get).insert? pref with
  | some prefs => set prefs
  | none => throw .integrityError

def setEnabled (enabled : Bool) (pref : NotificationPreference) : NotificationPreference :=
  { pref with enabled }

@[simp] theorem key_setEnabled (enabled : Bool) (pref : NotificationPreference) :
    (setEnabled enabled pref).key = pref.key := rfl

def upsert (userId : String) (item : PreferenceItem) : PreferenceSession Unit := do
  let key := (userId, item.kind, item.channel)
  match (← get).find? key with
  | none => addPreference (newPreference userId item.kind item.channel item.enabled)
  | some _ => modify fun prefs =>
      prefs.modify key (setEnabled item.enabled) (key_setEnabled item.enabled)

def updatePreferences (userId : String) (items : List PreferenceItem) :
    PreferenceSession (List PreferenceItem) := do
  items.forM checkItem
  items.forM (upsert userId)
  pure (listPreferences userId (← get))

def setMuted (mutedUntil : Option DateTime) (pref : NotificationPreference) :
    NotificationPreference :=
  { pref with mutedUntil }

@[simp] theorem key_setMuted (mutedUntil : Option DateTime) (pref : NotificationPreference) :
    (setMuted mutedUntil pref).key = pref.key := rfl

/-- The end of a mute: as given, or a number of days from now. -/
def mutedUntil (until' : Option DateTime) (dayCount : Option Int) (now : Int) : Option DateTime :=
  until'.or (dayCount.map fun count => .utc (now + days count))

def muteNotification (userId kind channel : String) (until' : Option DateTime)
    (dayCount : Option Int) (now : Int) : PreferenceSession Unit := do
  let key := (userId, kind, channel)
  if ((← get).find? key).isNone then addPreference (newPreference userId kind channel true)
  modify fun prefs =>
    prefs.modify key (setMuted (mutedUntil until' dayCount now)) (key_setMuted _)

inductive Op where
  | update (userId : String) (items : List PreferenceItem)
  | mute (userId kind channel : String) (until' : Option DateTime) (dayCount : Option Int)
      (now : Int)

def perform : Op → PreferenceSession Unit
  | .update userId items => Effect.discard (updatePreferences userId items)
  | .mute userId kind channel until' dayCount now =>
      muteNotification userId kind channel until' dayCount now

/-- The rows that the next request sees. -/
def serve (prefs : PreferenceTable) (op : Op) : PreferenceTable := Effect.commit (perform op) prefs

/-- The matrix shows the pair as enabled. -/
def Shown (userId kind channel : String) (prefs : PreferenceTable) : Prop :=
  ⟨kind, channel, true⟩ ∈ listPreferences userId prefs

def MatrixAgrees (prefs : PreferenceTable) : Prop :=
  ∀ userId, ∀ kind ∈ validKinds, ∀ channel,
    Shown userId kind channel prefs ↔ channel ∈ enabledChannels userId kind prefs

def SetsOnePair (prefs : PreferenceTable) : Op → Prop
  | .update userId items => ∀ kind channel,
      (∀ item ∈ items, item.kind = kind ∧ item.channel = channel) →
        ∀ otherId otherKind otherChannel, (otherId, otherKind, otherChannel) ≠
          (userId, kind, channel) →
            (otherChannel ∈ enabledChannels otherId otherKind (serve prefs (.update userId items)) ↔
              otherChannel ∈ enabledChannels otherId otherKind prefs)
  | .mute .. => True

section Reading

variable {userId kind channel : String} {prefs : PreferenceTable}

theorem rowsOf_eq_nil_iff : rowsOf userId kind prefs = [] ↔
    ∀ channel, prefs.find? (userId, kind, channel) = none := by
  unfold rowsOf
  rw [List.filter_eq_nil_iff]
  constructor
  · intro none channel
    apply (Table.find?_eq_none_iff ..).mpr
    intro pref member same
    have user : pref.userId = userId := congrArg Prod.fst same
    have kinds : pref.kind = kind := congrArg (·.2.1) same
    exact none pref member (by simp [user, kinds])
  · intro none pref member own
    simp only [Bool.and_eq_true, decide_eq_true_eq] at own
    have absent := (Table.find?_eq_none_iff ..).mp (none pref.channel) pref member
    exact absent (by rw [NotificationPreference.key, own.1, own.2])

/-- Delivery: the stored rows of the kind, or the defaults while there are none. -/
theorem mem_enabledChannels_iff : channel ∈ enabledChannels userId kind prefs ↔
    (rowsOf userId kind prefs = [] ∧ channel ∈ defaultsOf kind) ∨
      ∃ pref, prefs.find? (userId, kind, channel) = some pref ∧ pref.enabled = true := by
  have stored : (∃ pref, prefs.find? (userId, kind, channel) = some pref ∧ pref.enabled = true) ↔
      ∃ pref ∈ rowsOf userId kind prefs, pref.enabled = true ∧ pref.channel = channel := by
    constructor
    · rintro ⟨pref, found, enabled⟩
      have key := Table.key_of_find? found
      have user : pref.userId = userId := congrArg Prod.fst key
      have kinds : pref.kind = kind := congrArg (·.2.1) key
      refine ⟨pref, List.mem_filter.mpr ⟨Table.mem_of_find? found, ?_⟩, enabled,
        congrArg (·.2.2) key⟩
      simp [user, kinds]
    · rintro ⟨pref, listed, enabled, rfl⟩
      obtain ⟨member, own⟩ := List.mem_filter.mp listed
      simp only [Bool.and_eq_true, decide_eq_true_eq] at own
      obtain ⟨rfl, rfl⟩ := own
      exact ⟨pref, Table.find?_of_mem member, enabled⟩
  rw [stored]
  unfold enabledChannels
  cases rows : rowsOf userId kind prefs with
  | nil => simp
  | cons first rest => simp [and_assoc]

theorem shown_iff : Shown userId kind channel prefs ↔
    ∃ channels, (kind, channels) ∈ defaultChannels ∧ channel ∈ validNotificationChannels ∧
      ((prefs.find? (userId, kind, channel)).map NotificationPreference.enabled).getD
        (channels.contains channel) = true := by
  unfold Shown listPreferences
  simp only [List.mem_flatMap, List.mem_map, Prod.exists, PreferenceItem.mk.injEq]
  constructor
  · rintro ⟨kind', channels, listed, channel', valid, rfl, rfl, enabled⟩
    exact ⟨channels, listed, valid, enabled⟩
  · rintro ⟨channels, listed, valid, enabled⟩
    exact ⟨kind, channels, listed, channel, valid, rfl, rfl, enabled⟩

end Reading

section Writing

variable {userId kind channel : String} {before after : PreferenceTable}
  {item : PreferenceItem} {items : List PreferenceItem}

/-- Rows for all items, and no other row touched. -/
structure Written (userId : String) (items : List PreferenceItem)
    (before after : PreferenceTable) : Prop where
  stored : ∀ item ∈ items, (after.find? (userId, item.kind, item.channel)).isSome = true
  others : ∀ key, (∀ item ∈ items, key ≠ (userId, item.kind, item.channel)) →
    after.find? key = before.find? key

theorem addPreference_returns (pref : NotificationPreference)
    (fresh : before.find? pref.key = none) :
    ∃ after, addPreference pref before = .ok () after ∧
      ∀ key, after.find? key = if pref.key = key then some pref else before.find? key := by
  obtain ⟨after, inserted⟩ := Table.insert?_of_fresh fresh
  refine ⟨after, ?_, Table.find?_insert? inserted⟩
  unfold addPreference
  simp only [bind, EStateM.bind, Effect.get_apply, inserted]
  rfl

theorem upsert_returns (userId : String) (item : PreferenceItem) (before : PreferenceTable) :
    ∃ after, upsert userId item before = .ok () after ∧ Written userId [item] before after := by
  unfold upsert
  simp only [bind, EStateM.bind, Effect.get_apply]
  cases found : before.find? (userId, item.kind, item.channel) with
  | none =>
      obtain ⟨after, returned, rows⟩ :=
        addPreference_returns (newPreference userId item.kind item.channel item.enabled) found
      refine ⟨after, returned, ?_, ?_⟩
      · intro other listed
        obtain rfl := List.mem_singleton.mp listed
        rw [rows, key_newPreference, if_pos rfl]
        rfl
      · intro key apart
        have different := apart item List.mem_cons_self
        rw [rows, key_newPreference, if_neg (Ne.symm different)]
  | some pref =>
      refine ⟨_, rfl, ?_, ?_⟩
      · intro other listed
        obtain rfl := List.mem_singleton.mp listed
        rw [Table.find?_modify, if_pos rfl, found]
        rfl
      · intro key apart
        rw [Table.find?_modify, if_neg (apart item List.mem_cons_self)]

theorem upserts_return (userId : String) (items : List PreferenceItem)
    (before : PreferenceTable) :
    ∃ after, items.forM (upsert userId) before = .ok () after ∧
      Written userId items before after := by
  induction items generalizing before with
  | nil => exact ⟨before, rfl, by simp, fun _ _ => rfl⟩
  | cons item rest ih =>
      obtain ⟨middle, first, one⟩ := upsert_returns userId item before
      obtain ⟨after, later, remaining⟩ := ih middle
      refine ⟨after, (Effect.bind_ok_iff ..).mpr ⟨(), middle, first, later⟩, ?_, ?_⟩
      · intro other listed
        by_cases again : ∃ same ∈ rest, (userId, other.kind, other.channel) =
            (userId, same.kind, same.channel)
        · obtain ⟨same, sameListed, equal⟩ := again
          rw [equal]
          exact remaining.stored same sameListed
        · rw [remaining.others _ fun same sameListed equal => again ⟨same, sameListed, equal⟩]
          rcases List.mem_cons.mp listed with rfl | later
          · exact one.stored other List.mem_cons_self
          · exact absurd ⟨other, later, rfl⟩ again
      · intro key apart
        rw [remaining.others key fun same listed => apart same (List.mem_cons_of_mem item listed)]
        exact one.others key fun same listed =>
          List.mem_singleton.mp listed ▸ apart item List.mem_cons_self

/-- The items of an update that is accepted. -/
def Acceptable (items : List PreferenceItem) : Prop :=
  ∀ item ∈ items, item.kind ∈ validKinds ∧ item.channel ∈ validNotificationChannels

theorem checkItem_ok_iff : checkItem item before = .ok () after ↔
    (item.kind ∈ validKinds ∧ item.channel ∈ validNotificationChannels) ∧ after = before := by
  unfold checkItem
  by_cases known : item.kind ∈ validKinds
  · by_cases valid : item.channel ∈ validNotificationChannels
    · simp [known, valid, eq_comm]
    · simp [known, valid]
  · simp [known]

theorem checkItems_ok_iff : items.forM checkItem before = .ok () after ↔
    Acceptable items ∧ after = before := by
  induction items with
  | nil =>
      have returned : ([] : List PreferenceItem).forM checkItem before = .ok () before := rfl
      rw [returned]
      simp [Acceptable, eq_comm]
  | cons item rest ih =>
      have all : Acceptable (item :: rest) ↔
          (item.kind ∈ validKinds ∧ item.channel ∈ validNotificationChannels) ∧
            Acceptable rest := List.forall_mem_cons
      rw [all]
      refine Iff.trans (Effect.bind_ok_iff (checkItem item) (fun _ => rest.forM checkItem) ..) ?_
      constructor
      · rintro ⟨⟨⟩, middle, first, later⟩
        obtain ⟨valid, rfl⟩ := checkItem_ok_iff.mp first
        obtain ⟨others, same⟩ := ih.mp later
        exact ⟨⟨valid, others⟩, same⟩
      · rintro ⟨⟨valid, others⟩, rfl⟩
        exact ⟨(), _, checkItem_ok_iff.mpr ⟨valid, rfl⟩, ih.mpr ⟨others, rfl⟩⟩

theorem serve_accepted (userId : String) (acceptable : Acceptable items) :
    Written userId items before (serve before (.update userId items)) := by
  obtain ⟨after, returned, written⟩ := upserts_return userId items before
  have checked : items.forM checkItem before = .ok () before :=
    checkItems_ok_iff.mpr ⟨acceptable, rfl⟩
  have served : serve before (.update userId items) = after := by
    simp only [serve, perform, updatePreferences, Effect.discard, bind, EStateM.bind,
      Effect.commit, checked, returned, Effect.get_apply, Effect.pure_apply]
  rw [served]
  exact written

theorem serve_refused (userId : String) (refused : ¬Acceptable items) :
    serve before (.update userId items) = before := by
  cases ran : perform (.update userId items) before with
  | error failure after => exact Effect.commit_of_error ran
  | ok value after =>
      obtain ⟨listed, returned⟩ := Effect.discard_ok ran
      obtain ⟨⟨⟩, middle, checked, -⟩ := (Effect.bind_ok_iff ..).mp returned
      exact absurd (checkItems_ok_iff.mp checked).1 refused

theorem written_muted (muting : Option DateTime) {middle : PreferenceTable}
    {pref : NotificationPreference}
    (apart : ∀ other, other ≠ (userId, kind, channel) → middle.find? other = before.find? other)
    (found : middle.find? (userId, kind, channel) = some pref) :
    Written userId [⟨kind, channel, true⟩] before
        (middle.modify (userId, kind, channel) (setMuted muting) (key_setMuted muting)) ∧
      ((middle.modify (userId, kind, channel) (setMuted muting) (key_setMuted muting)).find?
        (userId, kind, channel)).map NotificationPreference.enabled = some pref.enabled := by
  refine ⟨⟨?_, ?_⟩, ?_⟩
  · intro item listed
    obtain rfl := List.mem_singleton.mp listed
    rw [Table.find?_modify, if_pos rfl, found]
    rfl
  · intro other different
    have distinct := different ⟨kind, channel, true⟩ List.mem_cons_self
    rw [Table.find?_modify, if_neg distinct, apart other distinct]
  · rw [Table.find?_modify, if_pos rfl, found]
    rfl

/-- The muted row is there, enabled unless it was disabled before. -/
theorem serve_mute (userId kind channel : String) (until' : Option DateTime)
    (dayCount : Option Int) (now : Int) (before : PreferenceTable) :
    Written userId [⟨kind, channel, true⟩] before
        (serve before (.mute userId kind channel until' dayCount now)) ∧
      ((serve before (.mute userId kind channel until' dayCount now)).find?
        (userId, kind, channel)).map NotificationPreference.enabled =
          some (((before.find? (userId, kind, channel)).map
            NotificationPreference.enabled).getD true) := by
  let muting := mutedUntil until' dayCount now
  cases found : before.find? (userId, kind, channel) with
  | some pref =>
      have served : serve before (.mute userId kind channel until' dayCount now) =
          before.modify (userId, kind, channel) (setMuted muting) (key_setMuted muting) := by
        simp [serve, perform, muteNotification, bind, EStateM.bind, Effect.commit, found, muting]
      rw [served]
      exact written_muted muting (fun _ _ => rfl) found
  | none =>
      obtain ⟨middle, returned, rows⟩ :=
        addPreference_returns (newPreference userId kind channel true) found
      have served : serve before (.mute userId kind channel until' dayCount now) =
          middle.modify (userId, kind, channel) (setMuted muting) (key_setMuted muting) := by
        simp [serve, perform, muteNotification, bind, EStateM.bind, Effect.commit, found, muting,
          returned]
      rw [served]
      have stored : middle.find? (userId, kind, channel) =
          some (newPreference userId kind channel true) := by
        rw [rows, key_newPreference, if_pos rfl]
      apply written_muted muting ?_ stored
      intro other different
      rw [rows, key_newPreference, if_neg (Ne.symm different)]

end Writing

section Coverage

variable {userId kind channel : String} {channels : List String} {prefs : PreferenceTable}
  {items : List PreferenceItem}

/-- A user with a row of a kind has one for each default channel of the kind, and none
that is enabled for a channel outside the matrix. -/
structure Covers (userId kind : String) (channels : List String) (prefs : PreferenceTable) :
    Prop where
  stored : ∀ channel ∈ channels, (prefs.find? (userId, kind, channel)).isSome = true
  valid : ∀ channel pref, prefs.find? (userId, kind, channel) = some pref →
    pref.enabled = true → channel ∈ validNotificationChannels

def Covered (prefs : PreferenceTable) : Prop :=
  ∀ userId kind channels, (kind, channels) ∈ defaultChannels →
    rowsOf userId kind prefs = [] ∨ Covers userId kind channels prefs

/-- What keeps the matrix true. The first update of a kind has all default channels of the
kind; a mute that makes a row is for a kind that has rows and a channel of the matrix. -/
def CoversDefaults (prefs : PreferenceTable) : Op → Prop
  | .update userId items => Acceptable items → ∀ kind channels,
      (kind, channels) ∈ defaultChannels → rowsOf userId kind prefs = [] →
        (∃ item ∈ items, item.kind = kind) →
          ∀ channel ∈ channels, ∃ item ∈ items, item.kind = kind ∧ item.channel = channel
  | .mute userId kind channel _ _ _ => kind ∈ validKinds →
      (prefs.find? (userId, kind, channel)).isSome = true ∨
        rowsOf userId kind prefs ≠ [] ∧ channel ∈ validNotificationChannels

theorem defaultsOf_of_mem (listed : (kind, channels) ∈ defaultChannels) :
    defaultsOf kind = channels := by
  have all : ∀ pair ∈ defaultChannels, defaultsOf pair.1 = pair.2 := by decide
  exact all _ listed

theorem valid_of_default (listed : (kind, channels) ∈ defaultChannels)
    (default : channel ∈ channels) : channel ∈ validNotificationChannels := by
  have all : ∀ pair ∈ defaultChannels, ∀ channel ∈ pair.2,
      channel ∈ validNotificationChannels := by decide
  exact all _ listed _ default

theorem other_default (listed : (kind, channels) ∈ defaultChannels) (channel : String) :
    ∃ other ∈ channels, other ≠ channel := by
  have all : ∀ pair ∈ defaultChannels, ∃ first ∈ pair.2, ∃ second ∈ pair.2, first ≠ second := by
    decide
  obtain ⟨first, firstListed, second, secondListed, apart⟩ := all _ listed
  by_cases same : first = channel
  · exact ⟨second, secondListed, fun equal => apart (same.trans equal.symm)⟩
  · exact ⟨first, firstListed, same⟩

theorem rows_of_found {pref : NotificationPreference}
    (found : prefs.find? (userId, kind, channel) = some pref) : rowsOf userId kind prefs ≠ [] := by
  intro none
  rw [rowsOf_eq_nil_iff.mp none] at found
  cases found

theorem shown_of_mem (listed : (kind, channels) ∈ defaultChannels) :
    Shown userId kind channel prefs ↔ channel ∈ validNotificationChannels ∧
      ((prefs.find? (userId, kind, channel)).map NotificationPreference.enabled).getD
        (channels.contains channel) = true := by
  rw [shown_iff]
  constructor
  · rintro ⟨others, listedToo, shown⟩
    rw [← defaultsOf_of_mem listed, defaultsOf_of_mem listedToo]
    exact shown
  · intro shown
    exact ⟨channels, listed, shown⟩

theorem agrees_iff_covered : MatrixAgrees prefs ↔ Covered prefs := by
  constructor
  · intro agrees userId kind channels listed
    have here := agrees userId kind (List.mem_map_of_mem listed)
    rw [or_iff_not_imp_left]
    intro rows
    constructor
    · intro channel default
      by_contra absent
      rw [Option.not_isSome_iff_eq_none] at absent
      have shown : Shown userId kind channel prefs := by
        rw [shown_of_mem listed, absent]
        exact ⟨valid_of_default listed default, by simpa using default⟩
      rcases mem_enabledChannels_iff.mp ((here channel).mp shown) with ⟨none, -⟩ | ⟨pref, found, -⟩
      · exact rows none
      · rw [absent] at found
        cases found
    · intro channel pref found enabled
      have shown := (here channel).mpr (mem_enabledChannels_iff.mpr (.inr ⟨pref, found, enabled⟩))
      exact ((shown_of_mem listed).mp shown).1
  · intro covered userId kind known channel
    obtain ⟨⟨kind, channels⟩, listed, rfl⟩ := List.mem_map.mp known
    rw [shown_of_mem listed, mem_enabledChannels_iff, defaultsOf_of_mem listed]
    rcases covered userId kind channels listed with none | covers
    · have absent := rowsOf_eq_nil_iff.mp none channel
      simp only [absent, none, Option.map_none, Option.getD_none, List.contains_eq_mem,
        decide_eq_true_eq, true_and]
      constructor
      · intro shown
        exact .inl shown.2
      · rintro (default | ⟨pref, found, -⟩)
        · exact ⟨valid_of_default listed default, default⟩
        · cases found
    · cases found : prefs.find? (userId, kind, channel) with
      | some pref =>
          have rows := rows_of_found found
          simp only [rows, false_and, false_or, Option.map_some, Option.getD_some,
            Option.some.injEq, exists_eq_left']
          exact and_iff_right_of_imp (covers.valid channel pref found)
      | none =>
          have undefaulted : channel ∉ channels := by
            intro default
            have stored := covers.stored channel default
            rw [found] at stored
            cases stored
          simp [undefaulted]

end Coverage

section Steps

variable {userId kind channel : String} {prefs after : PreferenceTable}
  {items : List PreferenceItem}

theorem rows_of_other (written : Written userId items prefs after) {otherId : String}
    (other : otherId ≠ userId ∨ ∀ item ∈ items, item.kind ≠ kind) (channel : String) :
    after.find? (otherId, kind, channel) = prefs.find? (otherId, kind, channel) := by
  apply written.others
  intro item listed same
  rcases other with apart | apart
  · exact apart (congrArg Prod.fst same)
  · exact apart item listed (congrArg (·.2.1) same).symm

theorem stored_after_iff (written : Written userId items prefs after) (otherId kind channel) :
    (after.find? (otherId, kind, channel)).isSome = true ↔
      (prefs.find? (otherId, kind, channel)).isSome = true ∨
        otherId = userId ∧ ∃ item ∈ items, item.kind = kind ∧ item.channel = channel := by
  by_cases named : otherId = userId ∧ ∃ item ∈ items, item.kind = kind ∧ item.channel = channel
  · refine iff_of_true ?_ (.inr named)
    obtain ⟨rfl, item, listed, rfl, rfl⟩ := named
    exact written.stored item listed
  · rw [or_iff_left named, written.others]
    rintro item listed same
    obtain ⟨rfl, rfl, rfl⟩ : otherId = userId ∧ kind = item.kind ∧ channel = item.channel := by
      simpa using same
    exact named ⟨rfl, item, listed, rfl, rfl⟩

theorem rows_after (written : Written userId items prefs after) {item : PreferenceItem}
    (listed : item ∈ items) : rowsOf userId item.kind after ≠ [] := by
  obtain ⟨pref, found⟩ := Option.isSome_iff_exists.mp (written.stored item listed)
  exact rows_of_found found

/-- What is not written about stays covered. -/
theorem coverage_of_same {channels : List String}
    (same : ∀ channel, after.find? (userId, kind, channel) = prefs.find? (userId, kind, channel))
    (covered : rowsOf userId kind prefs = [] ∨ Covers userId kind channels prefs) :
    rowsOf userId kind after = [] ∨ Covers userId kind channels after := by
  rcases covered with none | covers
  · left
    rw [rowsOf_eq_nil_iff] at none ⊢
    intro channel
    rw [same, none]
  · right
    constructor
    · intro channel default
      rw [same]
      exact covers.stored channel default
    · intro channel pref found enabled
      rw [same] at found
      exact covers.valid channel pref found enabled

theorem covered_update_iff (covered : Covered prefs) (acceptable : Acceptable items)
    (written : Written userId items prefs after) :
    Covered after ↔ CoversDefaults prefs (.update userId items) := by
  constructor
  · intro covers _ kind channels listed none mentioned channel default
    obtain ⟨item, itemListed, rfl⟩ := mentioned
    have full := (covers userId item.kind channels listed).resolve_left
      (rows_after written itemListed)
    rcases (stored_after_iff written ..).mp (full.stored channel default) with old | named
    · rw [rowsOf_eq_nil_iff.mp none channel] at old
      cases old
    · exact named.2
  · intro first otherId kind channels listed
    by_cases touched : otherId = userId ∧ ∃ item ∈ items, item.kind = kind
    · obtain ⟨rfl, mentioned⟩ := touched
      right
      constructor
      · intro channel default
        apply (stored_after_iff written ..).mpr
        rcases covered otherId kind channels listed with none | covers
        · exact .inr ⟨rfl, first acceptable kind channels listed none mentioned channel default⟩
        · exact .inl (covers.stored channel default)
      · intro channel pref found enabled
        by_cases named : ∃ item ∈ items, item.kind = kind ∧ item.channel = channel
        · obtain ⟨item, itemListed, -, rfl⟩ := named
          exact (acceptable item itemListed).2
        · rw [written.others] at found
          · rcases covered otherId kind channels listed with none | covers
            · exact absurd none (rows_of_found found)
            · exact covers.valid channel pref found enabled
          · rintro item itemListed same
            obtain ⟨rfl, rfl⟩ : kind = item.kind ∧ channel = item.channel := by simpa using same
            exact named ⟨item, itemListed, rfl, rfl⟩
    · apply coverage_of_same ?_ (covered otherId kind channels listed)
      apply rows_of_other written
      by_cases own : otherId = userId
      · exact .inr fun item itemListed same => touched ⟨own, item, itemListed, same⟩
      · exact .inl own

theorem covered_mute_iff (covered : Covered prefs) (until' : Option DateTime)
    (dayCount : Option Int) (now : Int)
    (written : Written userId [⟨kind, channel, true⟩] prefs after)
    (enabled : (after.find? (userId, kind, channel)).map NotificationPreference.enabled =
      some (((prefs.find? (userId, kind, channel)).map NotificationPreference.enabled).getD true)) :
    Covered after ↔ CoversDefaults prefs (.mute userId kind channel until' dayCount now) := by
  have one {otherKind otherChannel : String} : (∃ item ∈ [(⟨kind, channel, true⟩ : PreferenceItem)],
      item.kind = otherKind ∧ item.channel = otherChannel) ↔
        kind = otherKind ∧ channel = otherChannel := by simp
  constructor
  · intro covers known
    obtain ⟨⟨kind, channels⟩, listed, rfl⟩ := List.mem_map.mp known
    rw [or_iff_not_imp_left]
    intro fresh
    rw [Option.not_isSome_iff_eq_none] at fresh
    have full := (covers userId kind channels listed).resolve_left
      (rows_after written List.mem_cons_self)
    refine ⟨?_, ?_⟩
    · intro none
      obtain ⟨other, default, apart⟩ := other_default listed channel
      rcases (stored_after_iff written ..).mp (full.stored other default) with old | ⟨-, named⟩
      · rw [rowsOf_eq_nil_iff.mp none other] at old
        cases old
      · exact apart (one.mp named).2.symm
    · rw [fresh, Option.map_none, Option.getD_none, Option.map_eq_some_iff] at enabled
      obtain ⟨pref, found, on⟩ := enabled
      exact full.valid channel pref found on
  · intro known otherId otherKind channels listed
    by_cases touched : otherId = userId ∧ kind = otherKind
    · obtain ⟨rfl, rfl⟩ := touched
      have condition := known (List.mem_map_of_mem listed)
      have rows : rowsOf otherId kind prefs ≠ [] := by
        rcases condition with found | ⟨rows, -⟩
        · obtain ⟨pref, found⟩ := Option.isSome_iff_exists.mp found
          exact rows_of_found found
        · exact rows
      have covers := (covered otherId kind channels listed).resolve_left rows
      right
      constructor
      · intro other default
        exact (stored_after_iff written ..).mpr (.inl (covers.stored other default))
      · intro other pref found on
        by_cases same : channel = other
        · subst same
          rcases condition with old | ⟨-, valid⟩
          · obtain ⟨before, foundBefore⟩ := Option.isSome_iff_exists.mp old
            rw [found, foundBefore] at enabled
            have kept : pref.enabled = before.enabled := by simpa using enabled
            exact covers.valid channel before foundBefore (kept.symm.trans on)
          · exact valid
        · rw [written.others] at found
          · exact covers.valid other pref found on
          · rintro item itemListed equal
            obtain rfl := List.mem_singleton.mp itemListed
            exact same (congrArg (·.2.2) equal).symm
    · apply coverage_of_same ?_ (covered otherId otherKind channels listed)
      apply rows_of_other written
      by_cases own : otherId = userId
      · right
        rintro item itemListed same
        obtain rfl := List.mem_singleton.mp itemListed
        exact touched ⟨own, same⟩
      · exact .inl own

theorem delivery_of_same (rows : rowsOf userId kind prefs = [] ↔ rowsOf userId kind after = [])
    (same : after.find? (userId, kind, channel) = prefs.find? (userId, kind, channel)) :
    channel ∈ enabledChannels userId kind after ↔
      channel ∈ enabledChannels userId kind prefs := by
  rw [mem_enabledChannels_iff, mem_enabledChannels_iff, rows, same]

theorem setsOnePair_of_covers (covers : CoversDefaults prefs (.update userId items)) :
    SetsOnePair prefs (.update userId items) := by
  intro kind channel all otherId otherKind otherChannel apart
  by_cases acceptable : Acceptable items
  · have written : Written userId items prefs (serve prefs (.update userId items)) :=
      serve_accepted userId acceptable
    by_cases touched : otherId = userId ∧ ∃ item ∈ items, item.kind = otherKind
    · obtain ⟨rfl, item, listed, rfl⟩ := touched
      obtain ⟨rfl, rfl⟩ := all item listed
      have known := (acceptable item listed).1
      obtain ⟨⟨known, channels⟩, defaults, same⟩ := List.mem_map.mp known
      obtain rfl : known = item.kind := same
      have rows : rowsOf otherId item.kind prefs ≠ [] := by
        intro none
        obtain ⟨other, default, different⟩ := other_default defaults item.channel
        obtain ⟨second, secondListed, -, rfl⟩ :=
          covers acceptable item.kind channels defaults none ⟨item, listed, rfl⟩ other default
        exact different (all second secondListed).2
      apply delivery_of_same (iff_of_false rows (rows_after written listed))
      apply written.others
      intro second secondListed equal
      obtain ⟨sameKind, sameChannel⟩ := all second secondListed
      exact apart (by rw [equal, sameKind, sameChannel])
    · have other : otherId ≠ userId ∨ ∀ item ∈ items, item.kind ≠ otherKind := by
        by_cases own : otherId = userId
        · exact .inr fun item listed equal => touched ⟨own, item, listed, equal⟩
        · exact .inl own
      have same := rows_of_other written other
      apply delivery_of_same ?_ (same otherChannel)
      simp only [rowsOf_eq_nil_iff, same]
  · rw [serve_refused userId acceptable]

theorem step_agrees_iff (op : Op) (agrees : MatrixAgrees prefs) :
    (MatrixAgrees (serve prefs op) ∧ SetsOnePair prefs op) ↔ CoversDefaults prefs op := by
  have covered := agrees_iff_covered.mp agrees
  rw [agrees_iff_covered]
  cases op with
  | update userId items =>
      have after : Covered (serve prefs (.update userId items)) ↔
          CoversDefaults prefs (.update userId items) := by
        by_cases acceptable : Acceptable items
        · exact covered_update_iff covered acceptable (serve_accepted userId acceptable)
        · rw [serve_refused userId acceptable]
          exact iff_of_true covered fun accepted => absurd accepted acceptable
      rw [after]
      exact and_iff_left_of_imp setsOnePair_of_covers
  | mute userId kind channel until' dayCount now =>
      obtain ⟨written, enabled⟩ := serve_mute userId kind channel until' dayCount now prefs
      rw [covered_mute_iff covered until' dayCount now written enabled]
      exact and_iff_left trivial

end Steps

/-- From a table whose matrix is true, it stays true after every request of a run, with
each update of one pair touching no other, if and only if every first write of a kind
covers the defaults of the kind. -/
theorem matrix_agrees_iff (start : PreferenceTable) (agrees : MatrixAgrees start)
    (ops : List Op) :
    Run.Along (fun prefs op => MatrixAgrees (serve prefs op) ∧ SetsOnePair prefs op) serve start
        ops ↔ Run.Along CoversDefaults serve start ops :=
  Run.along_iff MatrixAgrees (fun _ op agrees => step_agrees_iff op agrees)
    (fun _ _ _ kept => kept.1) agrees

theorem empty_agrees : MatrixAgrees .empty :=
  agrees_iff_covered.mpr fun userId kind _ _ =>
    .inl (rowsOf_eq_nil_iff.mpr fun channel => Table.find?_empty (userId, kind, channel))

def wholeKind : Op := .update "user" [
  ⟨"topup_credited", "in_app", true⟩,
  ⟨"topup_credited", "email", false⟩,
  ⟨"topup_credited", "telegram", true⟩]

theorem matrix_agrees_iff_whole_kind :
    MatrixAgrees .empty ∧
      Run.Along (fun prefs op => MatrixAgrees (serve prefs op) ∧ SetsOnePair prefs op) serve .empty
        [wholeKind] := by
  refine ⟨empty_agrees, (matrix_agrees_iff .empty empty_agrees [wholeKind]).mpr ⟨?_, trivial⟩⟩
  intro _ kind channels listed _ mentioned
  obtain ⟨item, itemListed, rfl⟩ := mentioned
  have named : item.kind = "topup_credited" := by
    have all : ∀ item ∈ [(⟨"topup_credited", "in_app", true⟩ : PreferenceItem),
        ⟨"topup_credited", "email", false⟩, ⟨"topup_credited", "telegram", true⟩],
          item.kind = "topup_credited" := by decide
    exact all item itemListed
  rw [named] at listed ⊢
  obtain rfl : defaultsOf "topup_credited" = channels := defaultsOf_of_mem listed
  decide

/-- One channel is turned off, and the matrix still shows the two others. -/
def oneChannel : Op := .update "user" [⟨"topup_credited", "email", false⟩]

theorem one_channel_silences_kind : ¬∀ start ops, MatrixAgrees start →
    Run.Along (fun prefs op => MatrixAgrees (serve prefs op) ∧ SetsOnePair prefs op) serve start
      ops := by
  intro all
  have agrees := (all .empty [oneChannel] empty_agrees).1.1
  have shown : Shown "user" "topup_credited" "in_app" (serve .empty oneChannel) := by
    unfold Shown
    decide
  have delivered := (agrees "user" "topup_credited" (by decide) "in_app").mp shown
  exact absurd delivered (by decide)

end ApiBank.Notifications.Preferences
