import ApiBank.Config.Runtime
import ApiBank.Notifications.Preferences

/-!
# Muted notifications

`mute_notification` stores the end of a mute in the preference row of a kind and a channel,
and adds an enabled row when there is none. `notify` writes a row of the outbox for each
channel it delivers on. It does not read the end of a mute.
-/

namespace ApiBank.Notifications.Mutes

open ApiBank.Config.Runtime (setField)
open ApiBank.Db
open ApiBank.Notifications.Preferences

set_option autoImplicit false

structure User where
  id : String
  email : String
  telegramChatId : Option String
  deriving DecidableEq, Repr

/-- A new row of the outbox, under an id of its own. -/
structure Notification where
  userId : String
  channel : String
  kind : String
  title : String
  body : Option String
  payloadJson : Metadata
  status : String
  sentAt : Option Int
  nextRunAt : Int
  maxAttempts : Nat

structure Message where
  title : String
  body : Option String
  payload : Option Metadata

def maxAttempts : Nat := 5

/-- `create_in_app`, and the delivery that `notify` enters at once. -/
def inAppRow (user : User) (kind : String) (message : Message) (now : Int) : Notification where
  userId := user.id
  channel := "in_app"
  kind := kind
  title := message.title
  body := message.body
  payloadJson := message.payload.getD []
  status := "sent"
  sentAt := some now
  nextRunAt := now
  maxAttempts := maxAttempts

def pendingRow (channel field address : String) (user : User) (kind : String)
    (message : Message) (now : Int) : Notification where
  userId := user.id
  channel := channel
  kind := kind
  title := message.title
  body := message.body
  payloadJson := setField (message.payload.getD []) field (.text address)
  status := "pending"
  sentAt := none
  nextRunAt := now
  maxAttempts := maxAttempts

def emailRow (user : User) : String → Message → Int → Notification :=
  pendingRow "email" "to" user.email user

def telegramRow (user : User) (chatId : String) : String → Message → Int → Notification :=
  pendingRow "telegram" "chat_id" chatId user

/-- `notify`: the rows that are added. -/
def notify (user : User) (kind : String) (message : Message) (now : Int)
    (prefs : PreferenceTable) : List Notification :=
  let channels := enabledChannels user.id kind prefs
  let chatId := user.telegramChatId.getD ""
  (if "in_app" ∈ channels then [inAppRow user kind message now] else []) ++
    (if "email" ∈ channels then [emailRow user kind message now] else []) ++
      if "telegram" ∈ channels ∧ chatId ≠ "" then [telegramRow user chatId kind message now]
      else []

def onChannel (channel : String) (rows : List Notification) : List Notification :=
  rows.filter fun row => row.channel = channel

/-- A mute that is still to end, and what `notify` writes afterwards. -/
structure MuteHonoured (user : User) (kind channel : String) (muting : DateTime) (now : Int)
    (before after : PreferenceTable) : Prop where
  suppressed : ∀ message later, now ≤ later → later < muting.instant →
    onChannel channel (notify user kind message later after) = []
  siblings : ∀ other, other ≠ channel → ∀ message later,
    onChannel other (notify user kind message later after) =
      onChannel other (notify user kind message later before)
  otherKinds : ∀ otherKind, otherKind ≠ kind → ∀ message later,
    notify user otherKind message later after = notify user otherKind message later before
  afterwards : ∀ message later, muting.instant ≤ later →
    notify user kind message later after = notify user kind message later before

/-- `notify` has a way to deliver on the channel. -/
def Deliverable (user : User) (channel : String) : Prop :=
  channel = "in_app" ∨ channel = "email" ∨
    channel = "telegram" ∧ user.telegramChatId.getD "" ≠ ""

instance (user : User) (channel : String) : Decidable (Deliverable user channel) :=
  inferInstanceAs (Decidable (_ ∨ _))

def SilentAlready (user : User) (kind channel : String) (prefs : PreferenceTable) : Prop :=
  rowsOf user.id kind prefs ≠ [] ∧
    (¬Deliverable user channel ∨
      (prefs.find? (user.id, kind, channel)).map NotificationPreference.enabled = some false)

/-! ## What `notify` writes -/

section Deliveries

variable {user : User} {kind channel : String} {message : Message} {now : Int}
  {prefs after : PreferenceTable}

theorem onChannel_ite (holds : Prop) [Decidable holds] (row : Notification) :
    onChannel channel (if holds then [row] else []) =
      if holds ∧ row.channel = channel then [row] else [] := by
  by_cases added : holds
  · by_cases same : row.channel = channel <;> simp [onChannel, added, same]
  · simp [onChannel, added]

theorem onChannel_notify :
    onChannel channel (notify user kind message now prefs) =
      (if "in_app" ∈ enabledChannels user.id kind prefs ∧ "in_app" = channel then
          [inAppRow user kind message now] else []) ++
        (if "email" ∈ enabledChannels user.id kind prefs ∧ "email" = channel then
          [emailRow user kind message now] else []) ++
        if ("telegram" ∈ enabledChannels user.id kind prefs ∧
            user.telegramChatId.getD "" ≠ "") ∧ "telegram" = channel then
          [telegramRow user (user.telegramChatId.getD "") kind message now] else [] := by
  have split : ∀ first second : List Notification,
      onChannel channel (first ++ second) = onChannel channel first ++ onChannel channel second :=
    fun first second => List.filter_append first second
  rw [notify, split, split, onChannel_ite, onChannel_ite, onChannel_ite]
  rfl

/-- A channel gets a row exactly when it is enabled and there is a way to deliver on it. -/
theorem onChannel_notify_eq_nil_iff :
    onChannel channel (notify user kind message now prefs) = [] ↔
      ¬(channel ∈ enabledChannels user.id kind prefs ∧ Deliverable user channel) := by
  rw [onChannel_notify, Deliverable]
  constructor
  · intro none delivered
    obtain ⟨enabled, rfl | rfl | ⟨rfl, chat⟩⟩ := delivered
    · simp [enabled] at none
    · simp [enabled] at none
    · simp [enabled, chat] at none
  · intro silent
    have inApp : ¬("in_app" ∈ enabledChannels user.id kind prefs ∧ "in_app" = channel) := by
      intro delivered
      exact silent ⟨delivered.2 ▸ delivered.1, .inl delivered.2.symm⟩
    have email : ¬("email" ∈ enabledChannels user.id kind prefs ∧ "email" = channel) := by
      intro delivered
      exact silent ⟨delivered.2 ▸ delivered.1, .inr (.inl delivered.2.symm)⟩
    have telegram : ¬(("telegram" ∈ enabledChannels user.id kind prefs ∧
        user.telegramChatId.getD "" ≠ "") ∧ "telegram" = channel) := by
      intro delivered
      exact silent ⟨delivered.2 ▸ delivered.1.1, .inr (.inr ⟨delivered.2.symm, delivered.1.2⟩)⟩
    rw [if_neg inApp, if_neg email, if_neg telegram]
    rfl

/-- Only the channels with a way to deliver on them count. -/
theorem notify_congr
    (same : ∀ channel, Deliverable user channel →
      (channel ∈ enabledChannels user.id kind after ↔
        channel ∈ enabledChannels user.id kind prefs)) :
    notify user kind message now after = notify user kind message now prefs := by
  have inApp := same "in_app" (.inl rfl)
  have email := same "email" (.inr (.inl rfl))
  have telegram : ("telegram" ∈ enabledChannels user.id kind after ∧
      user.telegramChatId.getD "" ≠ "") ↔
        "telegram" ∈ enabledChannels user.id kind prefs ∧ user.telegramChatId.getD "" ≠ "" :=
    and_congr_left fun chat => same "telegram" (.inr (.inr ⟨rfl, chat⟩))
  simp only [notify, inApp, email, telegram]

theorem onChannel_congr
    (same : Deliverable user channel →
      (channel ∈ enabledChannels user.id kind after ↔
        channel ∈ enabledChannels user.id kind prefs)) :
    onChannel channel (notify user kind message now after) =
      onChannel channel (notify user kind message now prefs) := by
  have inApp : ("in_app" ∈ enabledChannels user.id kind after ∧ "in_app" = channel) ↔
      "in_app" ∈ enabledChannels user.id kind prefs ∧ "in_app" = channel := by
    apply and_congr_left
    rintro rfl
    exact same (.inl rfl)
  have email : ("email" ∈ enabledChannels user.id kind after ∧ "email" = channel) ↔
      "email" ∈ enabledChannels user.id kind prefs ∧ "email" = channel := by
    apply and_congr_left
    rintro rfl
    exact same (.inr (.inl rfl))
  have telegram : (("telegram" ∈ enabledChannels user.id kind after ∧
      user.telegramChatId.getD "" ≠ "") ∧ "telegram" = channel) ↔
        ("telegram" ∈ enabledChannels user.id kind prefs ∧
          user.telegramChatId.getD "" ≠ "") ∧ "telegram" = channel := by
    apply and_congr_left
    rintro rfl
    exact and_congr_left fun chat => same (.inr (.inr ⟨rfl, chat⟩))
  rw [onChannel_notify, onChannel_notify]
  simp only [inApp, email, telegram]

end Deliveries

/-! ## What a mute changes -/

section Muting

variable {user : User} {kind channel : String} {prefs after : PreferenceTable}

/-- The row of the pair is there afterwards, enabled unless it was disabled; all other rows
are as they were. -/
structure Muted (user : User) (kind channel : String) (prefs after : PreferenceTable) : Prop where
  own : (after.find? (user.id, kind, channel)).map NotificationPreference.enabled =
    some (((prefs.find? (user.id, kind, channel)).map NotificationPreference.enabled).getD true)
  others : ∀ otherKind other, (otherKind, other) ≠ (kind, channel) →
    after.find? (user.id, otherKind, other) = prefs.find? (user.id, otherKind, other)

theorem muted_serve (user : User) (kind channel : String) (until' : Option DateTime)
    (dayCount : Option Int) (now : Int) (prefs : PreferenceTable) :
    Muted user kind channel prefs
      (serve prefs (.mute user.id kind channel until' dayCount now)) := by
  have served := serve_mute user.id kind channel until' dayCount now prefs
  constructor
  · exact served.2
  · intro otherKind other apart
    apply served.1.others
    intro item listed same
    rw [List.mem_singleton.mp listed] at same
    exact apart (congrArg Prod.snd same)

theorem rows_of_muted (muted : Muted user kind channel prefs after) :
    rowsOf user.id kind after ≠ [] := by
  intro none
  have own := muted.own
  rw [rowsOf_eq_nil_iff.mp none channel] at own
  cases own

/-- The muted channel delivers afterwards unless its row was disabled. -/
theorem enabled_after_iff (muted : Muted user kind channel prefs after) :
    channel ∈ enabledChannels user.id kind after ↔
      (prefs.find? (user.id, kind, channel)).map NotificationPreference.enabled ≠ some false := by
  rw [mem_enabledChannels_iff]
  have rows := rows_of_muted muted
  have own := muted.own
  cases found : after.find? (user.id, kind, channel) with
  | none =>
      rw [found] at own
      cases own
  | some pref =>
      rw [found, Option.map_some, Option.some.injEq] at own
      cases stored : (prefs.find? (user.id, kind, channel)).map NotificationPreference.enabled with
      | none =>
          rw [stored] at own
          simp [rows, own]
      | some enabled =>
          rw [stored] at own
          simp [rows, own]

theorem sibling_iff (muted : Muted user kind channel prefs after)
    (rows : rowsOf user.id kind prefs ≠ []) {other : String} (apart : other ≠ channel) :
    other ∈ enabledChannels user.id kind after ↔ other ∈ enabledChannels user.id kind prefs := by
  apply delivery_of_same (iff_of_false rows (rows_of_muted muted))
  apply muted.others
  intro same
  exact apart (congrArg Prod.snd same)

theorem otherKind_iff (muted : Muted user kind channel prefs after) {otherKind : String}
    (apart : otherKind ≠ kind) (other : String) :
    other ∈ enabledChannels user.id otherKind after ↔
      other ∈ enabledChannels user.id otherKind prefs := by
  have same : ∀ other, after.find? (user.id, otherKind, other) =
      prefs.find? (user.id, otherKind, other) := by
    intro other
    apply muted.others
    intro equal
    exact apart (congrArg Prod.fst equal)
  have rows : rowsOf user.id otherKind prefs = [] ↔ rowsOf user.id otherKind after = [] := by
    rw [rowsOf_eq_nil_iff, rowsOf_eq_nil_iff]
    simp only [same]
  exact delivery_of_same rows (same other)

/-- `in_app` is a default of every kind. -/
theorem in_app_default (kind : String) : "in_app" ∈ defaultsOf kind := by
  have all : ∀ pair ∈ defaultChannels, "in_app" ∈ pair.2 := by decide
  unfold defaultsOf
  cases found : defaultChannels.lookup kind with
  | none => exact List.mem_singleton_self _
  | some channels =>
      obtain ⟨before, rest, split, -⟩ := List.lookup_eq_some_iff.mp found
      exact all (kind, channels) (by rw [split]; simp)

theorem in_app_lost (muted : Muted user kind channel prefs after)
    (none : rowsOf user.id kind prefs = []) (apart : "in_app" ≠ channel) :
    "in_app" ∈ enabledChannels user.id kind prefs ∧
      "in_app" ∉ enabledChannels user.id kind after := by
  constructor
  · exact mem_enabledChannels_iff.mpr (.inl ⟨none, in_app_default kind⟩)
  · intro enabled
    have unchanged := muted.others kind "in_app" fun same => apart (congrArg Prod.snd same)
    rw [rowsOf_eq_nil_iff.mp none] at unchanged
    cases mem_enabledChannels_iff.mp enabled with
    | inl defaults => exact rows_of_muted muted defaults.1
    | inr stored =>
        obtain ⟨pref, found, -⟩ := stored
        rw [unchanged] at found
        cases found

theorem silent_of_honoured {muting : DateTime} {now : Int}
    (muted : Muted user kind channel prefs after) (pending : now < muting.instant)
    (honoured : MuteHonoured user kind channel muting now prefs after) :
    SilentAlready user kind channel prefs := by
  have quiet := onChannel_notify_eq_nil_iff.mp
    (honoured.suppressed ⟨"", none, none⟩ now (Int.le_refl _) pending)
  rw [enabled_after_iff muted] at quiet
  by_cases deliverable : Deliverable user channel
  · have disabled : (prefs.find? (user.id, kind, channel)).map NotificationPreference.enabled =
        some false := by
      by_contra enabled
      exact quiet ⟨enabled, deliverable⟩
    refine ⟨?_, .inr disabled⟩
    intro none
    rw [rowsOf_eq_nil_iff.mp none] at disabled
    cases disabled
  · refine ⟨?_, .inl deliverable⟩
    intro none
    have apart : "in_app" ≠ channel := fun same => deliverable (.inl same.symm)
    have lost := in_app_lost muted none apart
    have same := honoured.siblings "in_app" apart ⟨"", .none, .none⟩ now
    rw [onChannel_notify_eq_nil_iff.mpr fun delivered => lost.2 delivered.1] at same
    exact onChannel_notify_eq_nil_iff.mp same.symm ⟨lost.1, .inl rfl⟩

theorem honoured_of_silent {muting : DateTime} {now : Int}
    (muted : Muted user kind channel prefs after)
    (silent : SilentAlready user kind channel prefs) :
    MuteHonoured user kind channel muting now prefs after := by
  -- the channel delivers neither before nor afterwards
  have quietAfter : ¬(channel ∈ enabledChannels user.id kind after ∧ Deliverable user channel) := by
    rw [enabled_after_iff muted]
    cases silent.2 with
    | inl undeliverable => exact fun delivered => undeliverable delivered.2
    | inr disabled => exact fun delivered => delivered.1 disabled
  have quietBefore : ¬(channel ∈ enabledChannels user.id kind prefs ∧
      Deliverable user channel) := by
    cases silent.2 with
    | inl undeliverable => exact fun delivered => undeliverable delivered.2
    | inr disabled =>
        intro delivered
        cases mem_enabledChannels_iff.mp delivered.1 with
        | inl defaults => exact silent.1 defaults.1
        | inr stored =>
            obtain ⟨pref, found, enabled⟩ := stored
            rw [found, Option.map_some, enabled] at disabled
            cases disabled
  have same : ∀ other, Deliverable user other →
      (other ∈ enabledChannels user.id kind after ↔
        other ∈ enabledChannels user.id kind prefs) := by
    intro other deliverable
    by_cases own : other = channel
    · subst own
      exact iff_of_false (fun enabled => quietAfter ⟨enabled, deliverable⟩)
        fun enabled => quietBefore ⟨enabled, deliverable⟩
    · exact sibling_iff muted silent.1 own
  exact
    { suppressed := fun _ _ _ _ => onChannel_notify_eq_nil_iff.mpr quietAfter
      siblings := fun _ apart _ _ => onChannel_congr fun _ => sibling_iff muted silent.1 apart
      otherKinds := fun _ apart _ _ => notify_congr fun other _ => otherKind_iff muted apart other
      afterwards := fun _ _ _ => notify_congr same }

end Muting

/-- A mute that is still to end is honoured, with no effect on other channels and kinds,
exactly when the channel was silent already and the user has a row of the kind. -/
theorem mute_honoured_iff (user : User) (kind channel : String) (until' : Option DateTime)
    (dayCount : Option Int) (now : Int) (prefs : PreferenceTable) (muting : DateTime)
    (_ends : mutedUntil until' dayCount now = some muting) (pending : now < muting.instant) :
    MuteHonoured user kind channel muting now prefs
        (serve prefs (.mute user.id kind channel until' dayCount now)) ↔
      SilentAlready user kind channel prefs := by
  have muted := muted_serve user kind channel until' dayCount now prefs
  exact ⟨silent_of_honoured muted pending, honoured_of_silent muted⟩

def subscriber : User := ⟨"usr_1", "user@example.com", some "4711"⟩

theorem seven_days_honoured_iff :
    MuteHonoured subscriber "topup_credited" "email" (.utc (days 7)) 0 .empty
        (serve .empty (.mute "usr_1" "topup_credited" "email" none (some 7) 0)) ↔
      SilentAlready subscriber "topup_credited" "email" .empty :=
  mute_honoured_iff subscriber "topup_credited" "email" none (some 7) 0 .empty (.utc (days 7))
    rfl (by decide)

/-- A mute of the mail for a week leaves the mail as the only channel. -/
theorem mute_turns_the_others_off :
    ¬ ∀ (user : User) (kind channel : String) (dayCount now : Int) (prefs : PreferenceTable),
      0 < dayCount → MuteHonoured user kind channel (.utc (now + days dayCount)) now prefs
        (serve prefs (.mute user.id kind channel none (some dayCount) now)) := by
  intro honoured
  have week := honoured subscriber "topup_credited" "email" 7 0 .empty (by decide)
  have muted := muted_serve subscriber "topup_credited" "email" none (some 7) 0 .empty
  exact (silent_of_honoured muted (by decide) week).1 (by decide)

end ApiBank.Notifications.Mutes
