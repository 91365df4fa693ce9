import ApiBank.Config.Runtime
import Mathlib.Data.List.Induction

/-!
# Configuration fields over a sequence of writes

Successive calls of `set_config` under one key, what a call of `get_decrypted` with a fresh
cache returns after them, and what `public_view` makes of the stored payload. Secrets are
stored as tokens under names that end in `_enc`.
-/

namespace ApiBank.Config.FieldWrites

open ApiBank.Config.Runtime
open ApiBank.Db
open ApiBank.Relational
open ApiBank.Transition

set_option autoImplicit false

/-- The payload of a row after the calls, each of which is committed before the next. -/
def storedAfter (cipher : Option Cipher) (calls : List SetRequest) :
    Except Error (Option Metadata) :=
  calls.foldlM (fun row request =>
    (merged cipher request row).map fun newValue => some (flushed row row newValue)) none

/-- `get_decrypted` with a fresh cache and nobody else at work. -/
def getDecrypted (cipher : Option Cipher) (encryptedFields : List String) (now : Int)
    (row : Option Metadata) : Option Metadata :=
  let process := [Event.start 0, .read 0, .fill 0].foldl (step cipher encryptedFields)
    (opening now row)
  process.answers.head?.map Answer.payload

/-- `key.endswith(suffix)`. -/
def EndsIn (suffix name : String) : Prop := suffix.toList <:+ name.toList

instance (suffix name : String) : Decidable (EndsIn suffix name) :=
  inferInstanceAs (Decidable (_ <:+ _))

/-- `k[:-4]`. -/
def withoutEnc (name : String) : String := String.ofList (name.toList.take (name.toList.length - 4))

/-- One round of the first loop of `public_view`. -/
def showField (encryptedFields : List String) (out : Metadata) (entry : String × Json) :
    Metadata :=
  if EndsIn "_enc" entry.1 then
    if withoutEnc entry.1 ∈ encryptedFields then
      setField out (withoutEnc entry.1 ++ "_set") (.bool entry.2.truthy)
    else out
  else setField out entry.1 entry.2

def publicView (payload : Metadata) (encryptedFields : List String) : Metadata :=
  encryptedFields.foldl (fun out field => setDefault out (field ++ "_set") (.bool false))
    (payload.foldl (showField encryptedFields) [])

/-! ## What the calls mention -/

def valuesOf (entries : Metadata) (field : String) : List Json :=
  entries.filterMap fun entry => if entry.1 = field then some entry.2 else none

def mentions (calls : List SetRequest) (field : String) : List Json :=
  valuesOf (calls.flatMap SetRequest.value) field

def lastValue (calls : List SetRequest) (field : String) : Option Json :=
  (mentions calls field).getLast?

def lastSecret (calls : List SetRequest) (field : String) : Option Json :=
  ((mentions calls field).filter fun value => !isEmptySecret value).getLast?

/-- The value itself, or one that `==` takes for it. -/
def SameValue (value read : Json) : Prop := read = value ∨ equal value read = true

/-- What a reader gets: the last value of a plain field, and of a secret field the text of
the last value that was not blank. -/
def FieldWise (str : Json → String) (encryptedFields : List String) (calls : List SetRequest)
    (payload : Metadata) : Prop :=
  ∀ field, if field ∈ encryptedFields then
      payload.lookup field =
        some (((lastSecret calls field).map fun value => .text (str value)).getD .null)
    else Option.Rel SameValue (lastValue calls field) (payload.lookup field)

/-- What `public_view` shows of secrets. -/
structure HidesSecrets (encryptedFields : List String) (calls : List SetRequest)
    (shown : Metadata) : Prop where
  noToken : ∀ entry ∈ shown, ¬EndsIn "_enc" entry.1
  reported : ∀ field ∈ encryptedFields,
    shown.lookup (field ++ "_set") = some (.bool (lastSecret calls field).isSome)

/-- Calls with one set of encrypted fields that preserve blank secrets and name no field
like a token or a report. -/
structure Uniform (encryptedFields : List String) (calls : List SetRequest) : Prop where
  fields : ∀ call ∈ calls, ∀ field, field ∈ call.encryptFields ↔ field ∈ encryptedFields
  preserving : ∀ call ∈ calls, call.preserveEmptySecrets = true
  names : ∀ call ∈ calls, ∀ entry ∈ call.value, ¬EndsIn "_enc" entry.1 ∧ ¬EndsIn "_set" entry.1

def Encrypts (cipher : Option Cipher) (str : Json → String) (calls : List SetRequest) : Prop :=
  ∀ keys, cipher = some keys → ∀ call ∈ calls, ∀ value,
    call.token value ≠ "" ∧ keys.decrypt (call.token value) = some (str value)

/-! ## Fields of a payload -/

section Fields

variable {payload : Metadata} {field name : String} {value : Json}

theorem lookup_cons_eq (entry : String × Json) (rest : Metadata) (name : String) :
    List.lookup name (entry :: rest) =
      if name = entry.1 then some entry.2 else rest.lookup name := by
  obtain ⟨key, value⟩ := entry
  by_cases same : name = key
  · simp [same]
  · have apart : (name == key) = false := by simp [same]
    simp [List.lookup_cons, same, apart]

theorem lookup_isSome : (payload.any fun entry => entry.1 = name) = (payload.lookup name).isSome := by
  induction payload with
  | nil => rfl
  | cons entry rest ih =>
      rw [List.any_cons, lookup_cons_eq, ih]
      by_cases same : name = entry.1
      · simp [same]
      · have apart : ¬entry.1 = name := fun equal => same equal.symm
        simp [same, apart]

theorem lookup_eq_none_iff :
    payload.lookup name = none ↔ ∀ entry ∈ payload, entry.1 ≠ name := by
  rw [← Option.not_isSome_iff_eq_none, ← lookup_isSome, List.any_eq_true]
  constructor
  · intro none entry member same
    exact none ⟨entry, member, decide_eq_true same⟩
  · intro apart named
    obtain ⟨entry, member, same⟩ := named
    exact apart entry member (of_decide_eq_true same)

theorem lookup_replaced :
    List.lookup name (payload.map fun entry => if entry.1 = field then (field, value) else entry) =
      if name = field then (payload.lookup field).map fun _ => value else payload.lookup name := by
  induction payload with
  | nil => simp
  | cons entry rest ih =>
      rw [List.map_cons, lookup_cons_eq, ih, lookup_cons_eq, lookup_cons_eq]
      by_cases own : entry.1 = field
      · by_cases same : name = field
        · simp [own, same]
        · simp [own, same]
      · by_cases same : name = field
        · have apart : ¬field = entry.1 := fun equal => own equal.symm
          simp [own, same, apart]
        · simp [own, same]

theorem lookup_snoc : List.lookup name (payload ++ [(field, value)]) =
    (payload.lookup name).or (if name = field then some value else none) := by
  rw [List.lookup_append, lookup_cons_eq]
  rfl

theorem lookup_setField : (setField payload field value).lookup name =
    if name = field then some value else payload.lookup name := by
  unfold setField
  rw [lookup_isSome]
  cases found : payload.lookup field with
  | some old =>
      rw [if_pos Option.isSome_some, lookup_replaced, found]
      rfl
  | none =>
      rw [if_neg (by decide), lookup_snoc]
      by_cases same : name = field
      · simp [same, found]
      · simp [same]

theorem lookup_popField : (popField payload field).lookup name =
    if name = field then none else payload.lookup name := by
  unfold popField
  induction payload with
  | nil => simp
  | cons entry rest ih =>
      rw [lookup_cons_eq]
      by_cases popped : entry.1 = field
      · rw [List.filter_cons_of_neg (by simp [popped]), ih]
        by_cases same : name = field
        · simp [same]
        · simp [same, popped]
      · rw [List.filter_cons_of_pos (by simp [popped]), lookup_cons_eq, ih]
        by_cases own : name = entry.1
        · have apart : ¬name = field := fun equal => popped (own.symm.trans equal)
          simp [own, popped]
        · simp [own]

theorem lookup_setDefault : (setDefault payload field value).lookup name =
    if name = field then some ((payload.lookup field).getD value) else payload.lookup name := by
  unfold setDefault
  rw [lookup_isSome]
  cases found : payload.lookup field with
  | some old =>
      rw [if_pos Option.isSome_some]
      by_cases same : name = field
      · simp [same, found]
      · simp [same]
  | none =>
      rw [if_neg (by decide), lookup_snoc]
      by_cases same : name = field
      · simp [same, found]
      · simp [same]

end Fields

/-! ## Names -/

theorem endsIn_append (suffix name : String) : EndsIn suffix (name ++ suffix) := by
  rw [EndsIn, String.toList_append]
  exact List.suffix_append _ _

theorem withoutEnc_append (field : String) : withoutEnc (field ++ "_enc") = field := by
  have length : (field ++ "_enc").toList.length - 4 = field.toList.length := by
    have suffix : "_enc".toList.length = 4 := rfl
    rw [String.toList_append, List.length_append, suffix]
    omega
  rw [withoutEnc, length, String.toList_append, List.take_left, String.ofList_toList]

theorem exists_of_endsIn_enc {name : String} (ends : EndsIn "_enc" name) :
    name = withoutEnc name ++ "_enc" := by
  obtain ⟨front, whole⟩ := ends
  have same : String.ofList front ++ "_enc" = name := by
    apply String.toList_inj.mp
    rw [String.toList_append, String.toList_ofList, whole]
  rw [← same, withoutEnc_append]

/-- The last characters differ. -/
theorem not_endsIn_enc_of_set (field : String) : ¬EndsIn "_enc" (field ++ "_set") := by
  intro ends
  obtain ⟨front, whole⟩ := ends
  rw [String.toList_append] at whole
  have last := congrArg List.getLast? whole
  have enc : "_enc".toList = ['_', 'e', 'n', 'c'] := rfl
  have set' : "_set".toList = ['_', 's', 'e', 't'] := rfl
  rw [enc, set'] at last
  simp [List.getLast?_append] at last

theorem append_right_injective {first other suffix : String}
    (same : first ++ suffix = other ++ suffix) : first = other := by
  have lists := congrArg String.toList same
  rw [String.toList_append, String.toList_append] at lists
  exact String.toList_inj.mp (List.append_cancel_right lists)

/-! ## What is stored -/

theorem valuesOf_snoc (entries : Metadata) (field name : String) (value : Json) :
    valuesOf (entries ++ [(field, value)]) name =
      valuesOf entries name ++ if field = name then [value] else [] := by
  by_cases same : field = name <;> simp [valuesOf, List.filterMap_append, same]

def lastFilled (values : List Json) : Option Json :=
  (values.filter fun value => !isEmptySecret value).getLast?

theorem lastFilled_snoc (values : List Json) (value : Json) :
    lastFilled (values ++ [value]) = if isEmptySecret value then lastFilled values else some value := by
  cases blank : isEmptySecret value <;> simp [lastFilled, List.filter_append, blank]

/-- Nothing is stored while no value was filled, and the token of the last one afterwards. -/
inductive TokenOf (cipher : Option Cipher) (str : Json → String) : Option Json → Option Json → Prop
  | unset : TokenOf cipher str none none
  | drawn {value : Json} {token : String} {keys : Cipher} (configured : cipher = some keys)
      (filled : token ≠ "") (decrypts : keys.decrypt token = some (str value)) :
      TokenOf cipher str (some value) (some (.text token))

/-- The payload of the row after the entries were written, one by one. -/
structure Stored (cipher : Option Cipher) (str : Json → String) (encryptedFields : List String)
    (entries row : Metadata) : Prop where
  plain : ∀ name, name ∉ encryptedFields → ¬EndsIn "_enc" name →
    row.lookup name = (valuesOf entries name).getLast?
  hidden : ∀ field ∈ encryptedFields, ¬EndsIn "_enc" field → row.lookup field = none
  token : ∀ field ∈ encryptedFields,
    TokenOf cipher str (lastFilled (valuesOf entries field)) (row.lookup (field ++ "_enc"))
  nothingElse : ∀ name, EndsIn "_enc" name → withoutEnc name ∉ encryptedFields →
    row.lookup name = none
  keys : (row.map Prod.fst).Nodup

theorem stored_nil (cipher : Option Cipher) (str : Json → String)
    (encryptedFields : List String) : Stored cipher str encryptedFields [] [] where
  plain := fun _ _ _ => rfl
  hidden := fun _ _ _ => rfl
  token := fun _ _ => .unset
  nothingElse := fun _ _ _ => rfl
  keys := List.nodup_nil

theorem keys_setField {payload : Metadata} (field : String) (value : Json)
    (keys : (payload.map Prod.fst).Nodup) :
    ((setField payload field value).map Prod.fst).Nodup := by
  unfold setField
  by_cases present : (payload.any fun entry => entry.1 = field) = true
  · have same : (payload.map fun entry => if entry.1 = field then (field, value) else entry).map
        Prod.fst = payload.map Prod.fst := by
      rw [List.map_map]
      apply List.map_congr_left
      intro entry _
      by_cases own : entry.1 = field <;> simp [own]
    rw [if_pos present, same]
    exact keys
  · rw [if_neg present, List.map_append, List.nodup_append]
    refine ⟨keys, List.nodup_singleton _, ?_⟩
    intro key member other single equal
    obtain ⟨entry, listed, rfl⟩ := List.mem_map.mp member
    rw [List.mem_singleton.mp single] at equal
    exact present (List.any_eq_true.mpr ⟨entry, listed, by simp [equal]⟩)

section Writes

variable {cipher : Option Cipher} {str : Json → String} {encryptedFields : List String}
  {entries row next : Metadata} {field : String} {value : Json}

theorem stored_plain (stored : Stored cipher str encryptedFields entries row)
    (open' : field ∉ encryptedFields) (named : ¬EndsIn "_enc" field) :
    Stored cipher str encryptedFields (entries ++ [(field, value)]) (setField row field value) where
  plain := by
    intro name outside ends
    rw [lookup_setField, valuesOf_snoc, stored.plain name outside ends]
    by_cases same : name = field
    · subst same
      simp
    · have apart : ¬field = name := fun equal => same equal.symm
      simp [same, apart]
  hidden := by
    intro secret member ends
    have apart : secret ≠ field := fun equal => open' (equal ▸ member)
    rw [lookup_setField, if_neg apart, stored.hidden secret member ends]
  token := by
    intro secret member
    have apart : secret ++ "_enc" ≠ field := fun equal => named (equal ▸ endsIn_append _ _)
    have other : ¬field = secret := fun equal => open' (equal ▸ member)
    rw [lookup_setField, if_neg apart, valuesOf_snoc, if_neg other, List.append_nil]
    exact stored.token secret member
  nothingElse := by
    intro name ends outside
    have apart : name ≠ field := fun equal => named (equal ▸ ends)
    rw [lookup_setField, if_neg apart, stored.nothingElse name ends outside]
  keys := keys_setField field value stored.keys

theorem stored_blank (stored : Stored cipher str encryptedFields entries row)
    (secret : field ∈ encryptedFields) (blank : isEmptySecret value = true) :
    Stored cipher str encryptedFields (entries ++ [(field, value)]) row where
  plain := by
    intro name outside ends
    have apart : ¬field = name := fun equal => outside (equal ▸ secret)
    rw [valuesOf_snoc, if_neg apart, List.append_nil, stored.plain name outside ends]
  hidden := stored.hidden
  token := by
    intro other member
    rw [valuesOf_snoc]
    by_cases same : field = other
    · rw [if_pos same, lastFilled_snoc, if_pos blank]
      exact stored.token other member
    · rw [if_neg same, List.append_nil]
      exact stored.token other member
  nothingElse := stored.nothingElse
  keys := stored.keys

theorem stored_secret (stored : Stored cipher str encryptedFields entries row)
    (secret : field ∈ encryptedFields) (filled : ¬isEmptySecret value = true) {keys : Cipher}
    (configured : cipher = some keys) {token : String} (nonempty : token ≠ "")
    (decrypts : keys.decrypt token = some (str value)) :
    Stored cipher str encryptedFields (entries ++ [(field, value)])
      (setField row (field ++ "_enc") (.text token)) where
  plain := by
    intro name outside ends
    have apart : ¬field = name := fun equal => outside (equal ▸ secret)
    have other : name ≠ field ++ "_enc" := fun equal => ends (equal ▸ endsIn_append _ _)
    rw [lookup_setField, if_neg other, valuesOf_snoc, if_neg apart, List.append_nil,
      stored.plain name outside ends]
  hidden := by
    intro name member ends
    have other : name ≠ field ++ "_enc" := fun equal => ends (equal ▸ endsIn_append _ _)
    rw [lookup_setField, if_neg other, stored.hidden name member ends]
  token := by
    intro name member
    rw [lookup_setField, valuesOf_snoc]
    by_cases same : field = name
    · have own : name ++ "_enc" = field ++ "_enc" := by rw [same]
      rw [if_pos own, if_pos same, lastFilled_snoc, if_neg filled]
      exact .drawn configured nonempty decrypts
    · have apart : name ++ "_enc" ≠ field ++ "_enc" := fun equal =>
        same (append_right_injective equal).symm
      rw [if_neg apart, if_neg same, List.append_nil]
      exact stored.token name member
  nothingElse := by
    intro name ends outside
    have apart : name ≠ field ++ "_enc" := by
      intro equal
      rw [equal, withoutEnc_append] at outside
      exact outside secret
    rw [lookup_setField, if_neg apart, stored.nothingElse name ends outside]
  keys := keys_setField _ _ stored.keys

theorem stored_writeField {request : SetRequest} {entry : String × Json}
    (stored : Stored cipher str encryptedFields entries row)
    (fields : ∀ field, field ∈ request.encryptFields ↔ field ∈ encryptedFields)
    (preserving : request.preserveEmptySecrets = true)
    (tokens : ∀ keys, cipher = some keys → ∀ value,
      request.token value ≠ "" ∧ keys.decrypt (request.token value) = some (str value))
    (named : ¬EndsIn "_enc" entry.1) (written : writeField cipher request row entry = .ok next) :
    Stored cipher str encryptedFields (entries ++ [entry]) next := by
  obtain ⟨field, value⟩ := entry
  unfold writeField at written
  by_cases secret : field ∈ encryptedFields
  · simp only [List.contains_iff_mem.mpr ((fields field).mpr secret)] at written
    by_cases blank : isEmptySecret value = true
    · simp only [blank, preserving, if_true, Except.ok.injEq] at written
      rw [← written]
      exact stored_blank stored secret blank
    · cases configured : cipher with
      | none => simp [blank, configured] at written
      | some keys =>
          simp only [blank, configured, if_true] at written
          have drawn := tokens keys configured value
          rw [← Except.ok.inj written, ← configured]
          exact stored_secret stored secret blank configured drawn.1 drawn.2
  · have open' : ¬request.encryptFields.contains field = true := by
      intro listed
      exact secret ((fields field).mp (List.contains_iff_mem.mp listed))
    simp only [open'] at written
    rw [← Except.ok.inj written]
    exact stored_plain stored secret named

end Writes

/-- What every round of a loop keeps, the loop keeps. -/
theorem foldlM_keeps {Item State : Type} {body : State → Item → Except Error State}
    (Holds : List Item → State → Prop) {items : List Item}
    (keeps : ∀ prior, ∀ item ∈ items, ∀ state next, Holds prior state →
      body state item = .ok next → Holds (prior ++ [item]) next)
    {prior : List Item} {start final : State} (base : Holds prior start)
    (ended : items.foldlM body start = .ok final) : Holds (prior ++ items) final := by
  induction items generalizing prior start with
  | nil =>
      rw [List.append_nil, ← Except.ok.inj ended]
      exact base
  | cons item rest ih =>
      rw [List.foldlM_cons] at ended
      cases first : body start item with
      | error error =>
          rw [first] at ended
          cases ended
      | ok middle =>
          rw [first] at ended
          have step := keeps prior item List.mem_cons_self start middle base first
          rw [List.append_cons]
          exact ih (fun before other member =>
            keeps before other (List.mem_cons_of_mem item member)) step ended

/-- The entries that a row tells of in place of those that were written: an update that is
left out keeps older values, which equal the new ones. -/
structure Tells (str : Json → String) (encryptedFields : List String) (entries told : Metadata) :
    Prop where
  written : ∀ entry ∈ told, entry ∈ entries
  plain : ∀ name, name ∉ encryptedFields → ¬EndsIn "_enc" name →
    Option.Rel SameValue (valuesOf entries name).getLast? (valuesOf told name).getLast?
  secret : ∀ field ∈ encryptedFields,
    (lastFilled (valuesOf entries field)).map str = (lastFilled (valuesOf told field)).map str

section Flushes

variable {cipher : Option Cipher} {str : Json → String} {encryptedFields : List String}
  {entries told more row next : Metadata}

theorem valuesOf_append (first second : Metadata) (name : String) :
    valuesOf (first ++ second) name = valuesOf first name ++ valuesOf second name :=
  List.filterMap_append

theorem lastFilled_append (first second : List Json) :
    lastFilled (first ++ second) = (lastFilled second).or (lastFilled first) := by
  rw [lastFilled, List.filter_append, List.getLast?_append]
  rfl

theorem tells_self (str : Json → String) (encryptedFields : List String) (entries : Metadata) :
    Tells str encryptedFields entries entries where
  written := fun _ member => member
  plain := by
    intro name _ _
    cases (valuesOf entries name).getLast? with
    | none => exact .none
    | some value => exact .some (.inl rfl)
  secret := fun _ _ => rfl

theorem tells_append (tells : Tells str encryptedFields entries told) (more : Metadata) :
    Tells str encryptedFields (entries ++ more) (told ++ more) where
  written := by
    intro entry member
    cases List.mem_append.mp member with
    | inl old => exact List.mem_append_left more (tells.written entry old)
    | inr new => exact List.mem_append_right entries new
  plain := by
    intro name outside ends
    rw [valuesOf_append, valuesOf_append, List.getLast?_append, List.getLast?_append]
    cases (valuesOf more name).getLast? with
    | none => exact tells.plain name outside ends
    | some value => exact .some (.inl rfl)
  secret := by
    intro field member
    rw [valuesOf_append, valuesOf_append, lastFilled_append, lastFilled_append]
    cases lastFilled (valuesOf more field) with
    | none => exact tells.secret field member
    | some value => rfl

theorem lookup_of_equalFields {name : String} {value : Json}
    (same : equalFields next row = true) (found : next.lookup name = some value) :
    ∃ old, row.lookup name = some old ∧ equal value old = true := by
  induction next with
  | nil => cases found
  | cons entry rest ih =>
      obtain ⟨field, head⟩ := entry
      rw [equalFields, Bool.and_eq_true] at same
      rw [lookup_cons_eq] at found
      by_cases own : name = field
      · rw [if_pos own] at found
        cases found
        rw [own]
        exact (Option.any_eq_true _ _).mp same.1
      · rw [if_neg own] at found
        exact ih same.2 found

theorem token_of_equal {first second : Option Json} {token : Json}
    (drawn : TokenOf cipher str first (some token)) (kept : TokenOf cipher str second (some token)) :
    first.map str = second.map str := by
  cases drawn with
  | drawn configured _ decrypts =>
      cases kept with
      | drawn again _ opens =>
          cases configured.symm.trans again
          exact decrypts.symm.trans opens

theorem tells_kept (tells : Tells str encryptedFields entries told)
    (stored : Stored cipher str encryptedFields told row)
    (merged : Stored cipher str encryptedFields (told ++ more) next)
    (same : equalFields next row = true) : Tells str encryptedFields (entries ++ more) told where
  written := fun entry member => List.mem_append_left more (tells.written entry member)
  plain := by
    intro name outside ends
    rw [valuesOf_append, List.getLast?_append]
    cases last : (valuesOf more name).getLast? with
    | none => exact tells.plain name outside ends
    | some value =>
        have written := merged.plain name outside ends
        rw [valuesOf_append, List.getLast?_append, last, Option.some_or] at written
        have kept := lookup_of_equalFields same written
        rcases kept with ⟨old, found, alike⟩
        rw [← stored.plain name outside ends, found]
        exact .some (.inr alike)
  secret := by
    intro field member
    have drawn := merged.token field member
    rw [valuesOf_append, lastFilled_append] at drawn ⊢
    cases last : lastFilled (valuesOf more field) with
    | none => exact tells.secret field member
    | some value =>
        rw [last, Option.some_or] at drawn
        generalize written : next.lookup (field ++ "_enc") = found at drawn
        cases drawn with
        | drawn configured filled decrypts =>
            have kept := lookup_of_equalFields same written
            rcases kept with ⟨old, present, alike⟩
            have stands := stored.token field member
            rw [present] at stands
            generalize lastFilled (valuesOf told field) = earlier at stands ⊢
            cases stands with
            | drawn again nonempty opens =>
                rw [equal, decide_eq_true_eq] at alike
                subst alike
                exact token_of_equal (.drawn configured filled decrypts)
                  (.drawn again nonempty opens)

end Flushes

/-- One call of `set_config` and its commit, with nobody else at work. -/
def writeCall (cipher : Option Cipher) (encryptedFields : List String) (process : Process)
    (call : SetRequest) : Process :=
  [Event.load 0, .flush 0 call, .commit 0].foldl (step cipher encryptedFields) process

theorem writeCall_commits {cipher : Option Cipher} {encryptedFields : List String}
    {process : Process} {call : SetRequest} {next : Metadata} (idle : process.writers = .empty)
    (written : merged cipher call process.committed = .ok next) :
    (writeCall cipher encryptedFields process call).committed =
        some (flushed process.committed process.committed next) ∧
      (writeCall cipher encryptedFields process call).writers = .empty := by
  obtain ⟨now, committed, cache, writers, readers, answers⟩ := process
  simp only at idle written
  subst idle
  cases committed <;>
    simp [writeCall, step, Process.setWriter, Process.view, flush, Process.locked, written,
      Table.find?, Table.insert?, Table.empty, Table.modify, Table.delete]

theorem process_commits {cipher : Option Cipher} (encryptedFields : List String)
    {calls : List SetRequest} {row : Option Metadata} (now : Int)
    (committed : storedAfter cipher calls = .ok row) :
    (calls.foldl (writeCall cipher encryptedFields) (opening now none)).committed = row := by
  let holds : List SetRequest → Option Metadata → Prop := fun prior row =>
    let process := prior.foldl (writeCall cipher encryptedFields) (opening now none)
    process.committed = row ∧ process.writers = .empty
  have base : holds [] none := ⟨rfl, rfl⟩
  have all : holds ([] ++ calls) row := by
    refine foldlM_keeps holds ?_ base committed
    intro prior call _ existing next held written
    cases one : merged cipher call existing with
    | error error =>
        rw [one] at written
        cases written
    | ok payload =>
        rw [one] at written
        rw [← Except.ok.inj written]
        simp only [holds, List.foldl_append]
        rw [← held.1] at one ⊢
        exact writeCall_commits held.2 one
  exact all.1

section Calls

variable {cipher : Option Cipher} {str : Json → String} {encryptedFields : List String}
  {calls : List SetRequest}

theorem stored_merged {entries : Metadata} {existing : Option Metadata} {next : Metadata}
    {call : SetRequest} (uniform : Uniform encryptedFields calls)
    (encrypts : Encrypts cipher str calls) (member : call ∈ calls)
    (stored : Stored cipher str encryptedFields entries (existing.getD []))
    (written : merged cipher call existing = .ok next) :
    Stored cipher str encryptedFields (entries ++ call.value) next := by
  refine foldlM_keeps (Stored cipher str encryptedFields) ?_ stored written
  intro prior entry listed row after held one
  exact stored_writeField held (uniform.fields call member) (uniform.preserving call member)
    (fun keys configured value => encrypts keys configured call member value)
    (uniform.names call member entry listed).1 one

/-- The update that stores the merged payload, and the one that leaves the column out. -/
theorem flushed_cases (row : Option Metadata) (next : Metadata) :
    flushed row row next = next ∨
      ∃ old, row = some old ∧ flushed row row next = old ∧ equalFields next old = true := by
  cases row with
  | none => exact .inl rfl
  | some old =>
      unfold flushed
      by_cases same : equal (.object next) (.object old) = true
      · simp only [same, if_true]
        rw [equal, Bool.and_eq_true] at same
        exact .inr ⟨old, rfl, rfl, same.2⟩
      · exact .inl (if_neg same)

theorem stored_storedAfter {row : Option Metadata} (uniform : Uniform encryptedFields calls)
    (encrypts : Encrypts cipher str calls) (committed : storedAfter cipher calls = .ok row) :
    ∃ told, Tells str encryptedFields (calls.flatMap SetRequest.value) told ∧
      Stored cipher str encryptedFields told (row.getD []) := by
  let holds : List SetRequest → Option Metadata → Prop := fun prior row =>
    ∃ told, Tells str encryptedFields (prior.flatMap SetRequest.value) told ∧
      Stored cipher str encryptedFields told (row.getD [])
  have base : holds [] none :=
    ⟨[], tells_self str encryptedFields [], stored_nil cipher str encryptedFields⟩
  refine foldlM_keeps holds ?_ base committed
  intro prior call member existing next held written
  obtain ⟨told, tells, stored⟩ := held
  cases one : merged cipher call existing with
  | error error =>
      rw [one] at written
      cases written
  | ok payload =>
      rw [one] at written
      rw [← Except.ok.inj written]
      have after := stored_merged uniform encrypts member stored one
      simp only [holds, List.flatMap_append, List.flatMap_cons, List.flatMap_nil, List.append_nil]
      cases flushed_cases existing payload with
      | inl replaced =>
          rw [replaced]
          exact ⟨told ++ call.value, tells_append tells call.value, after⟩
      | inr left =>
          obtain ⟨old, rfl, kept, same⟩ := left
          rw [kept]
          exact ⟨told, tells_kept tells stored after same, stored⟩

theorem storedAfter_some {row : Option Metadata} (filled : calls ≠ [])
    (committed : storedAfter cipher calls = .ok row) : ∃ payload, row = some payload := by
  let holds : List SetRequest → Option Metadata → Prop := fun prior row =>
    prior ≠ [] → ∃ payload, row = some payload
  have all : holds ([] ++ calls) row := by
    refine foldlM_keeps holds ?_ (fun empty => absurd rfl empty) committed
    intro prior call _ existing next _ written _
    cases one : merged cipher call existing with
    | error error =>
        rw [one] at written
        cases written
    | ok payload =>
        rw [one] at written
        exact ⟨flushed existing existing payload, (Except.ok.inj written).symm⟩
  exact all filled

end Calls

/-! ## What is read -/

theorem fresh_answer (cipher : Option Cipher) (encryptedFields : List String) (now : Int)
    (row : Option Metadata) :
    getDecrypted cipher encryptedFields now row = some (decrypted cipher encryptedFields row) := by
  rfl

section Reading

variable {cipher : Option Cipher} {str : Json → String} {encryptedFields : List String}
  {entries row payload : Metadata}

def secretRead (str : Json → String) (entries : Metadata) (field : String) : Json :=
  ((lastFilled (valuesOf entries field)).map fun value => .text (str value)).getD .null

def Opened (str : Json → String) (entries row : Metadata) (done : List String)
    (payload : Metadata) : Prop :=
  ∀ name, payload.lookup name =
    if EndsIn "_enc" name ∧ withoutEnc name ∈ done then none
    else if name ∈ done then some (secretRead str entries name)
    else row.lookup name

theorem decryptField_cases (cipher : Option Cipher) (payload : Metadata) (field : String) :
    (∃ value, decryptField cipher payload field =
        setField (popField payload (field ++ "_enc")) field value) ∨
      decryptField cipher payload field =
        setDefault (popField payload (field ++ "_enc")) field .null := by
  unfold decryptField
  simp only []
  split
  · exact .inl ⟨_, rfl⟩
  · exact .inr rfl

theorem lookup_decryptField {field name : String} (apart : name ≠ field ++ "_enc")
    (other : name ≠ field) :
    (decryptField cipher payload field).lookup name = payload.lookup name := by
  cases decryptField_cases cipher payload field with
  | inl set =>
      obtain ⟨value, set⟩ := set
      rw [set, lookup_setField, if_neg other, lookup_popField, if_neg apart]
  | inr default => rw [default, lookup_setDefault, if_neg other, lookup_popField, if_neg apart]

theorem lookup_decryptField_token {field : String} (named : ¬EndsIn "_enc" field) :
    (decryptField cipher payload field).lookup (field ++ "_enc") = none := by
  have other : field ++ "_enc" ≠ field := fun equal => named (equal ▸ endsIn_append _ _)
  cases decryptField_cases cipher payload field with
  | inl set =>
      obtain ⟨value, set⟩ := set
      rw [set, lookup_setField, if_neg other, lookup_popField, if_pos rfl]
  | inr default => rw [default, lookup_setDefault, if_neg other, lookup_popField, if_pos rfl]

/-- The field itself, from what was stored for it. -/
theorem lookup_decryptField_own {field : String} (named : ¬EndsIn "_enc" field)
    (hidden : payload.lookup field = none)
    (token : TokenOf cipher str (lastFilled (valuesOf entries field))
      (payload.lookup (field ++ "_enc"))) :
    (decryptField cipher payload field).lookup field = some (secretRead str entries field) := by
  have other : field ≠ field ++ "_enc" := fun equal => named (equal ▸ endsIn_append _ _)
  unfold decryptField secretRead
  generalize payload.lookup (field ++ "_enc") = found at token ⊢
  generalize lastFilled (valuesOf entries field) = last at token ⊢
  cases token with
  | unset =>
      simp only [Option.filter_none]
      rw [lookup_setDefault, if_pos rfl, lookup_popField, if_neg other, hidden]
      rfl
  | drawn configured filled decrypts =>
      have truthy : Json.truthy (.text _) = true := decide_eq_true filled
      simp only [Option.filter_some, truthy, if_true, configured]
      rw [lookup_setField, if_pos rfl]
      simp [Cipher.opened, decrypts]

theorem lookup_decryptField_again {field : String} (named : ¬EndsIn "_enc" field) {value : Json}
    (popped : payload.lookup (field ++ "_enc") = none) (own : payload.lookup field = some value) :
    (decryptField cipher payload field).lookup field = some value := by
  have other : field ≠ field ++ "_enc" := fun equal => named (equal ▸ endsIn_append _ _)
  unfold decryptField
  simp only [popped, Option.filter_none]
  rw [lookup_setDefault, if_pos rfl, lookup_popField, if_neg other, own]
  rfl

theorem opened_decryptField (stored : Stored cipher str encryptedFields entries row)
    (plain : ∀ field ∈ encryptedFields, ¬EndsIn "_enc" field) {done : List String}
    (within : ∀ field ∈ done, field ∈ encryptedFields) {field : String}
    (secret : field ∈ encryptedFields) (opened : Opened str entries row done payload) :
    Opened str entries row (done ++ [field]) (decryptField cipher payload field) := by
  have named := plain field secret
  intro name
  simp only [List.mem_append, List.mem_singleton]
  by_cases token : name = field ++ "_enc"
  · subst token
    rw [lookup_decryptField_token named, if_pos ⟨endsIn_append _ _, .inr (withoutEnc_append _)⟩]
  · have notOwnToken : EndsIn "_enc" name → withoutEnc name ≠ field := by
      intro ends equal
      exact token (by rw [exists_of_endsIn_enc ends, equal])
    by_cases own : name = field
    · subst own
      rw [if_neg fun ends => named ends.1, if_pos (.inr rfl)]
      by_cases again : name ∈ done
      · have popped := opened (name ++ "_enc")
        rw [if_pos ⟨endsIn_append _ _, by rw [withoutEnc_append]; exact again⟩] at popped
        have before := opened name
        rw [if_neg fun ends => named ends.1, if_pos again] at before
        exact lookup_decryptField_again named popped before
      · have hidden := opened name
        rw [if_neg fun ends => named ends.1, if_neg again, stored.hidden name secret named]
          at hidden
        have token := opened (name ++ "_enc")
        have notDone : ¬(EndsIn "_enc" (name ++ "_enc") ∧ withoutEnc (name ++ "_enc") ∈ done) := by
          rw [withoutEnc_append]
          exact fun both => again both.2
        have notSecret : name ++ "_enc" ∉ done := fun member =>
          plain _ (within _ member) (endsIn_append _ _)
        rw [if_neg notDone, if_neg notSecret] at token
        apply lookup_decryptField_own named hidden
        rw [token]
        exact stored.token name secret
    · rw [lookup_decryptField token own, opened name]
      by_cases ends : EndsIn "_enc" name
      · simp [ends, own, notOwnToken ends]
      · simp [ends, own]

theorem opened_foldl (stored : Stored cipher str encryptedFields entries row)
    (plain : ∀ field ∈ encryptedFields, ¬EndsIn "_enc" field) (done : List String)
    (within : ∀ field ∈ done, field ∈ encryptedFields) :
    Opened str entries row done (done.foldl (decryptField cipher) row) := by
  induction done using List.reverseRecOn with
  | nil =>
      intro name
      simp
  | append_singleton prior field ih =>
      have earlier : ∀ other ∈ prior, other ∈ encryptedFields := fun other member =>
        within other (List.mem_append_left _ member)
      rw [List.foldl_append]
      exact opened_decryptField stored plain earlier (within field (by simp)) (ih earlier)

end Reading

/-! ## What is shown -/

section Showing

variable {cipher : Option Cipher} {str : Json → String} {encryptedFields : List String}
  {entries row out : Metadata}

theorem mem_setField {payload : Metadata} {field : String} {value : Json}
    {entry : String × Json} (member : entry ∈ setField payload field value) :
    entry = (field, value) ∨ entry ∈ payload := by
  unfold setField at member
  split at member
  · obtain ⟨old, listed, same⟩ := List.mem_map.mp member
    by_cases own : old.1 = field
    · rw [if_pos own] at same
      exact .inl same.symm
    · rw [if_neg own] at same
      exact .inr (same ▸ listed)
  · cases List.mem_append.mp member with
    | inl old => exact .inr old
    | inr added => exact .inl (List.mem_singleton.mp added)

theorem mem_setDefault {payload : Metadata} {field : String} {value : Json}
    {entry : String × Json} (member : entry ∈ setDefault payload field value) :
    entry = (field, value) ∨ entry ∈ payload := by
  unfold setDefault at member
  split at member
  · exact .inr member
  · cases List.mem_append.mp member with
    | inl old => exact .inr old
    | inr added => exact .inl (List.mem_singleton.mp added)

def NoToken (payload : Metadata) : Prop := ∀ entry ∈ payload, ¬EndsIn "_enc" entry.1

theorem noToken_showField {entry : String × Json} (free : NoToken out) :
    NoToken (showField encryptedFields out entry) := by
  intro shown member
  unfold showField at member
  by_cases ends : EndsIn "_enc" entry.1
  · rw [if_pos ends] at member
    by_cases secret : withoutEnc entry.1 ∈ encryptedFields
    · rw [if_pos secret] at member
      cases mem_setField member with
      | inl report =>
          rw [report]
          exact not_endsIn_enc_of_set _
      | inr old => exact free shown old
    · rw [if_neg secret] at member
      exact free shown member
  · rw [if_neg ends] at member
    cases mem_setField member with
    | inl plain =>
        rw [plain]
        exact ends
    | inr old => exact free shown old

theorem noToken_publicView (row : Metadata) : NoToken (publicView row encryptedFields) := by
  have shown : NoToken (row.foldl (showField encryptedFields) []) := by
    induction row using List.reverseRecOn with
    | nil =>
        intro entry member
        cases member
    | append_singleton prior entry ih =>
        rw [List.foldl_append]
        exact noToken_showField ih
  have defaults : ∀ fields : List String, NoToken (fields.foldl
      (fun out field => setDefault out (field ++ "_set") (.bool false))
      (row.foldl (showField encryptedFields) [])) := by
    intro fields
    induction fields using List.reverseRecOn with
    | nil => exact shown
    | append_singleton prior field ih =>
        intro entry member
        rw [List.foldl_append] at member
        cases mem_setDefault member with
        | inl report =>
            rw [report]
            exact not_endsIn_enc_of_set field
        | inr old => exact ih entry old
  exact defaults encryptedFields

theorem lookup_showField {field : String} (secret : field ∈ encryptedFields)
    (entry : String × Json) (report : entry.1 ≠ field ++ "_set") :
    (showField encryptedFields out entry).lookup (field ++ "_set") =
      if entry.1 = field ++ "_enc" then some (.bool entry.2.truthy)
      else out.lookup (field ++ "_set") := by
  unfold showField
  by_cases token : entry.1 = field ++ "_enc"
  · have ends : EndsIn "_enc" entry.1 := token ▸ endsIn_append _ _
    have base : withoutEnc entry.1 = field := by rw [token, withoutEnc_append]
    rw [if_pos ends, base, if_pos secret, if_pos token, lookup_setField, if_pos rfl]
  · rw [if_neg token]
    by_cases ends : EndsIn "_enc" entry.1
    · rw [if_pos ends]
      by_cases other : withoutEnc entry.1 ∈ encryptedFields
      · have apart : field ++ "_set" ≠ withoutEnc entry.1 ++ "_set" := by
          intro equal
          apply token
          rw [exists_of_endsIn_enc ends, ← append_right_injective equal]
        rw [if_pos other, lookup_setField, if_neg apart]
      · rw [if_neg other]
    · rw [if_neg ends, lookup_setField, if_neg report.symm]

theorem lookup_shown {field : String} (secret : field ∈ encryptedFields) (row : Metadata)
    (keys : (row.map Prod.fst).Nodup) (report : ∀ entry ∈ row, entry.1 ≠ field ++ "_set") :
    (row.foldl (showField encryptedFields) []).lookup (field ++ "_set") =
      (row.lookup (field ++ "_enc")).map fun token => .bool token.truthy := by
  induction row using List.reverseRecOn with
  | nil => rfl
  | append_singleton prior entry ih =>
      rw [List.map_append, List.nodup_append] at keys
      have earlier := ih keys.1 fun other member => report other (List.mem_append_left _ member)
      rw [List.foldl_append, List.foldl_cons, List.foldl_nil,
        lookup_showField secret entry (report entry (by simp)), earlier, lookup_snoc]
      by_cases token : entry.1 = field ++ "_enc"
      · have fresh : prior.lookup (field ++ "_enc") = none := by
          apply lookup_eq_none_iff.mpr
          intro other member same
          have distinct := keys.2.2 other.1 (List.mem_map_of_mem member) entry.1 (by simp)
          exact distinct (same.trans token.symm)
        rw [if_pos token, fresh, if_pos token.symm]
        rfl
      · have apart : ¬field ++ "_enc" = entry.1 := fun equal => token equal.symm
        rw [if_neg token, if_neg apart, Option.or_none]

theorem lookup_defaults {field : String} (fields : List String) (out : Metadata) :
    (fields.foldl (fun out field => setDefault out (field ++ "_set") (.bool false)) out).lookup
        (field ++ "_set") =
      if field ∈ fields then some ((out.lookup (field ++ "_set")).getD (.bool false))
      else out.lookup (field ++ "_set") := by
  induction fields using List.reverseRecOn with
  | nil => rfl
  | append_singleton prior other ih =>
      rw [List.foldl_append, List.foldl_cons, List.foldl_nil, lookup_setDefault]
      by_cases own : field = other
      · subst own
        rw [if_pos rfl, ih]
        by_cases again : field ∈ prior <;> simp [again]
      · have apart : field ++ "_set" ≠ other ++ "_set" := fun equal =>
          own (append_right_injective equal)
        rw [if_neg apart, ih]
        simp [own]

theorem truthy_token {last stored : Option Json} (token : TokenOf cipher str last stored) :
    ((stored.map fun token => Json.bool token.truthy).getD (.bool false)) =
      .bool last.isSome := by
  cases token with
  | unset => rfl
  | drawn _ filled _ => simp [Json.truthy, filled]

end Showing

/-! ## The store over a sequence of writes -/

section Sequence

variable {cipher : Option Cipher} {str : Json → String} {encryptedFields : List String}
  {calls : List SetRequest}

theorem valuesOf_eq_nil {entries : Metadata} {name : String}
    (unnamed : ∀ entry ∈ entries, entry.1 ≠ name) : valuesOf entries name = [] := by
  rw [valuesOf, List.filterMap_eq_nil_iff]
  intro entry member
  rw [if_neg (unnamed entry member)]

theorem named_of_written {told : Metadata} (uniform : Uniform encryptedFields calls)
    (tells : Tells str encryptedFields (calls.flatMap SetRequest.value) told) :
    ∀ entry ∈ told, ¬EndsIn "_enc" entry.1 ∧ ¬EndsIn "_set" entry.1 := by
  intro entry member
  have written := List.mem_flatMap.mp (tells.written entry member)
  obtain ⟨call, listed, mentioned⟩ := written
  exact uniform.names call listed entry mentioned

/-- The texts of the last filled values agree, so the reads do. -/
theorem secretRead_of_tells {entries told : Metadata} {field : String}
    (tells : Tells str encryptedFields entries told) (secret : field ∈ encryptedFields) :
    secretRead str told field = secretRead str entries field := by
  have texts := congrArg (Option.map Json.text) (tells.secret field secret)
  rw [Option.map_map, Option.map_map] at texts
  exact congrArg (Option.getD · .null) texts.symm

theorem fieldWise_decrypted {row told : Metadata} (uniform : Uniform encryptedFields calls)
    (plain : ∀ field ∈ encryptedFields, ¬EndsIn "_enc" field)
    (tells : Tells str encryptedFields (calls.flatMap SetRequest.value) told)
    (stored : Stored cipher str encryptedFields told row) :
    FieldWise str encryptedFields calls (decrypted cipher encryptedFields (some row)) := by
  have opened := opened_foldl stored plain encryptedFields fun _ member => member
  intro name
  have read := opened name
  rw [decrypted, read]
  by_cases secret : name ∈ encryptedFields
  · have untokened : ¬(EndsIn "_enc" name ∧ withoutEnc name ∈ encryptedFields) := fun ends =>
      plain name secret ends.1
    rw [if_neg untokened, if_pos secret, if_pos secret, secretRead_of_tells tells secret]
    rfl
  · rw [if_neg secret, if_neg secret]
    by_cases ends : EndsIn "_enc" name
    · have unnamed : mentions calls name = [] := by
        apply valuesOf_eq_nil
        intro entry member same
        obtain ⟨call, listed, mentioned⟩ := List.mem_flatMap.mp member
        exact (uniform.names call listed entry mentioned).1 (same ▸ ends)
      have nothing : lastValue calls name = none := by rw [lastValue, unnamed]; rfl
      rw [nothing]
      by_cases token : withoutEnc name ∈ encryptedFields
      · rw [if_pos ⟨ends, token⟩]
        exact .none
      · rw [if_neg fun both => token both.2, stored.nothingElse name ends token]
        exact .none
    · rw [if_neg fun both => ends both.1, stored.plain name secret ends]
      exact tells.plain name secret ends

theorem truthy_secret {told : Metadata} {field : String}
    (tells : Tells str encryptedFields (calls.flatMap SetRequest.value) told)
    (secret : field ∈ encryptedFields) :
    (lastFilled (valuesOf told field)).isSome = (lastSecret calls field).isSome := by
  have texts := congrArg Option.isSome (tells.secret field secret)
  rw [Option.isSome_map, Option.isSome_map] at texts
  exact texts.symm

theorem hidesSecrets_publicView {row told : Metadata} (uniform : Uniform encryptedFields calls)
    (tells : Tells str encryptedFields (calls.flatMap SetRequest.value) told)
    (stored : Stored cipher str encryptedFields told row) :
    HidesSecrets encryptedFields calls (publicView row encryptedFields) where
  noToken := noToken_publicView row
  reported := by
    intro field secret
    have unreported : row.lookup (field ++ "_set") = none := by
      have named := not_endsIn_enc_of_set field
      by_cases member : field ++ "_set" ∈ encryptedFields
      · exact stored.hidden _ member named
      · rw [stored.plain _ member named]
        have unnamed : valuesOf told (field ++ "_set") = [] := by
          apply valuesOf_eq_nil
          intro entry member same
          exact (named_of_written uniform tells entry member).2 (same ▸ endsIn_append _ _)
        exact congrArg List.getLast? unnamed
    have report := lookup_eq_none_iff.mp unreported
    rw [publicView, lookup_defaults, if_pos secret, lookup_shown secret row stored.keys report,
      truthy_token (stored.token field secret), truthy_secret tells secret]

/-- After committed calls a reader with a fresh cache gets a value equal to the last one of every
plain field and the text of the last filled value of every secret, and the public view shows of
the secrets only whether they are set. -/
theorem config_is_field_wise (cipher : Option Cipher) (str : Json → String)
    (encryptedFields : List String) (calls : List SetRequest) (row : Option Metadata) (now : Int)
    (filled : calls ≠ []) (uniform : Uniform encryptedFields calls)
    (plain : ∀ field ∈ encryptedFields, ¬EndsIn "_enc" field)
    (encrypts : Encrypts cipher str calls) (committed : storedAfter cipher calls = .ok row) :
    ∃ stored payload, row = some stored ∧
      getDecrypted cipher encryptedFields now row = some payload ∧
        FieldWise str encryptedFields calls payload ∧
          HidesSecrets encryptedFields calls (publicView stored encryptedFields) := by
  obtain ⟨stored, rfl⟩ := storedAfter_some filled committed
  have held := stored_storedAfter uniform encrypts committed
  obtain ⟨told, tells, held⟩ := held
  exact ⟨stored, _, rfl, fresh_answer cipher encryptedFields now (some stored),
    fieldWise_decrypted uniform plain tells held, hidesSecrets_publicView uniform tells held⟩

/-- Tokens that mark the text they stand for. -/
def spelled : Json → String
  | .text value => value
  | .number value => toString value
  | .bool value => if value then "True" else "False"
  | _ => "None"

def markedKeys : Cipher where
  decrypt := fun token => some (String.ofList (token.toList.drop 6))

def markedToken (value : Json) : String := "gAAAAA" ++ spelled value

theorem encrypts_marked {calls : List SetRequest}
    (drawn : ∀ call ∈ calls, call.token = markedToken) :
    Encrypts (some markedKeys) spelled calls := by
  intro keys configured call member value
  obtain rfl := Option.some.inj configured
  have mark : "gAAAAA".toList = ['g', 'A', 'A', 'A', 'A', 'A'] := rfl
  rw [drawn call member]
  constructor
  · intro empty
    have chars := congrArg String.toList empty
    rw [markedToken, String.toList_append, mark] at chars
    cases chars
  · simp [markedKeys, markedToken, String.toList_append, mark]

/-- The mail server and its password, and later another server with the password left blank. -/
def smtpCalls : List SetRequest := [
  ⟨[("host", .text "smtp.example.com"), ("password", .text "s3cret")], ["password"], true,
    markedToken⟩,
  ⟨[("host", .text "mail.example.com"), ("password", .text "")], ["password"], true, markedToken⟩]

theorem smtp_config_is_field_wise :
    ∃ stored payload, (storedAfter (some markedKeys) smtpCalls).toOption.join = some stored ∧
      getDecrypted (some markedKeys) ["password"] 0 (storedAfter (some markedKeys) smtpCalls).toOption.join =
          some payload ∧
        FieldWise spelled ["password"] smtpCalls payload ∧
          HidesSecrets ["password"] smtpCalls (publicView stored ["password"]) := by
  have drawn : ∀ call ∈ smtpCalls, call.token = markedToken := by simp [smtpCalls]
  have uniform : Uniform ["password"] smtpCalls :=
    ⟨by simp [smtpCalls], by simp [smtpCalls], by decide⟩
  exact config_is_field_wise (some markedKeys) spelled ["password"] smtpCalls _ 0 (by decide) uniform
    (by decide) (encrypts_marked drawn) rfl

/-- The personal number of a terminal. -/
def pinCalls : List SetRequest := [⟨[("pin", .number 4711)], ["pin"], true, markedToken⟩]

/-- A switch that is turned on with a number first and with a flag afterwards. -/
def switchCalls : List SetRequest := [
  ⟨[("enabled", .number 1)], [], true, markedToken⟩,
  ⟨[("enabled", .bool true)], [], true, markedToken⟩]

/-- A secret that is a number comes back as its text, and a flag that equals the stored number
is not stored. -/
theorem values_come_back_changed :
    (¬∀ (cipher : Option Cipher) (encryptedFields : List String) (calls : List SetRequest)
      (row : Option Metadata) (payload : Metadata), calls ≠ [] → Uniform encryptedFields calls →
        Encrypts cipher spelled calls → storedAfter cipher calls = .ok row →
          getDecrypted cipher encryptedFields 0 row = some payload →
            ∀ field ∈ encryptedFields,
              payload.lookup field = some ((lastSecret calls field).getD .null)) ∧
    ¬∀ (cipher : Option Cipher) (encryptedFields : List String) (calls : List SetRequest)
      (row : Option Metadata) (payload : Metadata), calls ≠ [] → Uniform encryptedFields calls →
        Encrypts cipher spelled calls → storedAfter cipher calls = .ok row →
          getDecrypted cipher encryptedFields 0 row = some payload →
            ∀ field, field ∉ encryptedFields →
              payload.lookup field = lastValue calls field := by
  constructor
  · intro unchanged
    have drawn : ∀ call ∈ pinCalls, call.token = markedToken := by simp [pinCalls]
    have uniform : Uniform ["pin"] pinCalls := ⟨by simp [pinCalls], by simp [pinCalls], by decide⟩
    have same := unchanged (some markedKeys) ["pin"] pinCalls _ _ (by decide) uniform
      (encrypts_marked drawn) rfl rfl "pin" List.mem_cons_self
    have read : some (Json.text "4711") = some (Json.number 4711) := same
    cases read
  · intro unchanged
    have drawn : ∀ call ∈ switchCalls, call.token = markedToken := by simp [switchCalls]
    have uniform : Uniform [] switchCalls := ⟨by simp [switchCalls], by simp [switchCalls], by decide⟩
    have same := unchanged (some markedKeys) [] switchCalls _ _ (by decide) uniform
      (encrypts_marked drawn) rfl rfl "enabled" List.not_mem_nil
    have read : some (Json.number 1) = some (Json.bool true) := same
    cases read

end Sequence

end ApiBank.Config.FieldWrites
