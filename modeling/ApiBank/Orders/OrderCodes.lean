import ApiBank.Db.PaymentNames
import ApiBank.Text.Integers
import ApiBank.Text.Words

/-!
# Order codes as a customer types them

`normalize_order_code` collapses the blanks, puts the letters in upper case and restores
the lower-case ending of the reusable names. The pages of a payment and the stream of a
top-up look an order up under the normalised text.
-/

namespace ApiBank.Orders.OrderCodes

open ApiBank.Db ApiBank.Db.PaymentNames ApiBank.Relational ApiBank.Text

set_option autoImplicit false

/-- `str.isspace` of an ASCII character. -/
def asciiSpace (char : Char) : Bool :=
  char.toNat = 32 || (9 ≤ char.toNat && char.toNat ≤ 13) || (28 ≤ char.toNat && char.toNat ≤ 31)

/-- `str.isspace` and `str.upper` of one character. The upper case of a character may be
several; it is never empty, it is its own upper case, and blanks correspond to blanks. -/
structure CaseTables where
  isSpace : Char → Bool
  upper : Char → List Char
  ascii_space : ∀ char : Char, char.toNat < 128 → isSpace char = asciiSpace char
  ascii_upper : ∀ char : Char, char.toNat < 128 → upper char = [char.toUpper]
  upper_space : ∀ char, isSpace char = true → upper char = [char]
  upper_visible : ∀ char, isSpace char = false → ∀ other ∈ upper char, isSpace other = false
  upper_filled : ∀ char, upper char ≠ []
  upper_upper : ∀ char, (upper char).flatMap upper = upper char

/-- A statement about ASCII characters is checked by enumeration. -/
theorem ascii_of_forall_lt (Property : Char → Prop)
    (holds : ∀ code < 128, Property (Char.ofNat code)) {char : Char} (small : char.toNat < 128) :
    Property char := by
  have own := holds char.toNat small
  rwa [Char.ofNat_toNat] at own

theorem toUpper_of_not_ascii {char : Char} (large : ¬char.toNat < 128) : char.toUpper = char := by
  apply dif_neg
  intro bounds
  have upper : char.toNat ≤ 122 := bounds.2
  omega

theorem ascii_toUpper {char : Char} (small : char.toNat < 128) : char.toUpper.toNat < 128 :=
  ascii_of_forall_lt (fun char => char.toUpper.toNat < 128) (by decide) small

/-- Two spellings of one letter are ASCII letters, unless they are the same character. -/
theorem ascii_of_toUpper_eq {char other : Char} (same : char.toUpper = other.toUpper)
    (differ : char ≠ other) : char.toNat < 128 ∧ other.toNat < 128 := by
  by_cases small : char.toNat < 128
  · by_cases otherSmall : other.toNat < 128
    · exact ⟨small, otherSmall⟩
    · have bound := ascii_toUpper small
      rw [same, toUpper_of_not_ascii otherSmall] at bound
      exact absurd bound otherSmall
  · by_cases otherSmall : other.toNat < 128
    · have bound := ascii_toUpper otherSmall
      rw [← same, toUpper_of_not_ascii small] at bound
      exact absurd bound small
    · rw [toUpper_of_not_ascii small, toUpper_of_not_ascii otherSmall] at same
      exact absurd same differ

def CaseTables.ascii : CaseTables where
  isSpace := fun char => char.toNat < 128 && asciiSpace char
  upper := fun char => [char.toUpper]
  ascii_space := by
    intro char small
    simp [small]
  ascii_upper := fun _ _ => rfl
  upper_space := by
    intro char blank
    simp only [Bool.and_eq_true, decide_eq_true_eq] at blank
    exact ascii_of_forall_lt (fun char =>
      asciiSpace char = true → [char.toUpper] = [char]) (by decide) blank.1 blank.2
  upper_visible := by
    intro char visible other member
    rw [List.mem_singleton] at member
    subst member
    by_cases small : char.toNat < 128
    · simp only [small, decide_true, Bool.true_and] at visible
      have own := ascii_of_forall_lt (fun char =>
        asciiSpace char = false → asciiSpace char.toUpper = false) (by decide) small visible
      simp [own]
    · rw [toUpper_of_not_ascii small]
      exact visible
  upper_filled := fun _ => List.cons_ne_nil _ _
  upper_upper := by
    intro char
    by_cases small : char.toNat < 128
    · exact ascii_of_forall_lt (fun char =>
        [char.toUpper].flatMap (fun char => [char.toUpper]) = [char.toUpper]) (by decide) small
    · simp [toUpper_of_not_ascii small]

namespace CaseTables

variable (tables : CaseTables)

/-- `" ".join(value.split()).upper()`. -/
def collapse (text : List Char) : List Char :=
  (joined ' ' (words tables.isSpace text)).flatMap tables.upper

end CaseTables

/-- The lower-case ending of the reusable names is restored. -/
def restoreEnding (text : List Char) : List Char :=
  if " CHUYEN TIEN".toList.isSuffixOf text then
    text.take (text.length - 12) ++ " chuyen tien".toList
  else text

def normalizeOrderCode (tables : CaseTables) (value : String) : String :=
  .ofList (restoreEnding (tables.collapse value.toList))

/-- `select(Order).where(Order.code == normalize_order_code(code))`, the first row. -/
def findByCode (tables : CaseTables) (db : Database) (code : String) : Option Order :=
  db.orders.rows.find? fun order => order.code = normalizeOrderCode tables code

/-- The same code typed again: ASCII letters in another case, and blanks added at the
ends or in place of other blanks. -/
inductive Retyped (tables : CaseTables) : List Char → List Char → Prop where
  | letter (before after : List Char) {char other : Char} (same : char.toUpper = other.toUpper) :
      Retyped tables (before ++ char :: after) (before ++ other :: after)
  | gap (before after : List Char) {gap other : List Char} (filled : gap ≠ [])
      (otherFilled : other ≠ []) (blanks : ∀ char ∈ gap, tables.isSpace char = true)
      (otherBlanks : ∀ char ∈ other, tables.isSpace char = true) :
      Retyped tables (before ++ gap ++ after) (before ++ other ++ after)
  | leading (text : List Char) {gap : List Char}
      (blanks : ∀ char ∈ gap, tables.isSpace char = true) : Retyped tables (gap ++ text) text
  | trailing (text : List Char) {gap : List Char}
      (blanks : ∀ char ∈ gap, tables.isSpace char = true) : Retyped tables (text ++ gap) text
  | back {text other : List Char} (typed : Retyped tables text other) : Retyped tables other text
  | again {text other third : List Char} (first : Retyped tables text other)
      (second : Retyped tables other third) : Retyped tables text third

namespace CaseTables

variable (tables : CaseTables)

theorem upper_blank : tables.upper ' ' = [' '] := by
  rw [tables.ascii_upper ' ' (by decide)]
  rfl

theorem isSpace_blank : tables.isSpace ' ' = true := by
  rw [tables.ascii_space ' ' (by decide)]
  rfl

/-- Upper case first, words second: the same result. -/
theorem collapse_eq (text : List Char) : tables.collapse text =
    joined ' ' (words tables.isSpace (text.flatMap tables.upper)) := by
  rw [collapse, flatMap_joined tables.upper_blank,
    words_flatMap tables.isSpace tables.upper_space tables.upper_visible tables.upper_filled]

theorem upper_collapse (text : List Char) :
    (tables.collapse text).flatMap tables.upper = tables.collapse text := by
  rw [collapse, List.flatMap_assoc]
  congr 1
  funext char
  exact tables.upper_upper char

@[simp] theorem collapse_collapse (text : List Char) :
    tables.collapse (tables.collapse text) = tables.collapse text := by
  rw [tables.collapse_eq (tables.collapse text), upper_collapse, tables.collapse_eq text]
  congr 1
  apply words_joined tables.isSpace tables.isSpace_blank
  intro word member
  exact isWord_of_mem_words tables.isSpace member

theorem upper_eq_of_toUpper_eq {char other : Char} (same : char.toUpper = other.toUpper) :
    tables.upper char = tables.upper other := by
  by_cases differ : char = other
  · rw [differ]
  · have small := ascii_of_toUpper_eq same differ
    rw [tables.ascii_upper char small.1, tables.ascii_upper other small.2, same]

theorem words_leading {gap : List Char} (blanks : ∀ char ∈ gap, tables.isSpace char = true)
    (text : List Char) : words tables.isSpace (gap ++ text) = words tables.isSpace text := by
  cases gap with
  | nil => rfl
  | cons blank gap =>
      have apart := words_append_blanks tables.isSpace [] text
        (List.cons_ne_nil blank gap) blanks
      simpa using apart

theorem words_trailing {gap : List Char} (blanks : ∀ char ∈ gap, tables.isSpace char = true)
    (text : List Char) : words tables.isSpace (text ++ gap) = words tables.isSpace text := by
  cases gap with
  | nil => rw [List.append_nil]
  | cons blank gap =>
      have apart := words_append_blanks tables.isSpace text []
        (List.cons_ne_nil blank gap) blanks
      simpa using apart

theorem collapse_eq_of_retyped {text other : List Char} (typed : Retyped tables text other) :
    tables.collapse text = tables.collapse other := by
  induction typed with
  | letter before after same =>
      simp only [collapse_eq, List.flatMap_append, List.flatMap_cons,
        tables.upper_eq_of_toUpper_eq same]
  | gap before after filled otherFilled blanks otherBlanks =>
      rw [collapse, collapse, words_append_blanks tables.isSpace before after filled blanks,
        words_append_blanks tables.isSpace before after otherFilled otherBlanks]
  | leading text blanks => rw [collapse, collapse, tables.words_leading blanks]
  | trailing text blanks => rw [collapse, collapse, tables.words_trailing blanks]
  | back typed ih => exact ih.symm
  | again first second ih laterIh => exact ih.trans laterIh

theorem upper_ascii {text : List Char} (small : text.all fun char => char.toNat < 128) :
    text.flatMap tables.upper = text.map Char.toUpper := by
  induction text with
  | nil => rfl
  | cons char text ih =>
      rw [List.all_cons, Bool.and_eq_true, decide_eq_true_eq] at small
      rw [List.flatMap_cons, tables.ascii_upper char small.1, ih small.2]
      rfl

theorem upper_ending :
    " chuyen tien".toList.flatMap tables.upper = " CHUYEN TIEN".toList.flatMap tables.upper := by
  rw [tables.upper_ascii (by decide), tables.upper_ascii (by decide)]
  decide

theorem restoreEnding_append (front : List Char) :
    restoreEnding (front ++ " CHUYEN TIEN".toList) = front ++ " chuyen tien".toList := by
  have ends : " CHUYEN TIEN".toList <:+ front ++ " CHUYEN TIEN".toList := List.suffix_append _ _
  rw [restoreEnding, if_pos (List.isSuffixOf_iff_suffix.mpr ends)]
  have length : (front ++ " CHUYEN TIEN".toList).length - 12 = front.length := by
    simp
  rw [length, List.take_left]

/-- The ending written back in lower case is lost again when the text collapses. -/
theorem collapse_restoreEnding (text : List Char) :
    tables.collapse (restoreEnding text) = tables.collapse text := by
  by_cases ends : " CHUYEN TIEN".toList <:+ text
  · obtain ⟨front, rfl⟩ := ends
    rw [restoreEnding_append, collapse_eq, collapse_eq, List.flatMap_append, List.flatMap_append,
      upper_ending]
  · rw [restoreEnding, if_neg fun holds => ends (List.isSuffixOf_iff_suffix.mp holds)]

end CaseTables

theorem normalizeOrderCode_idempotent (tables : CaseTables) (value : String) :
    normalizeOrderCode tables (normalizeOrderCode tables value) =
      normalizeOrderCode tables value := by
  simp only [normalizeOrderCode, String.toList_ofList, CaseTables.collapse_restoreEnding,
    CaseTables.collapse_collapse]

theorem normalizeOrderCode_eq_of_retyped (tables : CaseTables) {value other : String}
    (typed : Retyped tables value.toList other.toList) :
    normalizeOrderCode tables value = normalizeOrderCode tables other := by
  rw [normalizeOrderCode, normalizeOrderCode, tables.collapse_eq_of_retyped typed]

def Capital (text : List Char) : Prop :=
  text ≠ [] ∧ text.all (fun char => char.isUpper || char.isDigit) = true

instance (text : List Char) : Decidable (Capital text) :=
  inferInstanceAs (Decidable (_ ∧ _))

theorem ascii_of_capital {char : Char} (capital : (char.isUpper || char.isDigit) = true) :
    char.toNat < 128 := by
  rw [Bool.or_eq_true] at capital
  cases capital with
  | inl upper =>
      have bound : char.toNat ≤ 90 := (of_decide_eq_true upper).2
      omega
  | inr digit =>
      have bounds := Interpreter.toNat_of_isDigit digit
      omega

theorem toUpper_of_capital {char : Char} (capital : (char.isUpper || char.isDigit) = true) :
    char.toUpper = char :=
  ascii_of_forall_lt (fun char =>
    (char.isUpper || char.isDigit) = true → char.toUpper = char) (by decide)
    (ascii_of_capital capital) capital

namespace Capital

variable (tables : CaseTables) {text : List Char}

theorem of_mem (capital : Capital text) {char : Char} (member : char ∈ text) :
    (char.isUpper || char.isDigit) = true :=
  List.all_eq_true.mp capital.2 char member

theorem isWord (capital : Capital text) : IsWord tables.isSpace text := by
  constructor
  · exact capital.1
  · intro char member
    have small := ascii_of_capital (capital.of_mem member)
    rw [tables.ascii_space char small]
    exact ascii_of_forall_lt (fun char =>
      (char.isUpper || char.isDigit) = true → asciiSpace char = false) (by decide) small
      (capital.of_mem member)

theorem upper (capital : Capital text) : text.flatMap tables.upper = text := by
  have small : text.all fun char => char.toNat < 128 := by
    rw [List.all_eq_true]
    intro char member
    exact decide_eq_true (ascii_of_capital (capital.of_mem member))
  rw [tables.upper_ascii small]
  conv_rhs => rw [← List.map_id text]
  apply List.map_congr_left
  intro char member
  exact toUpper_of_capital (capital.of_mem member)

end Capital

/-- Capital words with single blanks between them collapse to themselves. -/
theorem collapse_joined (tables : CaseTables) {parts : List (List Char)}
    (capital : ∀ part ∈ parts, Capital part) :
    tables.collapse (joined ' ' parts) = joined ' ' parts := by
  have upper : parts.map (fun part => part.flatMap tables.upper) = parts := by
    conv_rhs => rw [← List.map_id parts]
    apply List.map_congr_left
    intro part member
    exact (capital part member).upper tables
  rw [CaseTables.collapse_eq, flatMap_joined tables.upper_blank, upper]
  congr 1
  apply words_joined tables.isSpace tables.isSpace_blank
  intro part member
  exact (capital part member).isWord tables

/-- So a text of capital words stays, with the ending of a name restored. -/
theorem normalize_joined (tables : CaseTables) (parts : List (List Char))
    (capital : ∀ part ∈ parts, Capital part) :
    normalizeOrderCode tables (.ofList (restoreEnding (joined ' ' parts))) =
      .ofList (restoreEnding (joined ' ' parts)) := by
  rw [normalizeOrderCode, String.toList_ofList, CaseTables.collapse_restoreEnding,
    collapse_joined tables capital]

def UpperHex (text : String) : Prop :=
  ∀ char ∈ text.toList, char.isDigit = true ∨ 'A' ≤ char ∧ char ≤ 'F'

/-- The codes that orders have: `Order.new` draws one, and the orders from before the
reusable names have such a name as their code. -/
inductive IssuedCode : String → Prop where
  | drawn (args : OrderArgs) (draws : OrderDraws) (hex : UpperHex draws.codeHex) :
      IssuedCode (newOrder args draws).code
  | named {name : String} (listed : name ∈ paymentNames) : IssuedCode name

theorem capital_code {hex : String} (digits : UpperHex hex) :
    Capital (s!"PAY{hex}").toList := by
  have parts : (s!"PAY{hex}").toList = 'P' :: 'A' :: 'Y' :: hex.toList := by
    simp [toString]
  rw [parts]
  constructor
  · exact List.cons_ne_nil _ _
  · rw [List.all_eq_true]
    intro char member
    simp only [List.mem_cons] at member
    rcases member with rfl | rfl | rfl | member
    · rfl
    · rfl
    · rfl
    · cases digits char member with
      | inl digit => simp [digit]
      | inr letter =>
          have lower : 65 ≤ char.toNat := letter.1
          have upper : char.toNat ≤ 70 := letter.2
          have capital : char.isUpper = true :=
            decide_eq_true ⟨lower, Nat.le_trans upper (by decide)⟩
          simp [capital]

theorem normalize_code (tables : CaseTables) {hex : String} (digits : UpperHex hex) :
    normalizeOrderCode tables s!"PAY{hex}" = s!"PAY{hex}" := by
  have capital := capital_code digits
  have whole : restoreEnding (joined ' ' [(s!"PAY{hex}").toList]) = (s!"PAY{hex}").toList := by
    rw [joined, List.intercalate_singleton, restoreEnding, if_neg]
    intro ends
    -- the ending has a blank in it, the code has none
    have blank : ' ' ∈ (s!"PAY{hex}").toList :=
      (List.isSuffixOf_iff_suffix.mp ends).subset (by decide)
    have visible := (capital.isWord tables).2 ' ' blank
    rw [tables.isSpace_blank] at visible
    cases visible
  have stays := normalize_joined tables [(s!"PAY{hex}").toList] (by simpa using capital)
  rwa [whole, String.ofList_toList] at stays

theorem capital_surnames : ∀ surname ∈ surnames, Capital surname.toList := by decide

theorem capital_middles : ∀ middle ∈ middles, Capital middle.toList := by decide

theorem capital_names : ∀ name ∈ names, Capital name.toList := by decide

theorem normalize_name (tables : CaseTables) {name : String} (listed : name ∈ paymentNames) :
    normalizeOrderCode tables name = name := by
  simp only [paymentNames, List.mem_flatMap, List.mem_map] at listed
  obtain ⟨surname, surnameListed, middle, middleListed, last, lastListed, rfl⟩ := listed
  have whole : restoreEnding (joined ' ' [surname.toList, middle.toList, last.toList,
      "CHUYEN".toList, "TIEN".toList]) = (s!"{surname} {middle} {last} chuyen tien").toList := by
    have front := CaseTables.restoreEnding_append
      (surname.toList ++ ' ' :: middle.toList ++ ' ' :: last.toList)
    simpa [joined, toString] using front
  have stays := normalize_joined tables ([surname.toList, middle.toList, last.toList,
    "CHUYEN".toList, "TIEN".toList]) (by
      intro part member
      simp only [List.mem_cons, List.not_mem_nil, or_false] at member
      rcases member with rfl | rfl | rfl | rfl | rfl
      · exact capital_surnames surname surnameListed
      · exact capital_middles middle middleListed
      · exact capital_names last lastListed
      · decide
      · decide)
  rwa [whole, String.ofList_toList] at stays

theorem normalize_issued (tables : CaseTables) {code : String} (issued : IssuedCode code) :
    normalizeOrderCode tables code = code := by
  cases issued with
  | drawn args draws hex => exact normalize_code tables hex
  | named listed => exact normalize_name tables listed

/-- However a customer spaces and spells the code, the order is found: the column is
unique, so the first row with the code is the only one. -/
theorem findByCode_eq_of_retyped (tables : CaseTables) {db : Database} {order : Order}
    (distinct : (db.orders.rows.map Order.code).Nodup) (stored : order ∈ db.orders.rows)
    (issued : IssuedCode order.code) {typed : String}
    (again : Retyped tables typed.toList order.code.toList) :
    findByCode tables db typed = some order := by
  have normal : normalizeOrderCode tables typed = order.code := by
    rw [normalizeOrderCode_eq_of_retyped tables again, normalize_issued tables issued]
  cases found : findByCode tables db typed with
  | none =>
      have absent := List.find?_eq_none.mp found order stored
      simp [normal] at absent
  | some other =>
      have coded := List.find?_some found
      simp only [normal, decide_eq_true_eq] at coded
      have member := List.mem_of_find?_eq_some found
      rw [List.inj_on_of_nodup_map distinct member stored coded]

/-- Normalising twice changes nothing, a code typed again is normalised to the same text,
the issued codes stay as they are, and so the lookup by a code typed again finds its order. -/
theorem order_code_normalization_stable (tables : CaseTables) :
    (∀ value, normalizeOrderCode tables (normalizeOrderCode tables value) =
      normalizeOrderCode tables value) ∧
    (∀ value other : String, Retyped tables value.toList other.toList →
      normalizeOrderCode tables value = normalizeOrderCode tables other) ∧
    (∀ args draws, UpperHex draws.codeHex →
      normalizeOrderCode tables (newOrder args draws).code = (newOrder args draws).code) ∧
    (∀ name ∈ paymentNames, normalizeOrderCode tables name = name) ∧
    ∀ (db : Database) (order : Order), (db.orders.rows.map Order.code).Nodup →
      order ∈ db.orders.rows → IssuedCode order.code →
        ∀ typed : String, Retyped tables typed.toList order.code.toList →
          findByCode tables db typed = some order := by
  refine ⟨normalizeOrderCode_idempotent tables, ?_, ?_, ?_, ?_⟩
  · intro value other typed
    exact normalizeOrderCode_eq_of_retyped tables typed
  · intro args draws hex
    exact normalize_code tables hex
  · intro name listed
    exact normalize_name tables listed
  · intro db order distinct stored issued typed again
    exact findByCode_eq_of_retyped tables distinct stored issued again

def lookedUp : Order := newOrder
  { amountVnd := 50000, bankAccountId := "b1", ttlSeconds := 900, customerRef := none,
    metadataJson := [], userId := none }
  { id := "ord_1", codeHex := "0A1B", name := "NGO TIEN DAT chuyen tien",
    shuffle := ⟨id, List.Perm.refl⟩, now := 0 }

def onlyLookedUp : Database := { Database.empty with orders := ⟨[lookedUp], by simp⟩ }

/-- The code with a tab before it, its first letter in lower case and a blank after it. -/
theorem retyped_code_is_found :
    findByCode .ascii onlyLookedUp "\tpAY0A1B " = some lookedUp := by
  have issued : IssuedCode lookedUp.code := by
    refine .drawn _ _ ?_
    intro char member
    have listed : char ∈ ['0', 'A', '1', 'B'] := member
    simp only [List.mem_cons, List.not_mem_nil, or_false] at listed
    rcases listed with rfl | rfl | rfl | rfl <;> decide
  have leading : Retyped .ascii (['\t'] ++ "pAY0A1B ".toList) "pAY0A1B ".toList :=
    .leading _ (List.forall_mem_singleton.mpr rfl)
  have trailing : Retyped .ascii ("pAY0A1B".toList ++ [' ']) "pAY0A1B".toList :=
    .trailing _ (List.forall_mem_singleton.mpr rfl)
  have letter : Retyped .ascii ([] ++ 'p' :: "AY0A1B".toList) ([] ++ 'P' :: "AY0A1B".toList) :=
    .letter _ _ (by decide)
  exact (order_code_normalization_stable .ascii).2.2.2.2 onlyLookedUp lookedUp
    (by simp [onlyLookedUp]) (by simp [onlyLookedUp]) issued "\tpAY0A1B "
      (leading.again (trailing.again letter))

example : normalizeOrderCode .ascii "  ngo   tien dat CHUYEN TIEN  " =
    "NGO TIEN DAT chuyen tien" := by
  decide

end ApiBank.Orders.OrderCodes
