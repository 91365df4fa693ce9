import ApiBank.Db.Clock
import ApiBank.Numeric.Calendar
import ApiBank.Text.Rendering
import ApiBank.Text.Integers
import Mathlib.Data.List.TakeWhile

/-!
# Reading a date by a format

`datetime.strptime` makes a regular expression of the format, matches it from the left with
the first alternatives that go through, and refuses what the match leaves over. The characters
of a text that are neither digits nor blanks are those of its format, so formats with other
separators never read the same text.
-/

namespace ApiBank.Text.Strptime

open ApiBank.Db ApiBank.Numeric

set_option autoImplicit false

/-! ## The calendar -/

def monthDays (year : Int) (month : Nat) : Nat :=
  [31, 28 + (Calendar.isLeap year).toNat, 31, 30, 31, 30, 31, 31, 30, 31, 30, 31].getD
    (month - 1) 0

/-- What the constructor of `date` accepts. -/
def ValidDate (date : Calendar.Date) : Prop :=
  (1 ≤ date.year ∧ date.year ≤ 9999) ∧ (1 ≤ date.month ∧ date.month ≤ 12) ∧
    1 ≤ date.day ∧ date.day ≤ monthDays date.year date.month

instance (date : Calendar.Date) : Decidable (ValidDate date) := inferInstanceAs (Decidable (_ ∧ _))

/-- Hours, minutes, seconds and microseconds. -/
structure Clock where
  hour : Nat
  minute : Nat
  second : Nat
  microsecond : Nat
  deriving DecidableEq, Repr

namespace Clock

/-- What the constructor of `time` accepts. -/
def Valid (clock : Clock) : Prop := clock.hour < 24 ∧ clock.minute < 60 ∧ clock.second < 60

instance (clock : Clock) : Decidable clock.Valid := inferInstanceAs (Decidable (_ ∧ _))

def length (clock : Clock) : Int :=
  seconds (clock.hour * 3600 + clock.minute * 60 + clock.second) + clock.microsecond

end Clock

/-! ## Formats -/

/-- One character of the regular expression of a directive. -/
inductive Atom where
  | blank
  | digit
  | between (low high : Nat)
  deriving DecidableEq, Repr

inductive Directive where
  | d | m | Y | H | M | S
  deriving DecidableEq, Repr

/-- The regular expression of a directive. -/
def Directive.alternatives : Directive → List (List Atom)
  | .d => [[.between 3 3, .between 0 1], [.between 1 2, .digit], [.between 0 0, .between 1 9],
      [.between 1 9], [.blank, .between 1 9]]
  | .m => [[.between 1 1, .between 0 2], [.between 0 0, .between 1 9], [.between 1 9]]
  | .Y => [[.digit, .digit, .digit, .digit]]
  | .H => [[.between 2 2, .between 0 3], [.between 0 1, .digit], [.digit]]
  | .M => [[.between 0 5, .digit], [.digit]]
  | .S => [[.between 6 6, .between 0 1], [.between 0 5, .digit], [.digit]]

def Directive.ofCode : Char → Option Directive
  | 'd' => some .d
  | 'm' => some .m
  | 'Y' => some .Y
  | 'H' => some .H
  | 'M' => some .M
  | 'S' => some .S
  | _ => none

inductive Token where
  | directive (directive : Directive)
  | literal (char : Char)
  | blanks
  deriving DecidableEq, Repr

section Matching

variable (interpreter : Interpreter)

/-- What `\s` matches. -/
def isBlank (char : Char) : Bool :=
  let code := char.toNat
  if code < 127 then (9 ≤ code && code ≤ 13) || (28 ≤ code && code ≤ 32)
  else interpreter.isSpace char

/-- What `\d` matches. -/
def isDecimal (char : Char) : Bool := (interpreter.digitValue char).isSome

/-- The tokens of a format; one of them stands for a run of blanks. -/
def compile : List Char → Option (List Token)
  | [] => some []
  | ['%'] => none
  | '%' :: code :: rest => do
      let directive ← Directive.ofCode code
      let tokens ← compile rest
      some (.directive directive :: tokens)
  | char :: rest => do
      let tokens ← compile rest
      if isBlank interpreter char then
        if tokens.head? = some .blanks then some tokens else some (.blanks :: tokens)
      else some (.literal char :: tokens)

def Atom.admits : Atom → Char → Bool
  | .blank, char => char = ' '
  | .digit, char => isDecimal interpreter char
  | .between low high, char => char.isDigit && low ≤ char.toNat - 48 && char.toNat - 48 ≤ high

def takeAtoms : List Atom → List Char → Option (List Char × List Char)
  | [], text => some ([], text)
  | _ :: _, [] => none
  | atom :: atoms, char :: text =>
      if atom.admits interpreter char then
        (takeAtoms atoms text).map fun (group, rest) => (char :: group, rest)
      else none

abbrev Groups := List (Directive × List Char)

/-- How a token may match at the start of a text, in the order of preference. The letters of
a format match in either case. -/
def candidates : Token → List Char → List (Groups × List Char)
  | .directive directive, text =>
      directive.alternatives.filterMap fun atoms =>
        (takeAtoms interpreter atoms text).map fun (group, rest) => ([(directive, group)], rest)
  | .literal _, [] => []
  | .literal expected, char :: rest =>
      if char.toLower = expected.toLower then [([], rest)] else []
  | .blanks, text =>
      let run := (text.takeWhile (isBlank interpreter)).length
      (List.range run).map fun spared => ([], text.drop (run - spared))

/-- The first match in the order of preference, and what it leaves over. -/
def search : List Token → List Char → Option (Groups × List Char)
  | [], text => some ([], text)
  | token :: tokens, text =>
      (candidates interpreter token text).findSome? fun (groups, rest) =>
        (search tokens rest).map fun (more, remaining) => (groups ++ more, remaining)

/-- `int` of a group, or the default of a directive that the format does not have. -/
def field (groups : Groups) (directive : Directive) (default : Nat) : Option Nat :=
  match groups.lookup directive with
  | none => some default
  | some group => (interpreter.int (.ofList group)).map Int.toNat

/-- The wall reading of `datetime.strptime(value, format)`, or `None` where it raises
`ValueError`. -/
def strptime (value format : String) : Option Int := do
  let tokens ← compile interpreter format.toList
  let (groups, rest) ← search interpreter tokens value.toList
  let year ← field interpreter groups .Y 1900
  let month ← field interpreter groups .m 1
  let day ← field interpreter groups .d 1
  let hour ← field interpreter groups .H 0
  let minute ← field interpreter groups .M 0
  let second ← field interpreter groups .S 0
  let date : Calendar.Date := ⟨year, month, day⟩
  let clock : Clock := ⟨hour, minute, second, 0⟩
  if rest = [] ∧ ValidDate date ∧ clock.Valid then some (days date.days + clock.length) else none

end Matching

/-! ## What is between the digits -/

section Marks

variable {interpreter : Interpreter}

variable (interpreter) in
/-- Neither a digit nor a blank. -/
def isMark (char : Char) : Bool := !(isDecimal interpreter char || isBlank interpreter char)

variable (interpreter) in
/-- The other characters of a text, letters in lower case. -/
def marks (text : List Char) : List Char :=
  (text.filter (isMark interpreter)).map Char.toLower

/-- The characters that a format has besides its directives and blanks. -/
def separators (tokens : List Token) : List Char :=
  tokens.filterMap fun token =>
    match token with
    | .literal char => some char
    | _ => none

def literals (tokens : List Token) : List Char := (separators tokens).map Char.toLower

variable (interpreter) in
/-- No digit and no blank is taken literally. -/
def Marked (tokens : List Token) : Prop := (separators tokens).all (isMark interpreter) = true

theorem toLower_of_not_capital {char : Char} (other : ¬(65 ≤ char.toNat ∧ char.toNat ≤ 90)) :
    char.toLower = char :=
  dif_neg other

theorem forall_capital (Property : Char → Prop)
    (holds : ∀ code, 65 ≤ code → code ≤ 90 → Property (Char.ofNat code)) {char : Char}
    (capital : 65 ≤ char.toNat ∧ char.toNat ≤ 90) : Property char := by
  have own := holds char.toNat capital.1 capital.2
  rwa [Char.ofNat_toNat] at own

/-- A letter is a mark in either case. -/
theorem isMark_toLower (char : Char) :
    isMark interpreter char.toLower = isMark interpreter char := by
  by_cases capital : 65 ≤ char.toNat ∧ char.toNat ≤ 90
  · apply forall_capital (fun char => isMark interpreter char.toLower = isMark interpreter char)
      _ capital
    intro code least most
    interval_cases code <;> rfl
  · rw [toLower_of_not_capital capital]

/-- What is no letter matches itself only. -/
theorem eq_of_toLower_eq {char expected : Char} (plain : expected.isAlpha = false)
    (same : char.toLower = expected.toLower) : char = expected := by
  have letter : ∀ {char : Char}, 65 ≤ char.toNat ∧ char.toNat ≤ 90 →
      char.isAlpha = true ∧ char.toLower.isAlpha = true := by
    intro char capital
    apply forall_capital (fun char => char.isAlpha = true ∧ char.toLower.isAlpha = true) _ capital
    intro code least most
    interval_cases code <;> exact ⟨rfl, rfl⟩
  have own : expected.toLower = expected := by
    apply toLower_of_not_capital
    intro capital
    rw [(letter capital).1] at plain
    cases plain
  by_cases capital : 65 ≤ char.toNat ∧ char.toNat ≤ 90
  · have alpha := (letter capital).2
    rw [same, own, plain] at alpha
    cases alpha
  · rwa [toLower_of_not_capital capital, own] at same

@[simp] theorem marks_nil : marks interpreter [] = [] := rfl

theorem marks_append (first rest : List Char) :
    marks interpreter (first ++ rest) = marks interpreter first ++ marks interpreter rest := by
  simp [marks]

theorem marks_of_quiet {text : List Char} (quiet : ∀ char ∈ text, isMark interpreter char = false) :
    marks interpreter text = [] := by
  rw [marks, List.map_eq_nil_iff, List.filter_eq_nil_iff]
  intro char member
  simp [quiet char member]

/-- What an atom matches is a digit or a blank. -/
theorem Atom.quiet {atom : Atom} {char : Char} (admitted : atom.admits interpreter char = true) :
    isMark interpreter char = false := by
  cases atom with
  | blank =>
      have same : char = ' ' := of_decide_eq_true admitted
      subst same
      rfl
  | digit =>
      have decimal : isDecimal interpreter char = true := admitted
      rw [isMark, decimal]
      rfl
  | between low high =>
      simp only [Atom.admits, Bool.and_eq_true] at admitted
      have value := interpreter.digitValue_digit admitted.1.1
      rw [isMark, isDecimal, value]
      rfl

theorem takeAtoms_spec {atoms : List Atom} {text group rest : List Char}
    (taken : takeAtoms interpreter atoms text = some (group, rest)) :
    text = group ++ rest ∧ group.length = atoms.length ∧
      ∀ char ∈ group, isMark interpreter char = false := by
  induction atoms generalizing text group with
  | nil =>
      cases taken
      exact ⟨rfl, rfl, by simp⟩
  | cons atom atoms ih =>
      cases text with
      | nil => cases taken
      | cons char text =>
          simp only [takeAtoms] at taken
          split at taken
          · next admitted =>
              obtain ⟨⟨more, remaining⟩, later, same⟩ := Option.map_eq_some_iff.mp taken
              obtain ⟨rfl, rfl⟩ := Prod.mk.inj same
              obtain ⟨rfl, length, quiet⟩ := ih later
              exact ⟨rfl, congrArg (· + 1) length,
                List.forall_mem_cons.mpr ⟨Atom.quiet admitted, quiet⟩⟩
          · cases taken

theorem mem_directive {directive : Directive} {text rest : List Char} {groups : Groups}
    (member : (groups, rest) ∈ candidates interpreter (.directive directive) text) :
    ∃ atoms ∈ directive.alternatives, ∃ group, text = group ++ rest ∧
      group.length = atoms.length ∧ ∀ char ∈ group, isMark interpreter char = false := by
  simp only [candidates, List.mem_filterMap, Option.map_eq_some_iff] at member
  obtain ⟨atoms, listed, ⟨group, remaining⟩, taken, same⟩ := member
  obtain ⟨-, rfl⟩ := Prod.mk.inj same
  exact ⟨atoms, listed, group, takeAtoms_spec taken⟩

theorem mem_literal {expected : Char} {text rest : List Char} {groups : Groups}
    (member : (groups, rest) ∈ candidates interpreter (.literal expected) text) :
    ∃ char, text = char :: rest ∧ char.toLower = expected.toLower := by
  cases text with
  | nil => cases member
  | cons char text =>
      simp only [candidates] at member
      split at member
      · next same =>
          obtain ⟨-, rfl⟩ := Prod.mk.inj (List.mem_singleton.mp member)
          exact ⟨char, rfl, same⟩
      · cases member

theorem mem_blanks {text rest : List Char} {groups : Groups}
    (member : (groups, rest) ∈ candidates interpreter .blanks text) :
    ∃ run, text = run ++ rest ∧ ∀ char ∈ run, isBlank interpreter char = true := by
  simp only [candidates, List.mem_map, List.mem_range, Prod.mk.injEq] at member
  obtain ⟨spared, -, -, rfl⟩ := member
  refine ⟨_, (List.take_append_drop _ text).symm, ?_⟩
  intro char taken
  have run : text.take (text.takeWhile (isBlank interpreter)).length =
      text.takeWhile (isBlank interpreter) :=
    (List.prefix_iff_eq_take.mp (List.takeWhile_prefix _)).symm
  have earlier := (List.take_sublist_take_left (Nat.sub_le _ spared)).subset taken
  rw [run] at earlier
  exact List.mem_takeWhile_imp earlier

theorem marks_of_candidate {token : Token} {tokens : List Token}
    (marked : Marked interpreter (token :: tokens)) {text rest : List Char} {groups : Groups}
    (member : (groups, rest) ∈ candidates interpreter token text) :
    marks interpreter text = literals [token] ++ marks interpreter rest := by
  cases token with
  | directive directive =>
      obtain ⟨-, -, group, rfl, -, quiet⟩ := mem_directive member
      rw [marks_append, marks_of_quiet quiet]
      rfl
  | literal expected =>
      obtain ⟨char, rfl, same⟩ := mem_literal member
      have mark : isMark interpreter char = true := by
        rw [← isMark_toLower, same, isMark_toLower]
        exact List.all_eq_true.mp marked expected List.mem_cons_self
      simp [marks, literals, separators, mark, same]
  | blanks =>
      obtain ⟨run, rfl, blank⟩ := mem_blanks member
      have quiet : ∀ char ∈ run, isMark interpreter char = false := by
        intro char listed
        simp [isMark, blank char listed]
      rw [marks_append, marks_of_quiet quiet]
      rfl

/-- A match begins with one of the ways its first token may match. -/
theorem search_cons {token : Token} {tokens : List Token} {text remaining : List Char}
    {groups : Groups}
    (found : search interpreter (token :: tokens) text = some (groups, remaining)) :
    ∃ first more rest, (first, rest) ∈ candidates interpreter token text ∧
      search interpreter tokens rest = some (more, remaining) := by
  obtain ⟨⟨first, rest⟩, member, later⟩ := List.exists_of_findSome?_eq_some found
  obtain ⟨⟨more, left⟩, matched, same⟩ := Option.map_eq_some_iff.mp later
  obtain ⟨-, rfl⟩ := Prod.mk.inj same
  exact ⟨first, more, rest, member, matched⟩

theorem marks_of_search {tokens : List Token} (marked : Marked interpreter tokens)
    {text remaining : List Char} {groups : Groups}
    (found : search interpreter tokens text = some (groups, remaining)) :
    marks interpreter text = literals tokens ++ marks interpreter remaining := by
  induction tokens generalizing text groups with
  | nil =>
      cases found
      rfl
  | cons token tokens ih =>
      obtain ⟨first, more, rest, member, later⟩ := search_cons found
      have split : separators (token :: tokens) = separators [token] ++ separators tokens :=
        List.filterMap_append (l := [token])
      have others : Marked interpreter tokens := by
        rw [Marked, split, List.all_append, Bool.and_eq_true] at marked
        exact marked.2
      calc marks interpreter text
          = literals [token] ++ marks interpreter rest := marks_of_candidate marked member
        _ = literals [token] ++ (literals tokens ++ marks interpreter remaining) := by
            rw [ih others later]
        _ = literals (token :: tokens) ++ marks interpreter remaining := by
            rw [literals, literals, literals, split, List.map_append, List.append_assoc]

/-- A text that is read matches its format as a whole. -/
theorem search_of_strptime {value format : String} {wall : Int}
    (read : strptime interpreter value format = some wall) :
    ∃ tokens groups, compile interpreter format.toList = some tokens ∧
      search interpreter tokens value.toList = some (groups, []) := by
  simp only [strptime, Option.bind_eq_bind, Option.bind_eq_some_iff] at read
  obtain ⟨tokens, compiled, ⟨groups, rest⟩, found, year, -, month, -, day, -, hour, -, minute, -,
    second, -, accepted⟩ := read
  split at accepted
  · next whole =>
      obtain ⟨rfl, -⟩ := whole
      exact ⟨tokens, groups, compiled, found⟩
  · cases accepted

theorem marks_of_strptime {value format : String} {tokens : List Token} {wall : Int}
    (compiled : compile interpreter format.toList = some tokens)
    (marked : Marked interpreter tokens)
    (read : strptime interpreter value format = some wall) :
    marks interpreter value.toList = literals tokens := by
  obtain ⟨own, groups, ownCompiled, found⟩ := search_of_strptime read
  obtain rfl := Option.some.inj (ownCompiled.symm.trans compiled)
  rw [marks_of_search marked found, marks_nil, List.append_nil]

end Marks

/-! ## What is written is read -/

section Written

variable {interpreter : Interpreter}

/-- How many digits a directive writes. -/
def Directive.width : Directive → Nat
  | .Y => 4
  | _ => 2

def Directive.Admits : Directive → Nat → Prop
  | .d, number => 1 ≤ number ∧ number ≤ 31
  | .m, number => 1 ≤ number ∧ number ≤ 12
  | .Y, number => number < 10000
  | .H, number => number < 24
  | .M, number => number < 60
  | .S, number => number < 60

/-- The number of a directive that a format does not have. -/
def Directive.default : Directive → Nat
  | .d => 1
  | .m => 1
  | .Y => 1900
  | .H => 0
  | .M => 0
  | .S => 0

variable (numbers : Directive → Nat)

def digitsOf (directive : Directive) : List Char :=
  (padded 10 directive.width (numbers directive)).toList

def written : List Token → List Char
  | [] => []
  | .directive directive :: tokens => digitsOf numbers directive ++ written tokens
  | .literal char :: tokens => char :: written tokens
  | .blanks :: tokens => ' ' :: written tokens

def groupsOf (tokens : List Token) : Groups :=
  tokens.filterMap fun token =>
    match token with
    | .directive directive => some (directive, digitsOf numbers directive)
    | _ => none

/-- Behind a blank there are digits. -/
def Spaced : List Token → Prop
  | [] => True
  | [.blanks] => False
  | .blanks :: .directive directive :: tokens => Spaced (.directive directive :: tokens)
  | .blanks :: _ :: _ => False
  | _ :: tokens => Spaced tokens

variable {numbers}

theorem isDigit_of_mem_digitsOf {directive : Directive} {char : Char}
    (member : char ∈ digitsOf numbers directive) : char.isDigit = true :=
  isDigit_of_mem_padded member

theorem digitsOf_ne_nil (directive : Directive) : digitsOf numbers directive ≠ [] := by
  simp [digitsOf, padded]

variable (interpreter) in
theorem takeAtoms_digits {group : List Char} (digits : ∀ char ∈ group, char.isDigit = true)
    (rest : List Char) :
    takeAtoms interpreter (List.replicate group.length .digit) (group ++ rest) =
      some (group, rest) := by
  induction group with
  | nil => rfl
  | cons char group ih =>
      have own : Atom.digit.admits interpreter char = true := by
        rw [Atom.admits, isDecimal, interpreter.digitValue_digit (digits char List.mem_cons_self)]
        rfl
      have later := ih fun other member => digits other (List.mem_cons_of_mem char member)
      simp [takeAtoms, List.replicate_succ, own, later]

theorem candidates_two {directive : Directive} (two : directive.width = 2)
    (fits : directive.Admits (numbers directive)) (rest : List Char) :
    (candidates interpreter (.directive directive) (digitsOf numbers directive ++ rest)).head? =
      some ([(directive, digitsOf numbers directive)], rest) := by
  rw [digitsOf, two]
  generalize numbers directive = number at fits
  cases directive with
  | d =>
      obtain ⟨least, most⟩ := fits
      rw [padded_two (by omega)]
      interval_cases number <;> rfl
  | m =>
      obtain ⟨least, most⟩ := fits
      rw [padded_two (by omega)]
      interval_cases number <;> rfl
  | Y => cases two
  | H =>
      have bound : number < 24 := fits
      rw [padded_two (by omega)]
      interval_cases number <;> rfl
  | M =>
      have bound : number < 60 := fits
      rw [padded_two (by omega)]
      interval_cases number <;> rfl
  | S =>
      have bound : number < 60 := fits
      rw [padded_two (by omega)]
      interval_cases number <;> rfl

theorem candidates_year (fits : Directive.Y.Admits (numbers .Y)) (rest : List Char) :
    (candidates interpreter (.directive .Y) (digitsOf numbers .Y ++ rest)).head? =
      some ([(.Y, digitsOf numbers .Y)], rest) := by
  have length : (digitsOf numbers .Y).length = 4 := length_padded (by decide) fits
  have taken : takeAtoms interpreter [.digit, .digit, .digit, .digit]
      (digitsOf numbers .Y ++ rest) = some (digitsOf numbers .Y, rest) := by
    have digits : ∀ char ∈ digitsOf numbers .Y, char.isDigit = true := fun char member =>
      isDigit_of_mem_digitsOf member
    have own := takeAtoms_digits interpreter digits rest
    rwa [length] at own
  simp [candidates, Directive.alternatives, taken]

theorem candidates_written {directive : Directive}
    (fits : directive.Admits (numbers directive)) (rest : List Char) :
    (candidates interpreter (.directive directive) (digitsOf numbers directive ++ rest)).head? =
      some ([(directive, digitsOf numbers directive)], rest) := by
  by_cases year : directive = .Y
  · subst year
    exact candidates_year fits rest
  · exact candidates_two (by cases directive <;> first | rfl | exact absurd rfl year) fits rest

theorem search_of_head {token : Token} {tokens : List Token} {text rest remaining : List Char}
    {groups more : Groups}
    (preferred : (candidates interpreter token text).head? = some (groups, rest))
    (found : search interpreter tokens rest = some (more, remaining)) :
    search interpreter (token :: tokens) text = some (groups ++ more, remaining) := by
  obtain ⟨others, listed⟩ := List.head?_eq_some_iff.mp preferred
  simp [search, listed, found]

theorem isBlank_of_isDigit {char : Char} (digit : char.isDigit = true) :
    isBlank interpreter char = false := by
  have bounds := Interpreter.toNat_of_isDigit digit
  have bound : char.toNat < 127 := by omega
  rw [isBlank, if_pos bound]
  simp
  omega

/-- The digits behind a blank end the run. -/
theorem candidates_blank {directive : Directive} (tokens : List Token) :
    (candidates interpreter .blanks
      (' ' :: written numbers (.directive directive :: tokens))).head? =
        some ([], written numbers (.directive directive :: tokens)) := by
  have digits : ∀ char ∈ digitsOf numbers directive, isBlank interpreter char = false :=
    fun char member => isBlank_of_isDigit (isDigit_of_mem_digitsOf member)
  have blank : isBlank interpreter ' ' = true := rfl
  obtain ⟨first, others, shown⟩ := List.exists_cons_of_ne_nil (digitsOf_ne_nil directive)
  have own := digits first (shown ▸ List.mem_cons_self)
  simp [candidates, written, shown, blank, own]

theorem candidates_literal (char : Char) (rest : List Char) :
    (candidates interpreter (.literal char) (char :: rest)).head? = some ([], rest) := by
  simp [candidates]

theorem search_written (fits : ∀ directive : Directive, directive.Admits (numbers directive))
    {tokens : List Token} (spaced : Spaced tokens) :
    search interpreter tokens (written numbers tokens) = some (groupsOf numbers tokens, []) := by
  induction tokens with
  | nil => rfl
  | cons token tokens ih =>
      cases token with
      | directive directive =>
          exact search_of_head (candidates_written (fits directive) _) (ih spaced)
      | literal char => exact search_of_head (candidates_literal char _) (ih spaced)
      | blanks =>
          match tokens, spaced with
          | .directive directive :: tokens, spaced =>
              exact search_of_head (candidates_blank tokens) (ih spaced)

theorem lookup_groupsOf (tokens : List Token) (directive : Directive) :
    (groupsOf numbers tokens).lookup directive =
      if .directive directive ∈ tokens then some (digitsOf numbers directive) else none := by
  induction tokens with
  | nil => rfl
  | cons token tokens ih =>
      cases token with
      | directive own =>
          by_cases same : directive = own
          · subst same
            simp [groupsOf]
          · have other : (directive == own) = false := beq_false_of_ne same
            simpa [groupsOf, List.lookup_cons, other, same] using ih
      | literal char => simpa [groupsOf] using ih
      | blanks => simpa [groupsOf] using ih

theorem Directive.bound_of_admits {directive : Directive} {number : Nat}
    (admits : directive.Admits number) : number < 10 ^ directive.width := by
  cases directive <;> simp only [Directive.Admits, Directive.width] at admits ⊢ <;> omega

/-- The numbers of a match are those that were written. -/
theorem field_groupsOf
    (limit : interpreter.maxStrDigits = 0 ∨ 640 ≤ interpreter.maxStrDigits)
    {tokens : List Token} {directive : Directive}
    (fits : directive.Admits (numbers directive))
    (present : .directive directive ∈ tokens ∨ numbers directive = directive.default) :
    field interpreter (groupsOf numbers tokens) directive directive.default =
      some (numbers directive) := by
  have width : 0 < directive.width ∧ directive.width ≤ 4 := by
    cases directive <;> decide
  have length : (digitsOf numbers directive).length = directive.width :=
    length_padded width.1 (Directive.bound_of_admits fits)
  have admitted : interpreter.Admits (digitsOf numbers directive).length :=
    limit.imp_right fun most => by omega
  have read := interpreter.int_digits (digitsOf_ne_nil directive)
    (fun char member => isDigit_of_mem_digitsOf member) admitted
  have value : Nat.ofDigitChars 10 (digitsOf numbers directive) 0 = numbers directive :=
    ofDigitChars_padded _ _
  rw [value] at read
  rw [field, lookup_groupsOf]
  by_cases listed : .directive directive ∈ tokens
  · simp only [if_pos listed, read]
    rfl
  · simp only [if_neg listed]
    exact congrArg some (present.resolve_left listed).symm

def numberOf (date : Calendar.Date) (clock : Clock) : Directive → Nat
  | .d => date.day
  | .m => date.month
  | .Y => date.year.toNat
  | .H => clock.hour
  | .M => clock.minute
  | .S => clock.second

theorem monthDays_le (year : Int) (month : Nat) : monthDays year month ≤ 31 := by
  have leap := (Calendar.isLeap year).toNat_le
  have each : ∀ days ∈ [31, 28 + (Calendar.isLeap year).toNat, 31, 30, 31, 30, 31, 31, 30, 31,
      30, 31], days ≤ 31 := by
    simp
    omega
  rw [monthDays, List.getD_eq_getElem?_getD]
  cases listed : [31, 28 + (Calendar.isLeap year).toNat, 31, 30, 31, 30, 31, 31, 30, 31, 30,
      31][month - 1]? with
  | none => exact Nat.zero_le 31
  | some days => exact each days (List.mem_of_getElem? listed)

theorem admits_numberOf {date : Calendar.Date} {clock : Clock} (valid : ValidDate date)
    (inDay : clock.Valid) (directive : Directive) :
    directive.Admits (numberOf date clock directive) := by
  obtain ⟨⟨firstYear, lastYear⟩, month, firstDay, lastDay⟩ := valid
  obtain ⟨hour, minute, second⟩ := inDay
  have days := monthDays_le date.year date.month
  cases directive with
  | d => exact ⟨firstDay, lastDay.trans days⟩
  | m => exact month
  | Y =>
      have year : date.year.toNat < 10000 := by omega
      exact year
  | H => exact hour
  | M => exact minute
  | S => exact second

variable (interpreter) in
/-- `strftime` of the directives above, with four digits for the year. -/
def strftime (date : Calendar.Date) (clock : Clock) (format : String) : String :=
  .ofList (written (numberOf date clock) ((compile interpreter format.toList).getD []))

/-- A date and a time written in a format are read back, where the format leaves out nothing
but what it has a default for. -/
theorem strptime_strftime
    (limit : interpreter.maxStrDigits = 0 ∨ 640 ≤ interpreter.maxStrDigits)
    {format : String} {tokens : List Token}
    (compiled : compile interpreter format.toList = some tokens) (spaced : Spaced tokens)
    {date : Calendar.Date} {clock : Clock} (valid : ValidDate date) (inDay : clock.Valid)
    (whole : clock.microsecond = 0)
    (present : ∀ directive : Directive,
      .directive directive ∈ tokens ∨ numberOf date clock directive = directive.default) :
    strptime interpreter (strftime interpreter date clock format) format =
      some (days date.days + clock.length) := by
  have fits := admits_numberOf valid inDay
  have read : ∀ directive : Directive,
      field interpreter (groupsOf (numberOf date clock) tokens) directive directive.default =
        some (numberOf date clock directive) := fun directive =>
    field_groupsOf limit (fits directive) (present directive)
  have year := read .Y
  have month := read .m
  have day := read .d
  have hour := read .H
  have minute := read .M
  have second := read .S
  have positive : (date.year.toNat : Int) = date.year := Int.toNat_of_nonneg (by
    have first := valid.1.1
    omega)
  have sameClock : (⟨clock.hour, clock.minute, clock.second, 0⟩ : Clock) = clock := by
    rw [← whole]
  simp only [Directive.default, numberOf] at year month day hour minute second
  simp only [strptime, strftime, compiled, Option.getD_some, String.toList_ofList, search_written fits spaced, year, month, day,
    hour, minute, second, Option.bind_eq_bind, Option.bind_some, positive, sameClock]
  exact if_pos ⟨trivial, valid, inDay⟩

end Written

end ApiBank.Text.Strptime
