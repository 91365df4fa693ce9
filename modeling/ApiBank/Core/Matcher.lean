import ApiBank.Db.Models
import Mathlib.Data.List.Infix

/-!
# Payment matcher

A transfer matches an order when the order's code, stripped of accents, case and
punctuation, occurs in the transfer's content, stripped the same way. The Unicode
tables of the Python runtime (`unicodedata`, `str.lower`) are a parameter.
-/

namespace ApiBank.Core.Matcher

open ApiBank.Db

set_option autoImplicit false

/-- `unicodedata.normalize("NFD", ·)`, `unicodedata.category(·) == "Mn"` and
`str.lower`. -/
structure UnicodeData where
  nfd : List Char → List Char
  isMn : Char → Bool
  lower : List Char → List Char

/-- The tables on ASCII text. -/
def UnicodeData.ascii : UnicodeData where
  nfd := id
  isMn := fun _ => false
  lower := List.map Char.toLower

def isAlnum (char : Char) : Bool :=
  ('a' ≤ char && char ≤ 'z') || ('0' ≤ char && char ≤ '9')

def normalizePaymentText (unicode : UnicodeData) (value : String) : List Char :=
  let withoutAccents := (unicode.nfd value.toList).filter fun char => !unicode.isMn char
  let mapped := withoutAccents.map fun char =>
    if char = 'đ' then 'd' else if char = 'Đ' then 'D' else char
  (unicode.lower mapped).filter isAlnum

/-- `needle in haystack`. -/
def isSubstring (needle : List Char) : List Char → Bool
  | [] => needle.isEmpty
  | char :: rest => needle.isPrefixOf (char :: rest) || isSubstring needle rest

theorem isSubstring_iff (needle haystack : List Char) :
    isSubstring needle haystack ↔ needle <:+: haystack := by
  induction haystack with
  | nil => simp [isSubstring]
  | cons char rest ih =>
      rw [isSubstring, Bool.or_eq_true, ih, List.isPrefixOf_iff_prefix, List.infix_cons_iff]

structure MatchInput where
  amount : Int
  content : String

structure MatchCandidate where
  id : String
  code : String
  amount : Int
  status : OrderStatus
  expiredAt : DateTime

inductive MatchResult where
  | matched (orderId : String)
  | unmatched
  | ambiguous
deriving DecidableEq, Repr

/-- The filter of `find_order_match`. -/
def fits (unicode : UnicodeData) (now : Int) (transaction : MatchInput)
    (order : MatchCandidate) : Bool :=
  order.status = .pending && now < order.expiredAt.aware.instant &&
    order.amount = transaction.amount &&
    isSubstring (normalizePaymentText unicode order.code)
      (normalizePaymentText unicode transaction.content)

/-- One match decides, two or more are left to a human. -/
def verdict : List String → MatchResult
  | [] => .unmatched
  | [orderId] => .matched orderId
  | _ :: _ :: _ => .ambiguous

def findOrderMatch (unicode : UnicodeData) (now : Int) (transaction : MatchInput)
    (orders : List MatchCandidate) : MatchResult :=
  verdict ((orders.filter (fits unicode now transaction)).map MatchCandidate.id)

theorem verdict_eq_matched_iff (orderIds : List String) (orderId : String) :
    verdict orderIds = .matched orderId ↔ orderIds = [orderId] := by
  match orderIds with
  | [] => simp [verdict]
  | [_] => simp [verdict]
  | _ :: _ :: _ => simp [verdict]

theorem verdict_eq_unmatched_iff (orderIds : List String) :
    verdict orderIds = .unmatched ↔ orderIds = [] := by
  match orderIds with
  | [] => simp [verdict]
  | [_] => simp [verdict]
  | _ :: _ :: _ => simp [verdict]

theorem verdict_eq_ambiguous_iff (orderIds : List String) :
    verdict orderIds = .ambiguous ↔ 2 ≤ orderIds.length := by
  match orderIds with
  | [] => simp [verdict]
  | [_] => simp [verdict]
  | _ :: _ :: _ => simp [verdict]

theorem findOrderMatch_map {Row : Type} (unicode : UnicodeData) (now : Int)
    (transaction : MatchInput) (candidate : Row → MatchCandidate) (rows : List Row) :
    findOrderMatch unicode now transaction (rows.map candidate) =
      verdict ((rows.filter fun row => fits unicode now transaction (candidate row)).map
        fun row => (candidate row).id) := by
  unfold findOrderMatch
  rw [List.filter_map, List.map_map]
  rfl

end ApiBank.Core.Matcher
