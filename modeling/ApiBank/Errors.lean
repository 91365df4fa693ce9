import Mathlib.Tactic.Common

/-!
# Exceptions

One constructor for each exception class that the modelled code raises, with the
message text the code formats.
-/

namespace ApiBank

set_option autoImplicit false

inductive Error where
  | valueError (message : String)
  | typeError (message : String)
  | attributeError
  | stopIteration
  | runtimeError (message : String)
  | invalidOperation
  | missingGreenlet
  | integrityError
  | dbapiError
  | insufficientFunds (message : String)
  | idempotencyConflict (message : String)
  | planNotFound (message : String)
  | systemBankNotConfigured (message : String)
  | paymentNamePoolFull (message : String)
  | couponNotFound (message : String)
  | couponExpired (message : String)
  | couponExhausted (message : String)
  | couponAlreadyRedeemed (message : String)
  | couponNotApplicable (message : String)
  | httpException (statusCode : Nat) (detail : String)
deriving DecidableEq, Repr

/-- A statement that the database refuses: the session runs no other one in its transaction. -/
def Error.abortsTransaction : Error → Bool
  | .integrityError => true
  | .dbapiError => true
  | _ => false

/-- `repr` of a Python string without control characters: in single quotes
(code 39), or in double quotes (code 34) when the text has the former but not the
latter; the quote in use and the backslash (code 92) are escaped. -/
def strRepr (text : String) : String :=
  let single := Char.ofNat 39
  let double := Char.ofNat 34
  let backslash := Char.ofNat 92
  let quote :=
    if text.toList.contains single && !text.toList.contains double then double else single
  let escape (char : Char) : List Char :=
    if char = backslash ∨ (char = single ∧ quote = single) then [backslash, char] else [char]
  String.ofList (quote :: text.toList.flatMap escape ++ [quote])

end ApiBank
