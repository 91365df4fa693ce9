import ApiBank.Crypto.Scans
import ApiBank.Crypto.TwinStates
import ApiBank.Transition.TwoRuns

/-!
# Requests from two states of one merchant

Scans, reconciliations, expiries, cancelations and creations from two states that hold
the same of a merchant. A request about the merchant's rows does the same in both, and one
about those of others leaves the merchant's as they are.
-/

namespace ApiBank.Crypto.TwinRequests

open ApiBank.Db ApiBank.Relational ApiBank.Transition
open DistinctAmounts History Invoices InvoiceTurns MerchantParts MerchantWrites Operations
open Settlement TwinStates Watchers

set_option autoImplicit false

variable {runtime : Runtime} {merchant : String}
  {left right left' right' base base' before after : CryptoDb}

/-- Two states in which matches that draw these tokens will return. -/
structure Prepared (merchant : String) (tokens : List String) (left right : CryptoDb) : Prop where
  twins : Twins merchant left right
  left : Ready left tokens
  right : Ready right tokens

section Scanning

variable {transfer other : CryptoChainTransfer} {draws : MatchDraws} {tokens : List String}

theorem ready_tail {token : String} (ready : Ready before (token :: tokens)) :
    Ready before tokens where
  payable := ready.payable
  clear := {
    distinct := (List.nodup_cons.mp ready.clear.distinct).2
    unused := fun other listed => ready.clear.unused other (List.mem_cons_of_mem token listed) }

theorem Prepared.tail {token : String} (prepared : Prepared merchant (token :: tokens) left right) :
    Prepared merchant tokens left right :=
  ⟨prepared.twins, ready_tail prepared.left, ready_tail prepared.right⟩

def tokensOf (sightings : List Sighting) : List String :=
  sightings.map fun sighting => sighting.2.callbackId

end Scanning

section Reconciling

variable {draws : String → MatchDraws} {transfers others : List CryptoChainTransfer}

def tokensFor (draws : String → MatchDraws) (transfers : List CryptoChainTransfer) : List String :=
  transfers.map fun transfer => (draws transfer.id).callbackId

end Reconciling

section Polling

variable {tokens : List String} {networkId tokenId : String} {startBlock now : Int}
  {cursor : CryptoWatcherCursor}

end Polling

end ApiBank.Crypto.TwinRequests
