import Mathlib
import Solvent.Framework.Contract
import Solvent.Contracts.Types

/-! # CCTP V2 messages

    The fixed header, the burn body and the repayment hook, each field at its
    offset in the 440 bytes.
-/

namespace Solvent.Contracts

open Abi Contract

namespace CctpMessageLib

def MESSAGE_LENGTH : ℕ := 440

def HOOK_VERSION : U256 := 1

structure ParsedMessage where
  version : Uint32
  sourceDomain : Uint32
  destinationDomain : Uint32
  nonce : B256
  sender : B256
  recipient : B256
  destinationCaller : B256
  minFinalityThreshold : Uint32
  finalityThresholdExecuted : Uint32
  burnVersion : Uint32
  burnToken : B256
  mintRecipient : B256
  amount : U256
  messageSender : B256
  maxFee : U256
  feeExecuted : U256
  expirationBlock : U256
  hookVersion : U256
  hookOrderId : B256
  deriving DecidableEq

/-- `message[first:last]` -/
def slice (message : Bytes) (first last : ℕ) : Bytes := (message.drop first).take (last - first)

/-- `uint32(bytes4(message[first:first + 4]))` -/
def uint32_at (message : Bytes) (first : ℕ) : Uint32 :=
  Fin.ofNat _ (number (slice message first (first + 4)))

/-- `bytes32(message[first:first + 32])` -/
def bytes32_at (message : Bytes) (first : ℕ) : U256 :=
  Fin.ofNat _ (number (slice message first (first + 32)))

/-- `none` stands for `InvalidMessageLength`. -/
def parse (message : Bytes) : Option ParsedMessage :=
  if message.length = MESSAGE_LENGTH then
    some {
      version := uint32_at message 0
      sourceDomain := uint32_at message 4
      destinationDomain := uint32_at message 8
      nonce := bytes32_at message 12
      sender := bytes32_at message 44
      recipient := bytes32_at message 76
      destinationCaller := bytes32_at message 108
      minFinalityThreshold := uint32_at message 140
      finalityThresholdExecuted := uint32_at message 144
      burnVersion := uint32_at message 148
      burnToken := bytes32_at message 152
      mintRecipient := bytes32_at message 184
      amount := bytes32_at message 216
      messageSender := bytes32_at message 248
      maxFee := bytes32_at message 280
      feeExecuted := bytes32_at message 312
      expirationBlock := bytes32_at message 344
      hookVersion := bytes32_at message 376
      hookOrderId := bytes32_at message 408 }
  else none

def repaymentHook (orderId : B256) : Bytes := words [HOOK_VERSION, orderId]

def addressToBytes32 (value : Address) : B256 := address_word value

end CctpMessageLib

end Solvent.Contracts
