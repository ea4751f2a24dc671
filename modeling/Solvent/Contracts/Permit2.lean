import Solvent.Contracts.Types

/-! # Permit2

    The signature transfers a settler asks Permit2 for. Permit2 and the recovery
    of a signer are not part of the repository: `ecrecover` is a parameter, and
    the structure `Permit2` carries what the settler relies on.
-/

namespace Solvent.Contracts

open Abi

/-- The arguments of `permitWitnessTransferFrom` its digest covers. -/
structure WitnessTransfer where
  token : Address
  amount : U256
  /-- `msg.sender` -/
  spender : Address
  nonce : U256
  deadline : U256
  witness : B256
  witnessTypeString : Bytes

/-- The type of a witness transfer up to its witness. -/
def WITNESS_TYPEHASH_STUB : Bytes :=
  "PermitWitnessTransferFrom(TokenPermissions permitted,address spender,uint256 nonce,uint256 deadline,".toUTF8.data.toList

/-- The parity a recovery byte stands for, in either of its spellings. -/
def y_parity (v : UInt8) : Option Bool :=
  if v = 0 ∨ v = 27 then some false
  else if v = 1 ∨ v = 28 then some true
  else none

section Signatures

variable (ecrecover : B256 → Bool → Bytes → Option Address)

/-- The signatures of an account without code: 65 bytes that end in 27 or 28, or
    64 bytes with the parity in the top bit of the second word. -/
def Signs (signature : Bytes) (hash : B256) (claimedSigner : Address) : Prop :=
  (signature.length = 65 ∧
    ((signature.getLast? = some 27 ∧
        ecrecover hash false (signature.take 64) = some claimedSigner) ∨
      (signature.getLast? = some 28 ∧
        ecrecover hash true (signature.take 64) = some claimedSigner))) ∨
  (signature.length = 64 ∧
    let top := signature.getD 32 0
    ecrecover hash (decide (128 ≤ top)) (signature.take 32 ++ top % 128 :: signature.drop 33) =
      some claimedSigner)

instance (signature : Bytes) (hash : B256) (claimedSigner : Address) :
    Decidable (Signs ecrecover signature hash claimedSigner) := by
  unfold Signs
  infer_instance

variable {ecrecover} in
/-- Of the 65 bytes that recover a signer only those with a byte of 27 or 28
    sign. -/
theorem signs_iff {signature : Bytes} {v : UInt8} {parity : Bool}
    (hlength : signature.length = 65) (hlast : signature.getLast? = some v)
    (hparity : y_parity v = some parity) {hash : B256} {claimedSigner : Address}
    (hsigned : ecrecover hash parity (signature.take 64) = some claimedSigner) :
    Signs ecrecover signature hash claimedSigner ↔ v = 27 ∨ v = 28 := by
  unfold Signs
  rw [hlast]
  constructor
  · rintro (⟨-, hv⟩ | ⟨hshort, -⟩)
    · exact hv.imp (fun h => Option.some.inj h.1) fun h => Option.some.inj h.1
    · -- The compact form is a byte shorter.
      omega
  · rintro (rfl | rfl)
    · obtain rfl : false = parity := Option.some.inj hparity
      exact .inl ⟨hlength, .inl ⟨rfl, hsigned⟩⟩
    · obtain rfl : true = parity := Option.some.inj hparity
      exact .inl ⟨hlength, .inr ⟨rfl, hsigned⟩⟩

end Signatures

/-- A deployed Permit2: its EIP-712 digest of a transfer, and the signatures it
    takes over one. -/
structure Permit2 (keccak256 : Bytes → B256) (ecrecover : B256 → Bool → Bytes → Option Address)
    where
  this : Address
  /-- `block.chainid` -/
  chainid : U256
  digest : WitnessTransfer → B256
  verifies : Bytes → B256 → Address → Bool
  digest_eq : ∀ t, digest t = keccak256 (0x19 :: 0x01 :: words [
    keccak256 (words [
      keccak256 "EIP712Domain(string name,uint256 chainId,address verifyingContract)".toUTF8.data.toList,
      keccak256 "Permit2".toUTF8.data.toList, chainid, address_word this]),
    keccak256 (words [
      keccak256 (WITNESS_TYPEHASH_STUB ++ t.witnessTypeString),
      keccak256 (words [
        keccak256 "TokenPermissions(address token,uint256 amount)".toUTF8.data.toList,
        address_word t.token, t.amount]),
      address_word t.spender, t.nonce, t.deadline, t.witness])])
  verifies_iff : ∀ signature hash claimedSigner,
    verifies signature hash claimedSigner = true ↔ Signs ecrecover signature hash claimedSigner

end Solvent.Contracts
