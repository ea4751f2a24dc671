import Solvent.Framework.Contract
import Solvent.Framework.Mapping
import Solvent.Framework.Word

/-! # Tokens that move exact amounts

    The balances and the allowances of every token, with the calls that move
    them. A token may refuse a transfer or an approval for reasons of its own,
    but what it moves is the amount it was asked to move.

    `Moved b ts b'` says that the transfers `ts` are all that happened to the
    balances between `b` and `b'`. It composes, so what an account ends with
    after a run is read off the run's transfers.
-/

/-- What every account holds of every token, and lets others spend. -/
structure Bank (T A : Type) where
  balanceOf : T → A → U256
  /-- By token, owner and spender. -/
  allowance : T → A → A → U256

namespace Bank

/-- One movement of a token. -/
structure Transfer (T A : Type) where
  token : T
  src : A
  dst : A
  amount : U256
  deriving DecidableEq

inductive TokenError where
  | InsufficientAllowance
  | InsufficientBalance
  | Overflow
  /-- The token's own reasons. -/
  | Refused
  deriving DecidableEq

/-- What the tokens refuse. -/
structure Rules (T A : Type) where
  transfers : Bank T A → Transfer T A → Bool
  /-- By token, the allowance there is and the one asked for. -/
  approves : T → U256 → U256 → Bool

variable {T A : Type} [DecidableEq T] [DecidableEq A]

/-! ## Calls -/

def set_balance (b : Bank T A) (token : T) (account : A) (value : U256) : Bank T A :=
  { b with
    balanceOf := Mapping.set b.balanceOf token (Mapping.set (b.balanceOf token) account value) }

def set_allowance (b : Bank T A) (token : T) (owner spender : A) (value : U256) : Bank T A :=
  { b with
    allowance := Mapping.set b.allowance token (Mapping.set (b.allowance token) owner
      (Mapping.set (b.allowance token owner) spender value)) }

section Calls

variable (rules : Rules T A)

def transfer (b : Bank T A) (t : Transfer T A) : Except TokenError (Bank T A) := do
  Contract.require (rules.transfers b t = true) .Refused
  let left ← Contract.expect ((b.balanceOf t.token t.src).checked_sub t.amount)
    .InsufficientBalance
  let b := b.set_balance t.token t.src left
  let more ← Contract.expect ((b.balanceOf t.token t.dst).checked_add t.amount) .Overflow
  .ok (b.set_balance t.token t.dst more)

/-- The greatest allowance is never used up. -/
def spend_allowance (b : Bank T A) (t : Transfer T A) (spender : A) :
    Except TokenError (Bank T A) :=
  if b.allowance t.token t.src spender = U256.MAX then .ok b
  else do
    let left ← Contract.expect ((b.allowance t.token t.src spender).checked_sub t.amount)
      .InsufficientAllowance
    .ok (b.set_allowance t.token t.src spender left)

def transfer_from (b : Bank T A) (spender : A) (t : Transfer T A) :
    Except TokenError (Bank T A) := do
  let b ← b.spend_allowance t spender
  b.transfer rules t

def approve (b : Bank T A) (token : T) (owner spender : A) (value : U256) :
    Except TokenError (Bank T A) :=
  if rules.approves token (b.allowance token owner spender) value then
    .ok (b.set_allowance token owner spender value)
  else .error .Refused

/-- An approval that goes through zero where the token does not take it as it is. -/
def force_approve (b : Bank T A) (token : T) (owner spender : A) (value : U256) :
    Except TokenError (Bank T A) :=
  match b.approve rules token owner spender value with
  | .ok b' => .ok b'
  | .error _ => do
    let b ← b.approve rules token owner spender 0
    b.approve rules token owner spender value

end Calls

theorem set_balance_balanceOf (b : Bank T A) (token token' : T) (account account' : A)
    (value : U256) :
    (b.set_balance token account value).balanceOf token' account' =
      if token' = token ∧ account' = account then value else b.balanceOf token' account' := by
  by_cases htoken : token' = token
  · subst htoken
    by_cases haccount : account' = account
    · subst haccount
      simp [set_balance]
    · simp [set_balance, Mapping.set_ne, haccount]
  · simp [set_balance, Mapping.set_ne, htoken]

theorem set_allowance_self (b : Bank T A) (token : T) (owner spender : A) (value : U256) :
    (b.set_allowance token owner spender value).allowance token owner spender = value := by
  simp [set_allowance]

/-- **Frame rule.** One allowance is written. -/
theorem set_allowance_ne {b : Bank T A} {token token' : T} {owner owner' spender spender' : A}
    {value : U256} (h : ¬(token' = token ∧ owner' = owner ∧ spender' = spender)) :
    (b.set_allowance token owner spender value).allowance token' owner' spender' =
      b.allowance token' owner' spender' := by
  by_cases htoken : token' = token
  · subst htoken
    by_cases howner : owner' = owner
    · subst howner
      have hspender : spender' ≠ spender := fun heq => h ⟨rfl, rfl, heq⟩
      simp [set_allowance, Mapping.set_ne, hspender]
    · simp [set_allowance, Mapping.set_ne, howner]
  · simp [set_allowance, Mapping.set_ne, htoken]

/-! ## What moved -/

/-- What an account sends in a run of transfers. -/
def sent (token : T) (account : A) (ts : List (Transfer T A)) : ℕ :=
  (ts.map fun t => if t.token = token ∧ t.src = account then t.amount.val else 0).sum

/-- What an account is sent. -/
def received (token : T) (account : A) (ts : List (Transfer T A)) : ℕ :=
  (ts.map fun t => if t.token = token ∧ t.dst = account then t.amount.val else 0).sum

@[simp] theorem sent_nil (token : T) (account : A) : sent token account [] = 0 := rfl

@[simp] theorem received_nil (token : T) (account : A) : received token account [] = 0 := rfl

@[simp] theorem sent_cons (token : T) (account : A) (t : Transfer T A)
    (ts : List (Transfer T A)) :
    sent token account (t :: ts) =
      (if t.token = token ∧ t.src = account then t.amount.val else 0) + sent token account ts := by
  simp [sent]

@[simp] theorem received_cons (token : T) (account : A) (t : Transfer T A)
    (ts : List (Transfer T A)) :
    received token account (t :: ts) =
      (if t.token = token ∧ t.dst = account then t.amount.val else 0) +
        received token account ts := by
  simp [received]

@[simp] theorem sent_append (token : T) (account : A) (ts ts' : List (Transfer T A)) :
    sent token account (ts ++ ts') = sent token account ts + sent token account ts' := by
  simp [sent]

@[simp] theorem received_append (token : T) (account : A) (ts ts' : List (Transfer T A)) :
    received token account (ts ++ ts') =
      received token account ts + received token account ts' := by
  simp [received]

/-- The transfers are all that happened to the balances. -/
def Moved (b : Bank T A) (ts : List (Transfer T A)) (b' : Bank T A) : Prop :=
  ∀ token account, (b'.balanceOf token account).val + sent token account ts =
    (b.balanceOf token account).val + received token account ts

theorem Moved.of_balances {b b' : Bank T A} (h : b'.balanceOf = b.balanceOf) : Moved b [] b' := by
  intro token account
  rw [h]
  rfl

/-- **Composition rule.** -/
theorem Moved.append {b b' b'' : Bank T A} {ts ts' : List (Transfer T A)} (h : Moved b ts b')
    (h' : Moved b' ts' b'') : Moved b (ts ++ ts') b'' := by
  intro token account
  have hfirst := h token account
  have hrest := h' token account
  rw [sent_append, received_append]
  omega

/-! ## What each call does -/

section Specs

variable {rules : Rules T A} {b b' : Bank T A}

/-- **Spec of `transfer`.** -/
theorem transfer_ok {t : Transfer T A} (h : b.transfer rules t = .ok b') :
    Moved b [t] b' ∧ b'.allowance = b.allowance := by
  unfold transfer at h
  obtain ⟨-, h⟩ := Contract.require_bind.mp h
  obtain ⟨left, hleft, h⟩ := Contract.expect_bind.mp h
  obtain ⟨more, hmore, h⟩ := Contract.expect_bind.mp h
  obtain rfl := Except.ok.inj h
  rw [U256.checked_sub_eq_some] at hleft
  rw [U256.checked_add_eq_some, set_balance_balanceOf] at hmore
  refine ⟨?_, rfl⟩
  intro token account
  rw [set_balance_balanceOf, set_balance_balanceOf, sent_cons, sent_nil, received_cons,
    received_nil]
  by_cases htoken : token = t.token
  case neg =>
    have hother : t.token ≠ token := fun h => htoken h.symm
    simp only [htoken, hother, false_and, if_false]
  subst htoken
  simp only [true_and] at hmore ⊢
  -- The sender is debited before the receiver is read, so the two may be one.
  by_cases hdst : account = t.dst
  · subst hdst
    by_cases hsrc : t.dst = t.src
    · rw [if_pos hsrc] at hmore
      rw [if_pos rfl, if_pos hsrc.symm, if_pos rfl, hsrc]
      omega
    · rw [if_neg hsrc] at hmore
      rw [if_pos rfl, if_neg fun h => hsrc h.symm, if_pos rfl]
      omega
  · have hdst' : t.dst ≠ account := fun h => hdst h.symm
    rw [if_neg hdst, if_neg hdst']
    by_cases hsrc : account = t.src
    · rw [if_pos hsrc, if_pos hsrc.symm, hsrc]
      omega
    · have hsrc' : t.src ≠ account := fun h => hsrc h.symm
      rw [if_neg hsrc, if_neg hsrc']

theorem spend_allowance_ok {t : Transfer T A} {spender : A}
    (h : b.spend_allowance t spender = .ok b') :
    b'.balanceOf = b.balanceOf ∧ ∀ token owner spender',
      ¬(token = t.token ∧ owner = t.src ∧ spender' = spender) →
        b'.allowance token owner spender' = b.allowance token owner spender' := by
  unfold spend_allowance at h
  split at h
  · obtain rfl := Except.ok.inj h
    exact ⟨rfl, fun _ _ _ _ => rfl⟩
  · obtain ⟨left, -, h⟩ := Contract.expect_bind.mp h
    obtain rfl := Except.ok.inj h
    exact ⟨rfl, fun _ _ _ hne => set_allowance_ne hne⟩

/-- **Spec of `transfer_from`.** Only the spender's own allowance is used. -/
theorem transfer_from_ok {t : Transfer T A} {spender : A}
    (h : b.transfer_from rules spender t = .ok b') :
    Moved b [t] b' ∧ ∀ token owner spender',
      ¬(token = t.token ∧ owner = t.src ∧ spender' = spender) →
        b'.allowance token owner spender' = b.allowance token owner spender' := by
  unfold transfer_from at h
  obtain ⟨spent, hspent, h⟩ := Contract.bind_eq_ok.mp h
  obtain ⟨hbalances, hallowances⟩ := spend_allowance_ok hspent
  obtain ⟨hmoved, hkept⟩ := transfer_ok h
  refine ⟨(Moved.of_balances hbalances).append hmoved, ?_⟩
  intro token owner spender' hne
  rw [hkept]
  exact hallowances token owner spender' hne

theorem approve_ok {token : T} {owner spender : A} {value : U256}
    (h : b.approve rules token owner spender value = .ok b') :
    b' = b.set_allowance token owner spender value := by
  unfold approve at h
  split at h
  · exact (Except.ok.inj h).symm
  · cases h

/-- **Spec of `force_approve`.** However it gets there, one allowance is written. -/
theorem force_approve_ok {token : T} {owner spender : A} {value : U256}
    (h : b.force_approve rules token owner spender value = .ok b') :
    b'.balanceOf = b.balanceOf ∧ b'.allowance token owner spender = value ∧
      ∀ token' owner' spender', ¬(token' = token ∧ owner' = owner ∧ spender' = spender) →
        b'.allowance token' owner' spender' = b.allowance token' owner' spender' := by
  unfold force_approve at h
  split at h
  · rename_i _ happrove
    obtain rfl := Except.ok.inj h
    obtain rfl := approve_ok happrove
    exact ⟨rfl, set_allowance_self _ _ _ _ _, fun _ _ _ hne => set_allowance_ne hne⟩
  · obtain ⟨zeroed, hzero, h⟩ := Contract.bind_eq_ok.mp h
    obtain rfl := approve_ok hzero
    obtain rfl := approve_ok h
    refine ⟨rfl, set_allowance_self _ _ _ _ _, ?_⟩
    intro token' owner' spender' hne
    rw [set_allowance_ne hne, set_allowance_ne hne]

end Specs

end Bank
