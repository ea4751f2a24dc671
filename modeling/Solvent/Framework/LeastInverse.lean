import Mathlib
import Solvent.Framework.Loop

/-! # Partial monotone maps and their least inverses

    A fallible map `f` that is monotone and defined on a down-closed set, and a
    fallible `g` that returns, for each non-zero value `f` can reach, an
    argument no larger than any that reaches it. The pair behaves as a Galois
    connection where both sides are defined, and such pairs compose: a fee
    stacked in front of a curve needs no proof of its own.
-/

/-- `g` is the least inverse of the monotone partial map `f`. -/
structure LeastInverse {ε α : Type} [LinearOrder α] [Zero α] (f g : α → Except ε α) : Prop where
  /-- `f` is defined below every argument it is defined at, and monotone. -/
  down : ∀ {a b y}, f b = .ok y → a ≤ b → ∃ x, f a = .ok x ∧ x ≤ y
  /-- An argument whose value reaches `x` bounds `g x`. -/
  least : ∀ {a x y}, f a = .ok y → x ≠ 0 → x ≤ y → ∃ b, g x = .ok b ∧ b ≤ a
  /-- Nothing but zero is reached from zero. -/
  ne_zero : ∀ {x b}, g x = .ok b → x ≠ 0 → b ≠ 0

namespace LeastInverse

variable {ε α : Type} [LinearOrder α] [Zero α]

theorem id : LeastInverse (.ok : α → Except ε α) .ok where
  down {a b y} h hab := ⟨a, rfl, by cases h; exact hab⟩
  least {a x y} h _ hxy := ⟨x, rfl, by cases h; exact hxy⟩
  ne_zero {x b} h hx := by cases h; exact hx

/-- **Composition.** `f₁` then `f₂` is inverted by `g₂` then `g₁`. -/
theorem comp {f₁ g₁ f₂ g₂ : α → Except ε α} (h₁ : LeastInverse f₁ g₁) (h₂ : LeastInverse f₂ g₂) :
    LeastInverse (fun a => f₁ a >>= f₂) (fun x => g₂ x >>= g₁) where
  down {a b y} h hab := by
    obtain ⟨mid, hmid, hy⟩ := Except.bind_eq_ok.1 h
    obtain ⟨mid', hmid', hle⟩ := h₁.down hmid hab
    obtain ⟨x, hx, hxy⟩ := h₂.down hy hle
    exact ⟨x, Except.bind_eq_ok.2 ⟨mid', hmid', hx⟩, hxy⟩
  least {a x y} h hx hxy := by
    obtain ⟨mid, hmid, hy⟩ := Except.bind_eq_ok.1 h
    obtain ⟨c, hc, hcmid⟩ := h₂.least hy hx hxy
    -- The middle value is non-zero, so the outer inverse is defined at it.
    obtain ⟨b, hb, hba⟩ := h₁.least hmid (h₂.ne_zero hc hx) hcmid
    exact ⟨b, Except.bind_eq_ok.2 ⟨c, hc, hb⟩, hba⟩
  ne_zero {x b} h hx := by
    obtain ⟨c, hc, hb⟩ := Except.bind_eq_ok.1 h
    exact h₁.ne_zero hb (h₂.ne_zero hc hx)

end LeastInverse
