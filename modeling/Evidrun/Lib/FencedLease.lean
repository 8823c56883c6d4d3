import Mathlib.Logic.Relation

/-!
# Fenced leases

A resource is handed from holder to holder. Every grant raises a generation, and
a holder proves its right with a token: the generation and the holder the grant
named. A token is retired once the resource moved on to a later generation or
was closed; a retired token is never accepted again, however the run continues.
-/

namespace FencedLease

set_option autoImplicit false

inductive Lease (Holder : Type)
  | idle (generation : Nat)
  | held (generation : Nat) (holder : Holder)
  | closed (generation : Nat)

structure Token (Holder : Type) where
  generation : Nat
  holder : Holder

variable {Holder : Type}

def Lease.generation : Lease Holder → Nat
  | .idle generation | .held generation _ | .closed generation => generation

def Lease.isClosed : Lease Holder → Bool
  | .closed _ => true
  | .idle _ | .held _ _ => false

inductive Step : Lease Holder → Lease Holder → Prop
  | grant (generation : Nat) (holder : Holder) :
      Step (.idle generation) (.held (generation + 1) holder)
  | giveUp (generation : Nat) (holder : Holder) :
      Step (.held generation holder) (.idle generation)
  | close (generation : Nat) (holder : Holder) :
      Step (.held generation holder) (.closed generation)

abbrev Run : Lease Holder → Lease Holder → Prop := Relation.ReflTransGen Step

def Accepts (lease : Lease Holder) (token : Token Holder) : Prop :=
  lease = .held token.generation token.holder

/-- No run from here can accept the token. -/
def Retired (lease : Lease Holder) (token : Token Holder) : Prop :=
  token.generation < lease.generation ∨ lease.isClosed = true

variable {token : Token Holder} {before after : Lease Holder}

theorem accepts_unique {lease : Lease Holder} {other : Token Holder}
    (accepted : Accepts lease token) (accepts : Accepts lease other) : token = other := by
  cases token
  cases other
  unfold Accepts at accepted accepts
  rw [accepted] at accepts
  cases accepts
  rfl

theorem Retired.not_accepts {lease : Lease Holder} (retired : Retired lease token) :
    ¬Accepts lease token := by
  intro accepted
  unfold Accepts at accepted
  subst accepted
  rcases retired with later | closed
  · exact Nat.lt_irrefl _ later
  · cases closed

theorem Step.generation_le (step : Step before after) : before.generation ≤ after.generation := by
  cases step with
  | grant generation holder => exact Nat.le_succ generation
  | giveUp generation holder => exact Nat.le_refl generation
  | close generation holder => exact Nat.le_refl generation

theorem Step.not_closed (step : Step before after) : before.isClosed = false := by
  cases step <;> rfl

theorem Step.retires (step : Step before after) (retired : Retired before token) :
    Retired after token := by
  rcases retired with later | closed
  · exact Or.inl (Nat.lt_of_lt_of_le later step.generation_le)
  · rw [step.not_closed] at closed
    cases closed

theorem Run.generation_le (run : Run before after) : before.generation ≤ after.generation := by
  induction run with
  | refl => exact Nat.le_refl _
  | tail _ step ih => exact Nat.le_trans ih step.generation_le

theorem Run.retires (run : Run before after) (retired : Retired before token) :
    Retired after token := by
  induction run with
  | refl => exact retired
  | tail _ step ih => exact step.retires ih

end FencedLease
