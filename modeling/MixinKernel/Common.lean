import Mathlib.Algebra.BigOperators.Group.List
import Mathlib.Order.Basic
import Mathlib.Algebra.Order.Ring.Nat

/-!
# Amounts and Go faults

The mint code computes with `common.Nat`, a nonnegative decimal amount. Modelled from
the spec, an amount is a `Nat`, the count of its smallest units. `Add` and `Mul` are `+` and
`*`, and `Div` by a positive constant is `/`: none of them can panic. `Sub`, `Div` by a
computed divisor and `Ration` can, and are the partial functions of `Nat` below.

A Go `panic` ends a call with `Fault.panic`, a returned `error` with `Fault.error`; every
kernel function that can do either returns `Except Fault`.
-/

namespace MixinKernel.Common

/-- How a Go call ends when it does not return a value. -/
inductive Fault where
  | panic (msg : String)
  | error (msg : String)
  deriving DecidableEq, Repr

@[simp] theorem ok_bind {ε α β : Type} (a : α) (f : α → Except ε β) :
    (Except.ok a >>= f) = f a := rfl
@[simp] theorem error_bind {ε α β : Type} (e : ε) (f : α → Except ε β) :
    (Except.error e >>= f) = Except.error e := rfl
@[simp] theorem pure_eq_ok {ε α : Type} (a : α) : (pure a : Except ε α) = Except.ok a := rfl
@[simp] theorem throw_eq_error {ε α : Type} (e : ε) :
    (throw e : Except ε α) = Except.error e := rfl

theorem bind_eq_ok {ε α β : Type} {x : Except ε α} {f : α → Except ε β} {b : β} :
    x >>= f = .ok b ↔ ∃ a, x = .ok a ∧ f a = .ok b := by
  cases x <;> simp

/-- A store read's `error`, returned as the caller's own. -/
def liftError {α : Type} : Except String α → Except Fault α
  | .ok a => .ok a
  | .error e => .error (.error e)

/-- A callee's `error`, wrapped in the caller's message. -/
def wrapError {α : Type} (wrap : String → String) : Except String α → Except Fault α
  | .ok a => .ok a
  | .error e => .error (.error (wrap e))

@[simp] theorem wrapError_ok {α : Type} (wrap : String → String) (a : α) :
    wrapError wrap (.ok a) = .ok a := rfl
@[simp] theorem wrapError_error {α : Type} (wrap : String → String) (e : String) :
    wrapError wrap (.error e : Except String α) = .error (.error (wrap e)) := rfl

@[simp] theorem liftError_ok {α : Type} (a : α) : liftError (.ok a) = .ok a := rfl
@[simp] theorem liftError_error {α : Type} (e : String) :
    liftError (.error e : Except String α) = .error (.error e) := rfl

/-- The Go runtime's panic for `xs[0]` on an empty slice. -/
def indexOutOfRange : String := "runtime error: index out of range [0] with length 0"

/-- Modelled from the spec: `common.Precision`, the decimal places of an amount. -/
def Precision : Nat := 8

def newInteger (x : Nat) : Nat := x * 10 ^ Precision

@[simp] theorem newInteger_eq_zero (x : Nat) : newInteger x = 0 ↔ x = 0 := by
  simp [newInteger, Precision, Nat.mul_eq_zero]

namespace Integer

/-- `Sub`, which panics rather than go below zero. -/
def sub (x y : Nat) : Except Fault Nat :=
  if x < y then throw (.panic s!"{x} {y}") else pure (x - y)

/-- `Div` by a Go `int`; a negative divisor truncates to zero and panics, as in Go. -/
def div (x : Nat) (y : Nat) : Except Fault Nat :=
  if y = 0 then throw (.panic s!"{x} {y}") else pure (x / y)

/-- `RationalInteger`, the fraction `Ration` builds. -/
structure Rational where
  x : Nat
  y : Nat
  deriving DecidableEq, Repr

def ration (x y : Nat) : Except Fault Rational :=
  if y = 0 then throw (.panic s!"{x} {y}") else pure ⟨x, y⟩

/-- `Product`: the fraction of `base`, rounded down. -/
def Rational.product (r : Rational) (base : Nat) : Nat := base * r.x / r.y

theorem sub_of_le {x y : Nat} (h : y ≤ x) : sub x y = .ok (x - y) := by
  simp [sub, Nat.not_lt.mpr h]

theorem sub_eq_ok {x y z : Nat} : sub x y = .ok z ↔ y ≤ x ∧ z = x - y := by
  unfold sub
  split <;> simp_all [eq_comm]

theorem sub_isOk_iff {x y : Nat} : (∃ z, sub x y = .ok z) ↔ y ≤ x := by
  simp [sub_eq_ok]

@[simp] theorem div_of_pos {x : Nat} {y : Nat} (h : 0 < y) : div x y = .ok (x / y) := by
  simp [div, Nat.pos_iff_ne_zero.mp h]

theorem ration_of_pos {x y : Nat} (h : 0 < y) : ration x y = .ok ⟨x, y⟩ := by
  simp [ration, Nat.pos_iff_ne_zero.mp h]

end Integer

/-- `for i := 0; i < n; i++ { s = body(s) }`. -/
def forCount {σ : Type} (body : σ → Except Fault σ) : Nat → σ → Except Fault σ
  | 0, s => .ok s
  | n + 1, s => body s >>= forCount body n

@[simp] theorem forCount_zero {σ : Type} (body : σ → Except Fault σ) (s : σ) :
    forCount body 0 s = .ok s := rfl
theorem forCount_succ {σ : Type} (body : σ → Except Fault σ) (n : Nat) (s : σ) :
    forCount body (n + 1) s = body s >>= forCount body n := rfl

/-- A loop whose body never fails runs as the iterate of the body. -/
theorem forCount_of_total {σ : Type} (body : σ → Except Fault σ) (f : σ → σ)
    (h : ∀ s, body s = .ok (f s)) (n : Nat) (s : σ) : forCount body n s = .ok (f^[n] s) := by
  induction n generalizing s with
  | zero => rfl
  | succ n ih => simp [forCount_succ, h, ih]

end MixinKernel.Common
