import Credentials.Bytes

/-!
# Sources of random bytes

A source answers requests for bytes. What it hands out may depend on everything it was asked before,
so a source is a function of the sizes of the earlier requests, the latest first, and of the size of
the present one. Whoever draws keeps that list; its length is the number of requests made so far.

Three sources that hand out predictable bytes are given for use in place of the system's generator:
`RandomSource.constant`, `RandomSource.counting` and `RandomSource.cyclic`.

A `Drawing` is something that may draw on the way to its result. Where it asks for bytes, and what it
looks at before, is said in one place: its result and the request that it makes are both read off it
(`Drawing.given`, `Drawing.requests`).
-/

namespace Credentials

/-- A source of random bytes. -/
structure RandomSource where
  /-- The answer to a request for `n` bytes, after requests of these sizes. -/
  fill : (asked : List Nat) → (n : Nat) → Vector UInt8 n

namespace RandomSource

/-- Every request is filled with the same byte. -/
def constant (b : UInt8) : RandomSource := ⟨fun _ n => Vector.replicate n b⟩

/-- The first request is filled with the byte `first`, the next with the byte after it, and so on. -/
def counting (first : UInt8) : RandomSource :=
  ⟨fun asked n => Vector.replicate n (first + UInt8.ofNat asked.length)⟩

/-- How many bytes were handed out in requests of these sizes. -/
def handedOut (asked : List Nat) : Nat := asked.foldl (· + ·) 0

/-- The bytes are handed out one after the other, from the beginning again at their end. -/
def cyclic (bs : Bytes) : RandomSource :=
  ⟨fun asked n => Vector.ofFn fun i : Fin n => bs.getD ((handedOut asked + i) % bs.length) 0⟩

end RandomSource

/-! ## Drawing -/

/-- The way to a result, on which `n` bytes may be drawn. -/
inductive Drawing (n : Nat) (α : Type) where
  /-- The result is there, and no bytes were drawn. -/
  | done (result : α)
  /-- Bytes are drawn, and the result depends on them. -/
  | ask (next : Vector UInt8 n → α)

namespace Drawing

variable {n : Nat} {α β : Type}

/-- The result, if these are the bytes that are drawn. -/
def given (draw : Vector UInt8 n) : Drawing n α → α
  | done result => result
  | ask next => next draw

/-- Bytes are drawn. -/
def asks : Drawing n α → Bool
  | done _ => false
  | ask _ => true

/-- The requests made to a source in the end, the latest first. -/
def requests (asked : List Nat) (d : Drawing n α) : List Nat := if d.asks then n :: asked else asked

/-- Does something with the result. -/
def map (f : α → β) : Drawing n α → Drawing n β
  | done result => done (f result)
  | ask next => ask (f ∘ next)

/-- What is done with the result makes no difference to the bytes. -/
@[simp] theorem given_map (f : α → β) (d : Drawing n α) (draw : Vector UInt8 n) :
    (d.map f).given draw = f (d.given draw) := by
  cases d <;> rfl

/-- What is done with the result makes no difference to whether bytes are drawn. -/
@[simp] theorem asks_map (f : α → β) (d : Drawing n α) : (d.map f).asks = d.asks := by
  cases d <;> rfl

/-- Where no bytes are drawn, the result does not depend on any. -/
theorem given_eq_of_not_asks {d : Drawing n α} (h : d.asks = false) (draw draw' : Vector UInt8 n) :
    d.given draw = d.given draw' := by
  cases d with
  | done => rfl
  | ask => cases h

end Drawing

end Credentials
