/-!
# Bounded search

Signature nonces are found by drawing candidates until one fits. The draws are numbered by a 64-bit
counter, so a search makes at most `2 ^ 64` of them.
-/

namespace Wallet.Search

/-- The number of draws that a 64-bit counter allows. -/
def drawLimit : Nat := UInt64.size

/-- Accept the first of at most `draws` states that has a result. -/
def first {σ β : Type} (next : σ → σ) (accept : σ → Option β) : (draws : Nat) → σ → Option β
  | 0, _ => none
  | draws + 1, s =>
    match accept s with
    | some b => some b
    | none => first next accept draws (next s)

end Wallet.Search
