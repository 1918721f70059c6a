import VeiledPool.Entropy.Chain
import VeiledPool.Entropy.Sha256
import VeiledPool.Veil

/-! # Sources of draws

Reports are veiled by draws from a source: either a script, which replays given
draws and refuses once they are used up, or a hash chain, which never ends.
Asking a source gives an answer and the source that is left.
-/

namespace VeiledPool

/-- Where draws come from. -/
inductive Entropy where
  /-- Replays `draws`, of which `taken` have been used. -/
  | script (draws : List UInt64) (taken : Nat)
  /-- Derives draws from the state of a chain. -/
  | chain (state : Digest)
  deriving DecidableEq, Repr

namespace Entropy

/-- A chain grown from a seed. -/
def ofSeed (seed : List UInt8) : Entropy :=
  chain (Chain.start Sha256.hash seed)

/-- One draw, and the source after it. -/
def next : Entropy → Except Fault UInt64 × Entropy
  | script draws taken =>
    match draws[taken]? with
    | some draw => (.ok draw, script draws (taken + 1))
    | none => (.error (.exhausted taken), script draws taken)
  | chain state =>
    let state := Chain.advance Sha256.hash state
    (.ok state.draw, chain state)

/-- Feeds data to a source; only a chain takes any. -/
def absorb (data : List UInt8) : Entropy → Except Fault Entropy
  | script .. => .error .closedSource
  | chain state => .ok (chain (Chain.absorb Sha256.hash state data))

/-- How many draws of a script have been used. -/
def taken? : Entropy → Option Nat
  | script _ taken => some taken
  | chain _ => none

/-- Makes a report under the veil of one draw. The draw is used up even if the
    report then fails. -/
def observe {α : Type} (source : Entropy) (report : Veil → Except Fault α) :
    Except Fault α × Entropy :=
  match source.next with
  | (.ok draw, rest) => (report (Veil.ofDraw draw), rest)
  | (.error fault, rest) => (.error fault, rest)

end Entropy

end VeiledPool
