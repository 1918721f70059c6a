import Mathlib.Data.Nat.Sqrt
import Mathlib.Tactic.Ring
import VeiledPool.Proofs.Liquidity

/-! # Deposits one after the other

A deposit may be made in parts, each of them priced by the reserves and the supply
that the parts before it left. A mint is rounded down and limited by its scarcer
side, which may be another one from part to part, so on either side the parts mint
no more than a single deposit of all of it would. From an empty pair on this bounds
the supply by the geometric mean of all that was brought.
-/

namespace VeiledPool.Liquidity

/-- The shares of deposits into a funded pool, each into the reserves and on top of the supply
    that the one before left. -/
def mintAll (pools : Nat × Nat) (totalShare : Nat) : List (Nat × Nat) → Except Fault (List Nat)
  | [] => .ok []
  | deposit :: rest => do
    let share ← additionalShares deposit.1 deposit.2 pools.1 pools.2 totalShare
    let shares ← mintAll (pools.1 + deposit.1, pools.2 + deposit.2) (totalShare + share) rest
    pure (share :: shares)

def brought (side : Side) (deposits : List (Nat × Nat)) : Nat :=
  (deposits.map side.of).sum

variable {pools deposit first : Nat × Nat} {totalShare share broughtLater mintedLater : Nat}
  {deposits later : List (Nat × Nat)} {shares : List Nat} {side : Side}

theorem brought_cons (side : Side) (deposit : Nat × Nat) (deposits : List (Nat × Nat)) :
    brought side (deposit :: deposits) = side.of deposit + brought side deposits :=
  rfl

theorem pos_of_additionalShares
    (minted : additionalShares deposit.1 deposit.2 pools.1 pools.2 totalShare = .ok share)
    (side : Side) : 0 < side.of pools := by
  obtain ⟨funded0, funded1⟩ := pools_pos_of_additionalShares minted
  cases side <;> assumption

/-- If later shares are no cheaper than the ones that exist after a mint, then all new shares are
    no cheaper than the ones that existed before it. -/
theorem add_shares_mul_le
    (minted : additionalShares deposit.1 deposit.2 pools.1 pools.2 totalShare = .ok share)
    (later : mintedLater * (side.of pools + side.of deposit) ≤
      broughtLater * (totalShare + share)) :
    (share + mintedLater) * side.of pools ≤ (side.of deposit + broughtLater) * totalShare := by
  have funded := pos_of_additionalShares minted side
  have bought : share * side.of pools ≤ side.of deposit * totalShare :=
    mul_le_of_additionalShares minted side
  generalize side.of pools = pool at *
  generalize side.of deposit = amount at *
  have before : mintedLater * pool ≤ broughtLater * totalShare := by
    refine Nat.le_of_mul_le_mul_right ?_ (Nat.add_pos_left funded amount)
    calc mintedLater * pool * (pool + amount)
        = mintedLater * (pool + amount) * pool := Nat.mul_right_comm ..
      _ ≤ broughtLater * (totalShare + share) * pool := Nat.mul_le_mul_right _ later
      _ = broughtLater * (totalShare * pool + share * pool) := by ring
      _ ≤ broughtLater * (totalShare * pool + amount * totalShare) :=
          Nat.mul_le_mul_left _ (Nat.add_le_add_left bought _)
      _ = broughtLater * totalShare * (pool + amount) := by ring
  rw [Nat.add_mul, Nat.add_mul]
  exact Nat.add_le_add bought before

/-- The sides are kept apart: which of them limits a mint may change from one to the next. -/
theorem sum_mul_le_of_mintAll (minted : mintAll pools totalShare deposits = .ok shares)
    (side : Side) : shares.sum * side.of pools ≤ brought side deposits * totalShare := by
  induction deposits generalizing pools totalShare shares with
  | nil =>
    cases minted
    exact Nat.le_of_eq ((Nat.zero_mul _).trans (Nat.zero_mul _).symm)
  | cons deposit rest ih =>
    simp only [mintAll, bind_eq_ok, pure_eq_ok] at minted
    obtain ⟨share, mintedFirst, shares, mintedLater, rfl⟩ := minted
    have grown : side.of (pools.1 + deposit.1, pools.2 + deposit.2) =
        side.of pools + side.of deposit := by
      cases side <;> rfl
    have later := ih mintedLater
    rw [grown] at later
    exact add_shares_mul_le mintedFirst later

theorem opened_le_sqrt (opened : initialShares first.1 first.2 = .ok share)
    (minted : mintAll first share later = .ok shares) :
    share + shares.sum ≤
      Nat.sqrt (brought .first (first :: later) * brought .second (first :: later)) := by
  rw [Nat.le_sqrt, brought_cons, brought_cons]
  have covered : share * share ≤ first.1 * first.2 := sq_le_of_initialShares opened
  cases later with
  | nil =>
    cases minted
    exact covered
  | cons second rest =>
    -- That there is a later deposit shows the reserves to be funded.
    obtain ⟨_, mintedSecond, -⟩ := bind_eq_ok.1 minted
    have funded := pos_of_additionalShares mintedSecond
    have undiluted (side : Side) : side.of first * (share + shares.sum) ≤
        (side.of first + brought side (second :: rest)) * share := by
      rw [Nat.mul_add, Nat.add_mul, Nat.mul_comm _ shares.sum]
      exact Nat.add_le_add_left (sum_mul_le_of_mintAll minted side) _
    exact sq_le_of_undiluted (funded .first) (funded .second) covered (undiluted .first)
      (undiluted .second)

/-- Deposits in parts never mint more than a single deposit of all they bring, be it into a funded
    pool or from an empty pair on. -/
theorem split_deposits_mint_no_more :
    (∀ (pools : Nat × Nat) (totalShare : Nat) (deposits : List (Nat × Nat)) (shares : List Nat),
      1 ≤ pools.1 ∧ 1 ≤ pools.2 → mintAll pools totalShare deposits = .ok shares →
      shares.sum ≤ min (brought .first deposits * totalShare / pools.1)
          (brought .second deposits * totalShare / pools.2) ∧
        ∀ whole, additionalShares (brought .first deposits) (brought .second deposits) pools.1
          pools.2 totalShare = .ok whole → shares.sum ≤ whole) ∧
    ∀ (first : Nat × Nat) (later : List (Nat × Nat)) (share : Nat) (shares : List Nat),
      initialShares first.1 first.2 = .ok share → mintAll first share later = .ok shares →
      share + shares.sum ≤
          Nat.sqrt (brought .first (first :: later) * brought .second (first :: later)) ∧
        ∀ whole, initialShares (brought .first (first :: later))
          (brought .second (first :: later)) = .ok whole → share + shares.sum ≤ whole := by
  refine ⟨?funded, ?opened⟩
  case funded =>
    intro pools totalShare deposits shares funded minted
    have bounded : shares.sum ≤ min (brought .first deposits * totalShare / pools.1)
        (brought .second deposits * totalShare / pools.2) := by
      have each := sum_mul_le_of_mintAll minted
      exact Nat.le_min.2 ⟨(Nat.le_div_iff_mul_le funded.1).2 (each .first),
        (Nat.le_div_iff_mul_le funded.2).2 (each .second)⟩
    refine ⟨bounded, fun whole mintedWhole => ?_⟩
    obtain ⟨-, -, -, -, -, rfl⟩ := additionalShares_eq_ok_iff.1 mintedWhole
    exact bounded
  case opened =>
    intro first later share shares opened minted
    have bounded := opened_le_sqrt opened minted
    refine ⟨bounded, fun whole openedWhole => ?_⟩
    obtain ⟨-, -, rfl⟩ := initialShares_eq_ok_iff.1 openedWhole
    rw [floorSqrt_eq_sqrt]
    exact bounded

/-- Deposits that lack a little of one side or the other. -/
def sampleParts : List (Nat × Nat) :=
  [(10, 39), (15, 61), (1, 3), (30, 117)]

/-- Between them the parts lose three shares, and from an empty pair on the parts lose one. -/
theorem split_deposits_mint_no_more_sample :
    (1 ≤ 1000 ∧ 1 ≤ 4000) ∧ mintAll (1000, 4000) 2000 sampleParts = .ok [19, 29, 1, 58] ∧
      [19, 29, 1, 58].sum ≤ min (56 * 2000 / 1000) (220 * 2000 / 4000) ∧
      initialShares 3 12 = .ok 6 ∧ mintAll (3, 12) 6 [(7, 29), (10, 38)] = .ok [14, 18] ∧
      6 + [14, 18].sum ≤ Nat.sqrt (20 * 79) := by
  have funded : 1 ≤ 1000 ∧ 1 ≤ 4000 := by decide
  have minted : mintAll (1000, 4000) 2000 sampleParts = .ok [19, 29, 1, 58] := by decide +kernel
  have opened : initialShares 3 12 = .ok 6 := by decide +kernel
  have mintedLater : mintAll (3, 12) 6 [(7, 29), (10, 38)] = .ok [14, 18] := by decide +kernel
  obtain ⟨later, first⟩ := split_deposits_mint_no_more
  exact ⟨funded, minted, (later (1000, 4000) 2000 sampleParts _ funded minted).1, opened,
    mintedLater, (first (3, 12) _ _ _ opened mintedLater).1⟩

end VeiledPool.Liquidity
