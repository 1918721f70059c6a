import Mathlib.Data.Nat.Digits.Lemmas
import VeiledPool.Entropy.Source

/-! # Histories of hash chains

A chain that ends in the state of another one, after as many steps, was grown from
the same seed and went through the same steps; otherwise two different messages were
hashed on the way that have one digest. Nothing is assumed of the hash.
-/

namespace VeiledPool

namespace Chain

inductive Step where
  | absorb (data : List UInt8)
  | draw
  deriving DecidableEq, Repr

namespace Step

def message (state : Digest) : Step → List UInt8
  | absorb data => state.bytes ++ (absorbTag ++ data)
  | draw => state.bytes ++ drawTag

def apply (hash : HashFunction) (state : Digest) : Step → Digest
  | absorb data => Chain.absorb hash state data
  | draw => advance hash state

theorem apply_eq_hash (hash : HashFunction) (state : Digest) (step : Step) :
    step.apply hash state = hash (step.message state) := by
  cases step with
  | absorb data => simp only [apply, message, Chain.absorb, List.append_assoc]
  | draw => rfl

/-- The tags differ in their first byte, so no data can follow one and make it the other. -/
theorem absorbTag_append_ne_drawTag (data : List UInt8) : absorbTag ++ data ≠ drawTag := by
  have absorbs : absorbTag = 97 :: absorbTag.drop 1 := by decide +kernel
  have draws : drawTag = 100 :: drawTag.drop 1 := by decide +kernel
  rw [absorbs, draws]
  simp

/-- State and step can be read off what was hashed. -/
theorem message_inj {state other : Digest} {step turn : Step}
    (same : step.message state = turn.message other) : state = other ∧ step = turn := by
  have sizes : state.bytes.length = other.bytes.length := state.size.trans other.size.symm
  have digests {a b : List UInt8} (whole : state.bytes ++ a = other.bytes ++ b) :
      state = other ∧ a = b := by
    obtain ⟨bytes, rest⟩ := List.append_inj whole sizes
    exact ⟨by cases state; cases other; simpa using bytes, rest⟩
  cases step with
  | absorb data =>
    cases turn with
    | absorb fed =>
      obtain ⟨states, rest⟩ := digests same
      exact ⟨states, by rw [List.append_cancel_left rest]⟩
    | draw => exact absurd (digests same).2 (absorbTag_append_ne_drawTag data)
  | draw =>
    cases turn with
    | absorb fed => exact absurd (digests same).2.symm (absorbTag_append_ne_drawTag fed)
    | draw => exact ⟨(digests same).1, rfl⟩

end Step

def follow (hash : HashFunction) (state : Digest) : List Step → Digest
  | [] => state
  | step :: rest => follow hash (step.apply hash state) rest

/-- Everything that is hashed in some steps. -/
def hashed (hash : HashFunction) (state : Digest) : List Step → List (List UInt8)
  | [] => []
  | step :: rest => step.message state :: hashed hash (step.apply hash state) rest

/-- State of a chain that was grown from a seed and went through some steps. -/
def grown (hash : HashFunction) (seed : List UInt8) (steps : List Step) : Digest :=
  follow hash (start hash seed) steps

/-- Everything that is hashed in the life of a chain. -/
def record (hash : HashFunction) (seed : List UInt8) (steps : List Step) : List (List UInt8) :=
  (domain ++ seed) :: hashed hash (start hash seed) steps

/-- Two different messages, one from either list, have one digest. -/
def Collide (hash : HashFunction) (left right : List (List UInt8)) : Prop :=
  ∃ message ∈ left, ∃ other ∈ right, message ≠ other ∧ hash message = hash other

variable {hash : HashFunction} {left right : List (List UInt8)} {message other : List UInt8}

theorem Collide.cons (collide : Collide hash left right) :
    Collide hash (message :: left) (other :: right) := by
  obtain ⟨one, inLeft, two, inRight, apart⟩ := collide
  exact ⟨one, .tail _ inLeft, two, .tail _ inRight, apart⟩

theorem eq_or_collide (same : hash message = hash other) :
    message = other ∨ Collide hash (message :: left) (other :: right) := by
  by_cases equal : message = other
  · exact .inl equal
  · exact .inr ⟨message, .head _, other, .head _, equal, same⟩

theorem follow_separates {state turned : Digest} {steps turns : List Step}
    (long : steps.length = turns.length)
    (same : follow hash state steps = follow hash turned turns) :
    (state = turned ∧ steps = turns) ∨
      Collide hash (hashed hash state steps) (hashed hash turned turns) := by
  -- The induction runs along both lists, so the rest decides first: it tells equal states
  -- behind the first steps, and these are digests of what the first steps hashed.
  induction steps generalizing state turned turns with
  | nil =>
    cases turns with
    | nil => exact .inl ⟨same, rfl⟩
    | cons turn rest => simp at long
  | cons step rest ih =>
    cases turns with
    | nil => simp at long
    | cons turn others =>
      have shorter : rest.length = others.length := by simpa using long
      rcases ih shorter same with ⟨onward, rfl⟩ | later
      · rw [Step.apply_eq_hash, Step.apply_eq_hash] at onward
        rcases eq_or_collide onward with equal | here
        · obtain ⟨rfl, rfl⟩ := Step.message_inj equal
          exact .inl ⟨rfl, rfl⟩
        · exact .inr here
      · exact .inr later.cons

theorem grown_separates {seed sown : List UInt8} {steps turns : List Step}
    (long : steps.length = turns.length) (same : grown hash seed steps = grown hash sown turns) :
    (seed = sown ∧ steps = turns) ∨
      Collide hash (record hash seed steps) (record hash sown turns) := by
  rcases follow_separates long same with ⟨started, rfl⟩ | later
  · have digests : hash (domain ++ seed) = hash (domain ++ sown) := started
    rcases eq_or_collide digests with equal | here
    · exact .inl ⟨List.append_cancel_left equal, rfl⟩
    · exact .inr here
  · exact .inr later.cons

end Chain

namespace Digest

def leading (digest : Digest) : Nat :=
  Nat.ofDigits 256 ((digest.bytes.take 8).reverse.map UInt8.toNat)

theorem leading_lt (digest : Digest) : digest.leading < 2 ^ 64 := by
  have bytes : ∀ byte ∈ (digest.bytes.take 8).reverse.map UInt8.toNat, byte < 256 := by
    simp only [List.mem_map]
    rintro _ ⟨byte, -, rfl⟩
    exact byte.toNat_lt
  have eight : ((digest.bytes.take 8).reverse.map UInt8.toNat).length = 8 := by
    simp [digest.size]
  have below := Nat.ofDigits_lt_base_pow_length (by decide) bytes
  rwa [eight] at below

theorem toNat_foldl_modEq (bytes : List UInt8) (value : UInt64) :
    (bytes.foldl (fun value byte => value * 256 + byte.toUInt64) value).toNat ≡
      value.toNat * 256 ^ bytes.length + Nat.ofDigits 256 (bytes.reverse.map UInt8.toNat)
        [MOD 2 ^ 64] := by
  induction bytes generalizing value with
  | nil => simp [Nat.ModEq]
  | cons byte rest ih =>
    have wrapped : (value * 256 + byte.toUInt64).toNat ≡
        value.toNat * 256 + byte.toNat [MOD 2 ^ 64] := by
      simp [UInt64.toNat_add, UInt64.toNat_mul, Nat.ModEq]
    calc ((byte :: rest).foldl (fun value byte => value * 256 + byte.toUInt64) value).toNat
        ≡ (value * 256 + byte.toUInt64).toNat * 256 ^ rest.length +
          Nat.ofDigits 256 (rest.reverse.map UInt8.toNat) [MOD 2 ^ 64] := ih _
      _ ≡ (value.toNat * 256 + byte.toNat) * 256 ^ rest.length +
          Nat.ofDigits 256 (rest.reverse.map UInt8.toNat) [MOD 2 ^ 64] :=
        (wrapped.mul_right _).add_right _
      _ = value.toNat * 256 ^ (byte :: rest).length +
          Nat.ofDigits 256 ((byte :: rest).reverse.map UInt8.toNat) := by
        simp [Nat.ofDigits_append]
        ring

theorem toNat_draw (digest : Digest) : digest.draw.toNat = digest.leading := by
  have gathered := toNat_foldl_modEq (digest.bytes.take 8) 0
  rw [UInt64.toNat_zero, Nat.zero_mul, Nat.zero_add] at gathered
  exact gathered.eq_of_lt_of_lt (UInt64.toNat_lt _) digest.leading_lt

end Digest

theorem Veil.ofInt_toNat (draw : UInt64) : Veil.ofInt draw.toNat = .ok (Veil.ofDraw draw) := by
  have inside : (0 : Int) ≤ draw.toNat ∧ (draw.toNat : Int) < (UInt64.size : Int) :=
    ⟨Int.natCast_nonneg _, by exact_mod_cast draw.toNat_lt⟩
  have drawn : draw? draw.toNat = .ok draw := by
    rw [draw?, if_pos inside, Int.toNat_natCast, UInt64.ofNat_toNat]
  rw [ofInt, drawn]
  rfl

namespace Entropy

/-- A source after a step, also if it refuses to take it. -/
def after (source : Entropy) : Chain.Step → Entropy
  | .absorb data =>
    match source.absorb data with
    | .ok fed => fed
    | .error _ => source
  | .draw => source.next.2

theorem foldl_after_chain (state : Digest) (steps : List Chain.Step) :
    steps.foldl after (chain state) = chain (Chain.follow Sha256.hash state steps) := by
  induction steps generalizing state with
  | nil => rfl
  | cons step rest ih => cases step <;> exact ih _

end Entropy

namespace Chain

/-- Chains in one state after as many steps have one seed and one history, unless two
    different messages have one digest; in particular a draw is not taken for an absorption,
    nor one way of splitting data for another. Sources of draws are such chains, and what
    they draw is always good for a veil. -/
theorem histories_are_separate (hash : HashFunction) :
    (∀ seed sown (steps turns : List Step), steps.length = turns.length →
      grown hash seed steps = grown hash sown turns →
        (seed = sown ∧ steps = turns) ∨
          Collide hash (record hash seed steps) (record hash sown turns)) ∧
    (∀ seed sown data (before earlier rest later : List Step),
      before.length = earlier.length → rest.length = later.length →
      grown hash seed (before ++ .draw :: rest) =
        grown hash sown (earlier ++ .absorb data :: later) →
      Collide hash (record hash seed (before ++ .draw :: rest))
        (record hash sown (earlier ++ .absorb data :: later))) ∧
    (∀ seed (parts others : List (List UInt8)), parts.length = others.length → parts ≠ others →
      grown hash seed (parts.map .absorb) = grown hash seed (others.map .absorb) →
      Collide hash (record hash seed (parts.map .absorb))
        (record hash seed (others.map .absorb))) ∧
    (∀ seed (steps : List Step), steps.foldl Entropy.after (.ofSeed seed) =
        Entropy.chain (grown Sha256.hash seed steps)) ∧
    (∀ state, (Entropy.chain state).next =
      (.ok (advance Sha256.hash state).draw, .chain (advance Sha256.hash state))) ∧
    ∀ digest : Digest, digest.draw.toNat = digest.leading ∧ digest.leading < 2 ^ 64 ∧
      Veil.ofInt digest.leading = .ok (Veil.ofDraw digest.draw) := by
  have apart {seed sown steps turns} (long : steps.length = turns.length)
      (distinct : steps ≠ turns) (same : grown hash seed steps = grown hash sown turns) :
      Collide hash (record hash seed steps) (record hash sown turns) :=
    (grown_separates long same).resolve_left fun equal => distinct equal.2
  refine ⟨?separate, ?confused, ?split, ?source, ?next, ?veil⟩
  case separate =>
    intro seed sown steps turns long same
    exact grown_separates long same
  case confused =>
    intro seed sown data before earlier rest later long remaining same
    refine apart (by simp [long, remaining]) (fun equal => ?_) same
    obtain ⟨-, steps⟩ := List.append_inj equal long
    cases steps
  case split =>
    intro seed parts others long distinct same
    refine apart (by simp [long]) (fun equal => distinct ?_) same
    exact List.map_injective_iff.2 (fun _ _ => Step.absorb.inj) equal
  case source =>
    intro seed steps
    exact Entropy.foldl_after_chain _ steps
  case next =>
    intro state
    rw [Entropy.next]
  case veil =>
    intro digest
    refine ⟨digest.toNat_draw, digest.leading_lt, ?_⟩
    rw [← digest.toNat_draw]
    exact Veil.ofInt_toNat digest.draw

/-- A hash that looks at the length of a message only. -/
def lengthHash : HashFunction := fun message =>
  ⟨List.replicate 32 (UInt8.ofNat message.length), List.length_replicate⟩

theorem histories_are_separate_lengthHash :
    grown lengthHash [1] [.absorb [7, 8], .absorb [9], .draw] =
      grown lengthHash [1] [.absorb [3, 4], .absorb [5], .draw] ∧
    Collide lengthHash (record lengthHash [1] [.absorb [7, 8], .absorb [9], .draw])
      (record lengthHash [1] [.absorb [3, 4], .absorb [5], .draw]) := by
  have same : grown lengthHash [1] [.absorb [7, 8], .absorb [9], .draw] =
      grown lengthHash [1] [.absorb [3, 4], .absorb [5], .draw] := by decide +kernel
  have separate := (histories_are_separate lengthHash).1 [1] [1]
    [.absorb [7, 8], .absorb [9], .draw] [.absorb [3, 4], .absorb [5], .draw] rfl same
  exact ⟨same, separate.resolve_left (by decide)⟩

end Chain

end VeiledPool
