import VeiledPool.Fixed.Basic
import VeiledPool.Scalar.Basic
import VeiledPool.Side

/-! # Causes of faults

Each inductive lists what can go wrong for one kind of fault, together with the
numbers and names that a report of it shows.
-/

namespace VeiledPool

/-- A result that does not exist or does not fit its range. -/
inductive Overflow where
  /-- Product of both reserves. -/
  | reserveProduct (offerPool askPool : Nat)
  /-- Gross output of a swap. -/
  | grossOutput (askPool : Nat) (product : Int) (offerPool offer : Nat)
  /-- Output at the price before the swap. -/
  | marginalOutput (offer askPool offerPool : Nat)
  /-- Commission on a gross output. -/
  | commission (gross : Int) (nom denom : Nat)
  /-- Gross output less its commission. -/
  | netOutput (gross fee : Int)
  /-- Offer that buys a requested amount. -/
  | requiredOffer (product : Int) (askPool : Nat) (beforeCommission : Int) (offerPool : Nat)
  /-- Offer beyond the reserve that should already hold it. -/
  | offerBeyondReserve (offer reserve : Nat)
  /-- Native deposit beyond the reserve that should already hold it. -/
  | depositBeyondReserve (deposit : Nat) (asset : Spelling) (reserve : Nat)
  /-- Shares of the first deposit. -/
  | initialShares (deposit0 deposit1 : Nat)
  /-- Shares that one side of a deposit would buy. -/
  | proRata (side : Side) (deposit totalShare pool : Nat)
  /-- Refund of one side for burned shares. -/
  | refund (reserve burned totalShare : Nat)
  /-- Figure scaled for a report. -/
  | veiledFigure (amount nom denom : Int)
  /-- Ratio of two integers. -/
  | ratio (numerator denominator : Int)
  /-- Product of two ratios. -/
  | ratioProduct (left right : Fixed)
  /-- Difference of two ratios. -/
  | ratioDifference (left right : Fixed)
  /-- Reciprocal of a ratio. -/
  | reciprocal (divisor : Fixed)
  /-- Integer multiplied by a ratio. -/
  | scaledAmount (amount : Int) (factor : Fixed)
  /-- A result outside the 128 bits of an amount. -/
  | narrowing (quantity : String) (value : Int)
  /-- A computation that its caller describes. -/
  | described (text : String)
  deriving DecidableEq, Repr

/-- A zero where the computation needs something positive. -/
inductive Degeneracy where
  | ratioByZero (numerator : Int)
  | reciprocalOfZero
  /-- A swap against an empty reserve. -/
  | emptyForSwap (offerPool askPool : Nat)
  /-- A quote against an empty reserve. -/
  | emptyForQuote (offerPool askPool : Nat)
  /-- A pro-rata deposit into an empty pool. -/
  | emptyForDeposit (pool0 pool1 : Nat)
  | rateDenominator (denom : Int)
  /-- A request for the whole reserve or more. -/
  | exhaustsReserve (ask : Nat) (beforeCommission : Int) (askPool : Nat)
  /-- A withdrawal while no shares exist. -/
  | noShares
  /-- A deposit that would mint nothing. -/
  | worthlessDeposit (deposit0 deposit1 totalShare : Nat)
  /-- A spread measured against nothing. -/
  | noOutput
  deriving DecidableEq, Repr

/-- Assets that do not make up or do not fit a pair. -/
inductive AssetMismatch where
  /-- One asset on both sides of a pair. -/
  | twice (asset : Spelling)
  /-- An asset of neither side. -/
  | stranger (asset first second : Spelling)
  /-- A deposit that names one side more than once. -/
  | repeated (asset : Spelling)
  /-- A deposit that leaves a side out. -/
  | incomplete
  deriving DecidableEq, Repr

/-- A value of the right type that is not admissible. -/
inductive BadValue where
  /-- A negative number, shown in the report. -/
  | negative (subject : String) (value : Int)
  /-- A negative number, not shown in the report. -/
  | negativeSetting (subject : String)
  /-- An empty text. -/
  | empty (subject : String)
  /-- An empty text or no text at all. -/
  | notName (subject : String)
  | negativeVolumes (volume0 volume1 : Int)
  | negativeBalance (value : Int)
  | rateDenominator (denom : Int)
  | rateNumerator (nom denom : Int)
  /-- A literal by its code points, some of which may be no characters. -/
  | literal (points : List Nat)
  | literalTooLong (text : String)
  /-- A literal with a digit that has no place in positional notation. -/
  | loneDigit
  /-- The base of a number without any digit after it. -/
  | bareBase
  /-- A day or a time that does not exist. -/
  | timestamp (flaw : TimestampFlaw)
  /-- An escape beyond the last code point. -/
  | codePoint
  /-- Code points of which some are no characters, where bytes are needed. -/
  | unencodable (points : List Nat)
  /-- Something other than a hexadecimal digit. -/
  | hexDigit (position : Nat)
  | negativeRoot
  | nativeWithoutName
  | nativeWithAddress
  | tokenWithoutAddress
  | tokenWithName
  /-- A pair of fewer or more than two assets. -/
  | assetCount
  | assetOrder (first second : Spelling)
  /-- Something other than the position of a side. -/
  | side (given : Scalar)
  | draw (value : Int)
  | balanceShortfall (asset holder : Spelling) (current delta : Int)
  | shareShortfall (holder : Spelling) (current amount : Int)
  /-- A configuration whose assets are not a list of two. -/
  | assetList
  /-- A configured asset that is neither a native currency nor a token. -/
  | assetForm (subject : String)
  /-- An integer too long to be written out. -/
  | illegible
  deriving DecidableEq, Repr

/-- A number too large to be worked with. -/
inductive Oversize where
  /-- An escape far beyond the last code point. -/
  | codePoint
  /-- An integer beyond every binary fraction. -/
  | fraction
  deriving DecidableEq, Repr

/-- The type that a value should have had. -/
inductive Expected where
  | integer
  | integers
  | text
  | bytes
  | mapping
  | textOrMapping
  | settings
  deriving DecidableEq, Repr

inductive WrongType where
  | unmet (subject : String) (expected : Expected)
  /-- Two values without an order that were to be compared. -/
  | unordered (relation : String) (left right : Scalar)
  /-- Two values that were to be added and have no sum. -/
  | unsummable (left right : Scalar)
  /-- Something other than an asset kind in its place. -/
  | assetKind (given : Scalar)
  | unknownEffect (name : String)
  | unknownAction (name : String)
  deriving DecidableEq, Repr

end VeiledPool
