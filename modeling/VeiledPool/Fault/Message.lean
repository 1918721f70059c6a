import VeiledPool.Fault.Basic
import VeiledPool.Scalar.Text

/-! # Wording of faults

All texts that a refused caller reads stand in this module. Four faults have
none: the root of a negative number, a literal with a lone digit, a base without
digits, and a document that cannot be read. A bad value whose text would show an
illegible number is reported as illegible.
-/

namespace VeiledPool

/-- What the type of a scalar is called. -/
def Scalar.typeName : Scalar → String
  | .null => "NoneType"
  | .bool _ => "bool"
  | .int _ => "int"
  | .float _ => "float"
  | .text _ => "str"
  | .time ⟨_, none⟩ => "datetime.date"
  | .time ⟨_, some _⟩ => "datetime.datetime"

def TimestampFlaw.message : TimestampFlaw → String
  | .year given => s!"year {given} is out of range"
  | .month => "month must be in 1..12"
  | .day => "day is out of range for month"
  | .hour => "hour must be in 0..23"
  | .minute => "minute must be in 0..59"
  | .second => "second must be in 0..59"
  | .zone distance =>
    let shown := Clock.distanceShown distance
    "offset must be a timedelta strictly between -timedelta(hours=24) and " ++
      s!"timedelta(hours=24), not {shown}."

/-- Tells which code points have no bytes. -/
def unencodableMessage (points : List Nat) : String :=
  let (first, broken) := Text.firstBroken points
  let subject := match broken with
    | [point] =>
      let shown := Text.quotedPoints [point]
      s!"character {shown} in position {first}"
    | _ =>
      let last := first + broken.length - 1
      s!"characters in position {first}-{last}"
  s!"'utf-8' codec can't encode {subject}: surrogates not allowed"

def Overflow.message : Overflow → Spelling
  | .reserveProduct offerPool askPool =>
    s!"Cannot calculate cp = offer_pool {offerPool} * ask_pool {askPool}"
  | .grossOutput askPool product offerPool offer =>
    s!"Cannot calculate return_amount = (ask_pool {askPool} - cp {product} / " ++
      s!"(offer_pool {offerPool} + offer_amount {offer}))"
  | .marginalOutput offer askPool offerPool =>
    s!"Cannot calculate offer_amount {offer} * ask_pool {askPool} / offer_pool {offerPool}"
  | .commission gross nom denom =>
    s!"Cannot calculate return_amount {gross} * commission_rate_nom {nom} " ++
      s!"/ commission_rate_denom {denom}"
  | .netOutput gross fee => s!"Cannot calculate return_amount {gross} - commission_amount {fee}"
  | .requiredOffer product askPool beforeCommission offerPool =>
    s!"Cannot calculate offer_amount = cp {product} / (ask_pool {askPool} - " ++
      s!"{beforeCommission}) - offer_pool {offerPool}"
  | .offerBeyondReserve offer reserve =>
    s!"offer_amount {offer} larger than pool_amount + offer_amount {reserve}"
  | .depositBeyondReserve deposit asset reserve =>
    s!"native deposit {deposit}" ++ asset ++ s!" larger than pool balance {reserve}"
  | .initialShares deposit0 deposit1 =>
    s!"Cannot calculate sqrt(deposit_0 {deposit0} * deposit_1 {deposit1})"
  | .proRata side deposit totalShare pool =>
    let place := side.index
    s!"Cannot calculate deposits[{place}] {deposit} * total_share {totalShare} / " ++
      s!"pools[{place}] {pool}"
  | .refund reserve burned totalShare =>
    s!"Cannot calculate current_pool_amount {reserve} * withdrawn_share_amount {burned} " ++
      s!"/ total_share {totalShare}"
  | .veiledFigure amount nom denom => s!"Cannot calculate {amount} * {nom} / {denom}"
  | .ratio numerator denominator =>
    s!"Cannot calculate Decimal ratio {numerator} / {denominator}"
  | .ratioProduct left right => s!"Cannot calculate Decimal {left} * {right}"
  | .ratioDifference left right => s!"Decimal subtraction underflow: {left} - {right}"
  | .reciprocal divisor => s!"Cannot calculate 1 / {divisor}"
  | .scaledAmount amount factor => s!"Cannot calculate {amount} * {factor}"
  | .narrowing quantity value => s!"{quantity} {value} does not fit in 128 bits"
  | .described text => text

def Degeneracy.message : Degeneracy → String
  | .ratioByZero numerator => s!"Cannot build Decimal ratio {numerator} / 0"
  | .reciprocalOfZero => "Cannot reverse a zero Decimal"
  | .emptyForSwap offerPool askPool =>
    s!"Cannot swap against an empty reserve: offer_pool {offerPool}, ask_pool {askPool}"
  | .emptyForQuote offerPool askPool =>
    s!"Cannot quote against an empty reserve: offer_pool {offerPool}, ask_pool {askPool}"
  | .emptyForDeposit pool0 pool1 =>
    s!"Cannot add liquidity pro-rata to an empty pool: ({pool0}, {pool1})"
  | .rateDenominator denom => s!"commission_rate_denom must be positive: {denom}"
  | .exhaustsReserve ask beforeCommission askPool =>
    s!"ask_amount {ask} before commission ({beforeCommission}) would exhaust ask_pool {askPool}"
  | .noShares => "Cannot withdraw liquidity: total_share is zero"
  | .worthlessDeposit deposit0 deposit1 totalShare =>
    s!"Deposit ({deposit0}, {deposit1}) too small to mint a share (total_share {totalShare})"
  | .noOutput => "Cannot measure spread of a swap with zero output"

def AssetMismatch.message : AssetMismatch → Spelling
  | .twice asset => "A pair needs two distinct assets, got " ++ asset ++ " twice"
  | .stranger asset first second =>
    "Asset " ++ asset ++ " does not belong to pair " ++ first ++ "-" ++ second
  | .repeated asset => "Asset " ++ asset ++ " given more than once"
  | .incomplete => "Wrong asset info is given: both pair assets are required"

/-- What would be read if every number were legible. -/
def BadValue.message? : BadValue → Option Spelling
  | .negative subject value => some s!"{subject} must be non-negative: {value}"
  | .negativeSetting subject => some s!"{subject} must be non-negative"
  | .empty subject => some s!"{subject} must be non-empty"
  | .notName subject => some s!"{subject} must be a non-empty string"
  | .negativeVolumes volume0 volume1 =>
    some s!"Volumes must be non-negative: ({volume0}, {volume1})"
  | .negativeBalance value => some s!"Balance cannot be negative: {value}"
  | .rateDenominator denom => some s!"commission_rate_denom must be positive: {denom}"
  | .rateNumerator nom denom => some s!"commission_rate_nom must be in [0, {denom}]: {nom}"
  | .literal points =>
    let shown := Text.quotedPoints points
    some s!"invalid Decimal literal: {shown}"
  | .literalTooLong text =>
    let shown := Text.quoted text
    let places := Fixed.places
    some s!"Decimal literal has more than {places} fractional digits: {shown}"
  | .loneDigit | .bareBase | .negativeRoot => none
  | .timestamp flaw => some flaw.message
  | .hexDigit position =>
    some s!"non-hexadecimal number found in fromhex() arg at position {position}"
  | .codePoint => some "chr() arg not in range(0x110000)"
  | .unencodable points => some (unencodableMessage points)
  | .nativeWithoutName => some "native asset requires a non-empty denom"
  | .nativeWithAddress => some "native asset must not carry a contract_addr"
  | .tokenWithoutAddress => some "token asset requires a non-empty contract_addr"
  | .tokenWithName => some "token asset must not carry a denom"
  | .assetCount => some "a pair has exactly two assets"
  | .assetOrder first second =>
    some ("Assets must be in canonical order: " ++ first ++ " < " ++ second)
  | .side given => some ("side must be 0 or 1: " ++ given.plain)
  | .draw value => some s!"draw must be a 64-bit unsigned value: {value}"
  | .balanceShortfall asset holder current delta =>
    let next := current + delta
    some ("Insufficient balance of " ++ asset ++ " for " ++ holder ++
      s!": {current} + {delta} = {next} < 0")
  | .shareShortfall holder current amount =>
    some ("Insufficient shares for " ++ holder ++ s!": {current} < {amount}")
  | .assetList => some "assets must be a list of exactly two entries"
  | .assetForm subject =>
    some s!"{subject} must be a mapping with exactly one of 'native' or 'token'"
  | .illegible =>
    some (s!"Exceeds the limit ({longestFigure} digits) for integer string conversion; " ++
      "use sys.set_int_max_str_digits() to increase the limit")

def Oversize.message : Oversize → String
  | .codePoint => "Python int too large to convert to C int"
  | .fraction => "int too large to convert to float"

def Expected.phrase : Expected → String
  | .integer => "an int"
  | .integers => "ints"
  | .text => "a string"
  | .bytes => "bytes"
  | .mapping => "a mapping"
  | .textOrMapping => "a string or a mapping"
  | .settings => "a PairSettings"

def WrongType.message : WrongType → String
  | .unmet subject expected =>
    let phrase := expected.phrase
    s!"{subject} must be {phrase}"
  | .unordered relation left right =>
    let first := left.typeName
    let second := right.typeName
    s!"'{relation}' not supported between instances of '{first}' and '{second}'"
  | .unsummable left right =>
    let first := left.typeName
    let second := right.typeName
    if first = "str" then s!"can only concatenate str (not \"{second}\") to str"
    else s!"unsupported operand type(s) for +: '{first}' and '{second}'"
  | .assetKind given =>
    let shown := given.shown
    s!"kind must be an AssetKind, got {shown}"
  | .unknownEffect name => s!"unknown effect: {name}"
  | .unknownAction name => s!"unknown pair action: {name}"

namespace Fault

/-- What a refused caller reads. -/
def message? : Fault → Option Spelling
  | overflow cause => some cause.message
  | degenerate cause => some (.text cause.message)
  | invalidAsset cause => some cause.message
  | slippage tolerance deposit0 deposit1 pool0 pool1 =>
    some (s!"Operation exceeds max slippage tolerance {tolerance}: " ++
      s!"deposits ({deposit0}, {deposit1}) vs pools ({pool0}, {pool1})")
  | beliefSpread expected gross limit =>
    some ("Operation exceeds max spread limit with belief_price: " ++
      s!"expected {expected}, got {gross}, max_spread {limit}")
  | spread lost total limit =>
    some (s!"Operation exceeds max spread limit: spread {lost} of {total}, " ++
      s!"max_spread {limit}")
  | belowExpected returned expected =>
    some ("Operation fell short of expected_return: " ++ returned.plain ++ " < " ++ expected.plain)
  | productLoss after before =>
    some s!"Invariant violation: new_k ({after}) < old_k ({before})"
  | badValue cause =>
    if ∀ figure ∈ cause.figures, Legible figure then cause.message?
    else BadValue.message? .illegible
  | wrongType cause => some cause.message
  | oversize cause => some cause.message
  | exhausted taken => some s!"entropy sequence exhausted after {taken} draws"
  | closedSource => some "'SequenceEntropySource' object has no attribute 'absorb'"
  | malformed => none

end Fault

end VeiledPool
