import VeiledPool.Config.Reader
import VeiledPool.Request.Action
import VeiledPool.Request.Guard
import VeiledPool.Request.Material
import VeiledPool.Request.Pricing
import VeiledPool.Request.Ratio
import VeiledPool.Session
import VeiledPool.Wide.Expr
import VeiledPool.Yaml.Assembly
import VeiledPool.Fault.Message
import VeiledPool.Number.Binary
import VeiledPool.Proofs.Fault.Sequence
import VeiledPool.Proofs.Ledger.Tally
import VeiledPool.Proofs.Ledger.Balances
import VeiledPool.Proofs.Ledger.Effect
import VeiledPool.Proofs.Curve.Fill
import VeiledPool.Proofs.Liquidity
import VeiledPool.Proofs.Exchange.Terms
import VeiledPool.Proofs.Exchange.Product
import VeiledPool.Proofs.Session.Dilution
import VeiledPool.Proofs.Session.Exit
import VeiledPool.Proofs.Ledger.Execution
import VeiledPool.Proofs.Ledger.Conservation
import VeiledPool.Proofs.Session.Atomicity
import VeiledPool.Proofs.Session.Conservation
import VeiledPool.Proofs.Exchange.Settlement
import VeiledPool.Proofs.Exchange.Footprint
import VeiledPool.Proofs.Fixed.Natural
import VeiledPool.Proofs.Guard.Spread
import VeiledPool.Proofs.Exchange.Verdict
import VeiledPool.Proofs.Veil
import VeiledPool.Proofs.Exchange.Disclosure
import VeiledPool.Proofs.Exchange.Simulation
import VeiledPool.Proofs.Session.Draws
import VeiledPool.Proofs.Curve.Rate
import VeiledPool.Proofs.Request.Pricing
import VeiledPool.Proofs.Curve.Exactness
import VeiledPool.Proofs.Curve.Quote
import VeiledPool.Proofs.Curve.Inverse
import VeiledPool.Proofs.Exchange.Volume
import VeiledPool.Proofs.Asset.Order
import VeiledPool.Proofs.Config.Description
import VeiledPool.Proofs.Config.Acceptance
import VeiledPool.Proofs.Request.Guard
import VeiledPool.Proofs.Guard.Decision
import VeiledPool.Proofs.Guard.Belief
import VeiledPool.Proofs.Guard.Slippage
import VeiledPool.Proofs.Exchange.Tolerance
import VeiledPool.Proofs.Liquidity.Optimum
import VeiledPool.Proofs.Curve.Splitting
import VeiledPool.Proofs.Liquidity.Deposits
import VeiledPool.Proofs.Liquidity.Withdrawals
import VeiledPool.Proofs.Curve.Reconciliation
import VeiledPool.Proofs.Curve.Understatement
import VeiledPool.Proofs.Curve.Monotonicity
import VeiledPool.Proofs.Curve.Refusal
import VeiledPool.Proofs.Ledger.Identity
import VeiledPool.Proofs.Pair.Deposit
import VeiledPool.Proofs.Exchange.Identity
import VeiledPool.Proofs.Entropy.History
import VeiledPool.Proofs.Pair.Arrangement
import VeiledPool.Proofs.Text.Numeral
import VeiledPool.Proofs.Text.Trim
import VeiledPool.Proofs.Fixed.Literal
import VeiledPool.Proofs.Fixed.Canonical
import VeiledPool.Proofs.Wide.Formula
import VeiledPool.Proofs.Ledger.Total
import VeiledPool.Proofs.Ledger.Shelf
import VeiledPool.Proofs.Ledger.Holdings
import VeiledPool.Proofs.Ledger.Reordering
