import Scorekeeper.Log
import Scorekeeper.Main
import Scorekeeper.Object.Instance
import Scorekeeper.Service.Exchange
import Scorekeeper.Formula.Check
import Scorekeeper.Proofs.Formula.Expression
import Scorekeeper.Proofs.Formula.Spelling
import Scorekeeper.Proofs.Formula.Written
import Scorekeeper.Proofs.Formula.Meaning
import Scorekeeper.Proofs.Scalar.Exact
import Scorekeeper.Proofs.Except
import Scorekeeper.Proofs.Table
import Scorekeeper.Proofs.Totals.Ancestry
import Scorekeeper.Proofs.Totals.Rollup
import Scorekeeper.Proofs.Totals.Bucket
import Scorekeeper.Proofs.Totals.Entry
import Scorekeeper.Proofs.Rule.Target
import Scorekeeper.Proofs.Ledger.Calls
import Scorekeeper.Proofs.Ledger.Cycle
import Scorekeeper.Proofs.Ledger.Repeats
import Scorekeeper.Proofs.Ledger.Answer
import Scorekeeper.Proofs.Ledger.Trigger
import Scorekeeper.Proofs.Object.Evaluation
import Scorekeeper.Proofs.Keeper.Places
import Scorekeeper.Proofs.Keeper.Call
import Scorekeeper.Proofs.Keeper.InPlace
import Scorekeeper.Proofs.Keeper.Change
import Scorekeeper.Proofs.Keeper.Validity
import Scorekeeper.Proofs.Object.Nesting
import Scorekeeper.Proofs.Object.Liveness
import Scorekeeper.Proofs.Object.Place
import Scorekeeper.Proofs.Object.Initial
import Scorekeeper.Proofs.Formula.Grammar
import Scorekeeper.Proofs.Formula.Operands
import Scorekeeper.Proofs.Formula.Acceptance
import Scorekeeper.Proofs.Totals.Failing
import Scorekeeper.Proofs.Ledger.Failure
import Scorekeeper.Proofs.Formula.Yard
import Scorekeeper.Proofs.Formula.Dependence
import Scorekeeper.Proofs.Totals.Simultaneous
import Scorekeeper.Proofs.Formula.Objection
import Scorekeeper.Proofs.Formula.Unanswered
import Scorekeeper.Proofs.Service.Answer
import Scorekeeper.Proofs.Object.Frame
import Scorekeeper.Proofs.Totals.Frame
import Scorekeeper.Proofs.Rule.DryRun
import Scorekeeper.Proofs.Keeper.Refresh
import Scorekeeper.Proofs.Keeper.Convergence
import Scorekeeper.Proofs.Keeper.Isolation
import Scorekeeper.Proofs.Totals.Settling
import Scorekeeper.Proofs.Object.Reference
import Scorekeeper.Proofs.Object.Turn
import Scorekeeper.Proofs.Object.Posting
import Scorekeeper.Proofs.Review.Cycle
import Scorekeeper.Proofs.Review.Forest
import Scorekeeper.Proofs.Record.Elements
import Scorekeeper.Proofs.Review.Formulas
import Scorekeeper.Proofs.Review.Reference
import Scorekeeper.Proofs.Totals.Loose
import Scorekeeper.Proofs.Review.Unknown
import Scorekeeper.Proofs.Ledger.Verdict
import Scorekeeper.Proofs.Object.Naming
import Scorekeeper.Proofs.Keeper.Lifecycle
import Scorekeeper.Proofs.Totals.Conservation
import Scorekeeper.Proofs.Formula.Lossless
import Scorekeeper.Proofs.Formula.Matching
import Scorekeeper.Proofs.Object.Relabelling
import Scorekeeper.Proofs.Totals.Winners
import Scorekeeper.Proofs.Service.Scoreboard
import Scorekeeper.Proofs.Formula.Calls
