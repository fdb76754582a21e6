import JsonSchema.Binary64.Decimal
import JsonSchema.Json
import JsonSchema.Json.Parser
import JsonSchema.Json.Printer
import JsonSchema.Regex
import JsonSchema.Address
import JsonSchema.Calendar
import JsonSchema.Documents
import JsonSchema.Equality
import JsonSchema.Format
import JsonSchema.Keyword
import JsonSchema.Multiple
import JsonSchema.Report
import JsonSchema.Rule
import JsonSchema.Checking
import JsonSchema.Compilation
import JsonSchema.Building
import JsonSchema.Validator
import JsonSchema.Proofs.Numbers.Rounding
import JsonSchema.Proofs.Equality
import JsonSchema.Proofs.Checking.Demand
import JsonSchema.Proofs.Checking.Log
import JsonSchema.Proofs.Checking.Budget
import JsonSchema.Proofs.Checking.FailFast
import JsonSchema.Proofs.Checking.Locating
import JsonSchema.Proofs.Checking.GreatestFixedPoint
import JsonSchema.Proofs.Checking.Accepting
import JsonSchema.Proofs.Checking.Frames
import JsonSchema.Proofs.Compiling.Keywords
import JsonSchema.Proofs.Compiling.Grouping
import JsonSchema.Proofs.Compiling.Nodes
import JsonSchema.Proofs.Interpreting.Refinement
import JsonSchema.Proofs.Interpreting.Asking
import JsonSchema.Proofs.Building.Calls
import JsonSchema.Proofs.Building.Descent
import JsonSchema.Proofs.Building.Repeating
import JsonSchema.Proofs.Pointers
import JsonSchema.Proofs.Pointers.Outcomes
import JsonSchema.Proofs.Following.Precedence
import JsonSchema.Proofs.Following.Chains
import JsonSchema.Proofs.Shuffling
import JsonSchema.Proofs.Losses
import JsonSchema.Proofs.Building.Tasks
import JsonSchema.Proofs.Building.Applying
import JsonSchema.Proofs.Building.Keeping
import JsonSchema.Proofs.Building.Extending
import JsonSchema.Proofs.Building.Populating
import JsonSchema.Proofs.Building.Retaining
import JsonSchema.Proofs.Building.Resolving
import JsonSchema.Proofs.Compiling.Succeeding
import JsonSchema.Proofs.Compiling.Runs
import JsonSchema.Proofs.Isolation.References
import JsonSchema.Proofs.Isolation.Verdicts
import JsonSchema.Proofs.Reordering.Verdicts
import JsonSchema.Proofs.Compiling.Ending
import JsonSchema.Proofs.Reordering.Values
import JsonSchema.Proofs.Reordering.Demands
import JsonSchema.Proofs.Reordering.Keywords
import JsonSchema.Proofs.Reordering.Nodes
import JsonSchema.Proofs.Reordering.Compiling
import JsonSchema.Proofs.Reordering.Findings
import JsonSchema.Proofs.Reordering.Equality
import JsonSchema.Proofs.Compiling.Replaying
import JsonSchema.Proofs.Compiling.ReferenceTable
import JsonSchema.Proofs.Compiling.Members
import JsonSchema.Proofs.Building.Presence
import JsonSchema.Proofs.Checking.Reached
import JsonSchema.Proofs.Checking.Speculating
import JsonSchema.Proofs.Checking.Members
import JsonSchema.Proofs.Checking.Breaking
import JsonSchema.Proofs.Checking.Bounds
import JsonSchema.Proofs.Checking.Sizes
import JsonSchema.Proofs.Checking.Uniqueness
import JsonSchema.Proofs.Numbers.Multiples
import JsonSchema.Proofs.Building.Members
import JsonSchema.Proofs.Building.Elements
import JsonSchema.Proofs.Compiling.Flaws
import JsonSchema.Proofs.Allowing
import JsonSchema.Proofs.Regex.Stretches
import JsonSchema.Proofs.Regex.Matching
import JsonSchema.Proofs.Formats
import JsonSchema.Proofs.Following.Identifiers
import JsonSchema.Proofs.Checking.Calls
import JsonSchema.Proofs.Compiling.Partition
import JsonSchema.Proofs.Checking.Kinds
