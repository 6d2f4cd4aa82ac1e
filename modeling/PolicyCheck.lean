import PolicyCheck.Expr.Traversal
import PolicyCheck.Proofs.Agreement
import PolicyCheck.Proofs.AllActions
import PolicyCheck.Proofs.Assoc
import PolicyCheck.Proofs.AttributeLevels
import PolicyCheck.Proofs.Building
import PolicyCheck.Proofs.Calendar
import PolicyCheck.Proofs.CandidateOrder
import PolicyCheck.Proofs.Candidates
import PolicyCheck.Proofs.ClosedRecords
import PolicyCheck.Proofs.CommonContext
import PolicyCheck.Proofs.CommonTypes
import PolicyCheck.Proofs.CommonValues
import PolicyCheck.Proofs.ConditionIssues
import PolicyCheck.Proofs.Conforming
import PolicyCheck.Proofs.ConstantConditions
import PolicyCheck.Proofs.Covering
import PolicyCheck.Proofs.DatetimeLiterals
import PolicyCheck.Proofs.DecimalLiterals
import PolicyCheck.Proofs.Decoding
import PolicyCheck.Proofs.DisplayedNames
import PolicyCheck.Proofs.DistinctKeys
import PolicyCheck.Proofs.DurationLiterals
import PolicyCheck.Proofs.EditDistance
import PolicyCheck.Proofs.Environment
import PolicyCheck.Proofs.EqualityLaws
import PolicyCheck.Proofs.FirstOffender
import PolicyCheck.Proofs.Fitting
import PolicyCheck.Proofs.FragmentRereading
import PolicyCheck.Proofs.InferredTypes
import PolicyCheck.Proofs.Inlining
import PolicyCheck.Proofs.IpGrammar
import PolicyCheck.Proofs.IpLiterals
import PolicyCheck.Proofs.Leniency
import PolicyCheck.Proofs.ListedOrder
import PolicyCheck.Proofs.MatchingLaws
import PolicyCheck.Proofs.MentionedTypes
import PolicyCheck.Proofs.Mentions
import PolicyCheck.Proofs.NameOrder
import PolicyCheck.Proofs.Narrowing
import PolicyCheck.Proofs.NestedAccesses
import PolicyCheck.Proofs.NestingGuard
import PolicyCheck.Proofs.Ordered
import PolicyCheck.Proofs.PinnedAction
import PolicyCheck.Proofs.PolicyContext
import PolicyCheck.Proofs.Reachability
import PolicyCheck.Proofs.Rereading
import PolicyCheck.Proofs.Resolving
import PolicyCheck.Proofs.Samples
import PolicyCheck.Proofs.ScopeBlame
import PolicyCheck.Proofs.ScopeMeaning
import PolicyCheck.Proofs.SetLiterals
import PolicyCheck.Proofs.Subexpressions
import PolicyCheck.Proofs.Suggestions
import PolicyCheck.Proofs.Tables
import PolicyCheck.Proofs.Tabulating
import PolicyCheck.Proofs.TextReading
import PolicyCheck.Proofs.TypeOrder
import PolicyCheck.Proofs.ValueRereading
import PolicyCheck.Proofs.Verdicts
import PolicyCheck.Proofs.Walks
import PolicyCheck.Ty.Reader
import PolicyCheck.Validator
import PolicyCheck.Value.Data
