import SenderPolicy.Address.Basic
import SenderPolicy.Address.Literal
import SenderPolicy.Address.Network
import SenderPolicy.Address.Printer
import SenderPolicy.Check.ClientDomain
import SenderPolicy.Check.Engine
import SenderPolicy.Check.Measure
import SenderPolicy.Check.Mechanism
import SenderPolicy.Check.Modifier
import SenderPolicy.Check.Outcome
import SenderPolicy.Check.Retrieval
import SenderPolicy.Check.Run
import SenderPolicy.Check.State
import SenderPolicy.Check.Task
import SenderPolicy.CommandLine.Arguments
import SenderPolicy.CommandLine.Command
import SenderPolicy.CommandLine.Report
import SenderPolicy.Dns.Question
import SenderPolicy.Dns.Zone
import SenderPolicy.Domain.Ascii
import SenderPolicy.Domain.Mapping
import SenderPolicy.Domain.Name
import SenderPolicy.Domain.Punycode
import SenderPolicy.Failure
import SenderPolicy.Identity
import SenderPolicy.LocalRecords
import SenderPolicy.Macro.DomainSpec
import SenderPolicy.Macro.Expansion
import SenderPolicy.Macro.Token
import SenderPolicy.Macro.Transformer
import SenderPolicy.Main
import SenderPolicy.Options
import SenderPolicy.Proofs.Address.Bits
import SenderPolicy.Proofs.Address.Caseless
import SenderPolicy.Proofs.Address.Grammar
import SenderPolicy.Proofs.Address.Prefix
import SenderPolicy.Proofs.Address.Printing
import SenderPolicy.Proofs.Address.Reading
import SenderPolicy.Proofs.Address.ReverseName
import SenderPolicy.Proofs.Address.Standard
import SenderPolicy.Proofs.Check.AnswerOrder
import SenderPolicy.Proofs.Check.Budget.Answers
import SenderPolicy.Proofs.Check.Budget.Basic
import SenderPolicy.Proofs.Check.Budget.Tasks
import SenderPolicy.Proofs.Check.Budget.Turns
import SenderPolicy.Proofs.Check.Chains
import SenderPolicy.Proofs.Check.ClientName
import SenderPolicy.Proofs.Check.ClientSpelling
import SenderPolicy.Proofs.Check.Consistency.Answers
import SenderPolicy.Proofs.Check.Consistency.Basic
import SenderPolicy.Proofs.Check.Consistency.Runs
import SenderPolicy.Proofs.Check.Consistency.Tasks
import SenderPolicy.Proofs.Check.Correspondence
import SenderPolicy.Proofs.Check.Direct
import SenderPolicy.Proofs.Check.Direct.Comparison
import SenderPolicy.Proofs.Check.Direct.Failures
import SenderPolicy.Proofs.Check.Direct.Finding
import SenderPolicy.Proofs.Check.Direct.Repetition
import SenderPolicy.Proofs.Check.Exchangers
import SenderPolicy.Proofs.Check.Explanation
import SenderPolicy.Proofs.Check.Explanation.Choice
import SenderPolicy.Proofs.Check.Explanation.Course
import SenderPolicy.Proofs.Check.Explanation.Fails
import SenderPolicy.Proofs.Check.Explanation.Independence
import SenderPolicy.Proofs.Check.Explanation.Order
import SenderPolicy.Proofs.Check.Forwarder.Divergence
import SenderPolicy.Proofs.Check.Forwarder.Effect
import SenderPolicy.Proofs.Check.Forwarder.Records
import SenderPolicy.Proofs.Check.Forwarder.Rewriting
import SenderPolicy.Proofs.Check.Forwarder.Stages
import SenderPolicy.Proofs.Check.Header
import SenderPolicy.Proofs.Check.HostNames
import SenderPolicy.Proofs.Check.Includes
import SenderPolicy.Proofs.Check.Keeping
import SenderPolicy.Proofs.Check.Likeness.Answers
import SenderPolicy.Proofs.Check.Likeness.Basic
import SenderPolicy.Proofs.Check.Likeness.Runs
import SenderPolicy.Proofs.Check.Likeness.Tasks
import SenderPolicy.Proofs.Check.Limits
import SenderPolicy.Proofs.Check.Lookups
import SenderPolicy.Proofs.Check.Pauses
import SenderPolicy.Proofs.Check.Realization.Endings
import SenderPolicy.Proofs.Check.Realization.Nested
import SenderPolicy.Proofs.Check.Realization.Retrieval
import SenderPolicy.Proofs.Check.Realization.Rules
import SenderPolicy.Proofs.Check.Realization.Terms
import SenderPolicy.Proofs.Check.Retrieval.Names
import SenderPolicy.Proofs.Check.Retrieval.Rules
import SenderPolicy.Proofs.Check.Retrieval.Turns
import SenderPolicy.Proofs.Check.ReverseLookup
import SenderPolicy.Proofs.Check.SenderCase
import SenderPolicy.Proofs.Check.Senders
import SenderPolicy.Proofs.Check.Settling.Runs
import SenderPolicy.Proofs.Check.Settling.Stack
import SenderPolicy.Proofs.Check.Settling.Tasks
import SenderPolicy.Proofs.Check.Specifications
import SenderPolicy.Proofs.Check.Stack.Completion
import SenderPolicy.Proofs.Check.Stack.Decision
import SenderPolicy.Proofs.Check.Stack.Growth
import SenderPolicy.Proofs.Check.Stack.Placement
import SenderPolicy.Proofs.Check.Stack.Shape
import SenderPolicy.Proofs.Check.Stack.Silence
import SenderPolicy.Proofs.Check.Steps
import SenderPolicy.Proofs.Check.Terms
import SenderPolicy.Proofs.Domain.Ascii
import SenderPolicy.Proofs.Domain.Caseless
import SenderPolicy.Proofs.Domain.HostName
import SenderPolicy.Proofs.Domain.Mapping
import SenderPolicy.Proofs.LocalRecords.Checks
import SenderPolicy.Proofs.LocalRecords.History
import SenderPolicy.Proofs.LocalRecords.Lookup
import SenderPolicy.Proofs.Macro.Caseless
import SenderPolicy.Proofs.Macro.Characters
import SenderPolicy.Proofs.Macro.Controls
import SenderPolicy.Proofs.Macro.Encoding
import SenderPolicy.Proofs.Macro.Expansion
import SenderPolicy.Proofs.Macro.Failures
import SenderPolicy.Proofs.Macro.Grammar
import SenderPolicy.Proofs.Macro.Matching
import SenderPolicy.Proofs.Macro.Obstacles
import SenderPolicy.Proofs.Macro.Reading
import SenderPolicy.Proofs.Macro.Shortening
import SenderPolicy.Proofs.Macro.Values
import SenderPolicy.Proofs.Record.Announcing
import SenderPolicy.Proofs.Record.Decision
import SenderPolicy.Proofs.Record.Failures
import SenderPolicy.Proofs.Record.Grammar
import SenderPolicy.Proofs.Record.Lengths
import SenderPolicy.Proofs.Record.Modifiers
import SenderPolicy.Proofs.Record.Printing
import SenderPolicy.Proofs.Record.Proper
import SenderPolicy.Proofs.Record.Readers
import SenderPolicy.Proofs.Record.Spelling
import SenderPolicy.Proofs.Record.Strays
import SenderPolicy.Proofs.Record.Terms
import SenderPolicy.Proofs.Staged.Agreement
import SenderPolicy.Proofs.Staged.Conservation
import SenderPolicy.Proofs.Staged.Faithful
import SenderPolicy.Proofs.Staged.Promise
import SenderPolicy.Proofs.Staged.Reachability
import SenderPolicy.Proofs.Staged.Schedule
import SenderPolicy.Proofs.Staged.Stopping
import SenderPolicy.Proofs.Text.Ascii
import SenderPolicy.Proofs.Text.Bytes
import SenderPolicy.Proofs.Text.Caseless
import SenderPolicy.Proofs.Text.Composition
import SenderPolicy.Proofs.Text.Controls
import SenderPolicy.Proofs.Text.Decimal
import SenderPolicy.Proofs.Text.LetterCase
import SenderPolicy.Proofs.Text.Percent
import SenderPolicy.Proofs.Text.Splitting
import SenderPolicy.Proofs.Text.Trimming
import SenderPolicy.Record.Definition
import SenderPolicy.Record.Parser
import SenderPolicy.Record.Term
import SenderPolicy.Staged.Executor
import SenderPolicy.Staged.Promise
import SenderPolicy.Staged.Queue
import SenderPolicy.Text.Basic
import SenderPolicy.Text.Blank
import SenderPolicy.Text.CodeTable
import SenderPolicy.Text.Combining
import SenderPolicy.Text.Composition
import SenderPolicy.Text.Digit
import SenderPolicy.Text.Direction
import SenderPolicy.Text.Joining
import SenderPolicy.Text.Percent
import SenderPolicy.Text.Quoted
import SenderPolicy.Verdict
