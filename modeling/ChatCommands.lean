import ChatCommands.Main
import ChatCommands.Outcome.Document
import ChatCommands.Scripted
import ChatCommands.Proofs.Permission.Greatest
import ChatCommands.Proofs.Permission.Rules
import ChatCommands.Proofs.Permission.Count
import ChatCommands.Proofs.Permission.Table
import ChatCommands.Proofs.Text.Segments
import ChatCommands.Proofs.Engine.Course
import ChatCommands.Proofs.Engine.Frame
import ChatCommands.Proofs.Engine.History
import ChatCommands.Proofs.Engine.Authorization
import ChatCommands.Proofs.Grammar.Growth
import ChatCommands.Proofs.Grammar.Places
import ChatCommands.Proofs.Grammar.Replay
import ChatCommands.Proofs.Engine.Denial
import ChatCommands.Proofs.Usage.Forgetting
import ChatCommands.Proofs.Usage.Accounts
import ChatCommands.Proofs.Usage.Configuration
import ChatCommands.Proofs.Usage.WindowLaw
import ChatCommands.Proofs.Usage.Pruning
import ChatCommands.Proofs.Usage.Recording
import ChatCommands.Proofs.Engine.Effects
import ChatCommands.Proofs.Usage.Count
import ChatCommands.Proofs.Usage.Table
import ChatCommands.Proofs.Usage.Sparse
import ChatCommands.Proofs.Engine.RateBound
import ChatCommands.Proofs.Policy.Region
import ChatCommands.Proofs.Engine.Isolation
import ChatCommands.Proofs.Text.Sigma
import ChatCommands.Proofs.Grammar.Chain
import ChatCommands.Proofs.Policy.Snapshot
import ChatCommands.Proofs.Policy.Address
import ChatCommands.Proofs.Usage.Refusal
import ChatCommands.Proofs.Engine.Bystanders
import ChatCommands.Proofs.Grammar.WellFormed
import ChatCommands.Proofs.Grammar.Demands
import ChatCommands.Proofs.Grammar.Order
import ChatCommands.Proofs.Policy.Listener
import ChatCommands.Proofs.Engine.Owners
import ChatCommands.Proofs.Engine.Faults
import ChatCommands.Proofs.Grammar.Spelling
import ChatCommands.Proofs.Grammar.Parameters
import ChatCommands.Proofs.Voices.Grammar
import ChatCommands.Proofs.Voices.Privilege
import ChatCommands.Proofs.Voices.Replies
import ChatCommands.Proofs.Usage.Resizing
import ChatCommands.Proofs.Usage.GroupChoice
import ChatCommands.Proofs.Voices.Containment
import ChatCommands.Proofs.Record.RoundTrip
import ChatCommands.Proofs.Engine.Syntax
import ChatCommands.Proofs.Grammar.Fallback
import ChatCommands.Proofs.Text.Capitals
import ChatCommands.Proofs.Grammar.Names
import ChatCommands.Proofs.Grammar.Trail
import ChatCommands.Proofs.Grammar.Failures
import ChatCommands.Proofs.Grammar.Appended
import ChatCommands.Proofs.Grammar.Reuse
import ChatCommands.Proofs.Permission.Joins
import ChatCommands.Proofs.Tokens.Pieces
import ChatCommands.Proofs.Tokens.Writing
import ChatCommands.Proofs.Tokens.Mentions
import ChatCommands.Proofs.Engine.Prefix
import ChatCommands.Proofs.Usage.Bounded
