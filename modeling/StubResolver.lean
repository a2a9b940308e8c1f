import StubResolver.Cache.Ingest
import StubResolver.Cache.Lookup
import StubResolver.Cache.Sweep
import StubResolver.Config.File
import StubResolver.Registry
import StubResolver.ResolvConf
import StubResolver.Resolver.Plan
import StubResolver.Resolver.Resolve
import StubResolver.Resolver.Script
import StubResolver.Transport
import StubResolver.Wire.MessageCodec
import StubResolver.Proofs.Cache.Credibility
import StubResolver.Proofs.Cache.Lifetime
import StubResolver.Proofs.Resolver.Aliases
import StubResolver.Proofs.Resolver.SearchPath
import StubResolver.Proofs.Cache.Levels
import StubResolver.Proofs.Cache.Sweeping
import StubResolver.Proofs.Cache.Footprint
import StubResolver.Proofs.Cache.Zone
import StubResolver.Proofs.Resolver.Caches
import StubResolver.Proofs.Cache.Ways
import StubResolver.Proofs.Resolver.Counting
import StubResolver.Proofs.Resolver.Replay
import StubResolver.Proofs.Resolver.Work
import StubResolver.Proofs.Cache.Upkeep
import StubResolver.Proofs.Cache.Denial
import StubResolver.Proofs.Resolver.Returning
import StubResolver.Proofs.Cache.Arbitration
import StubResolver.Proofs.Wire.Queries
import StubResolver.Proofs.Resolver.Weighing
import StubResolver.Proofs.Cache.MetaTypes
import StubResolver.Proofs.Cache.Owners
import StubResolver.Proofs.Cache.Signatures
import StubResolver.Proofs.Resolver.Records
import StubResolver.Proofs.Cache.Batches
import StubResolver.Proofs.Cache.Cycle
import StubResolver.Proofs.Cache.Accounts
import StubResolver.Proofs.Cache.Absences
import StubResolver.Proofs.Timetable
import StubResolver.Proofs.Config.RoundTrip
import StubResolver.Proofs.LetterCase.Names
import StubResolver.Proofs.LetterCase.Messages
import StubResolver.Proofs.LetterCase.Digests
import StubResolver.Proofs.LetterCase.Caches
import StubResolver.Proofs.LetterCase.Runs
import StubResolver.Proofs.Cache.Ancestry
import StubResolver.Proofs.Cache.DirectAnswers
import StubResolver.Proofs.Cache.Repetition
import StubResolver.Proofs.Cache.Agreement
import StubResolver.Proofs.Cache.Recency
import StubResolver.Proofs.Cache.Expiry
import StubResolver.Proofs.Contents
import StubResolver.Proofs.Cache.Permutations
import StubResolver.Proofs.Resolver.Asking
import StubResolver.Proofs.Name.Moves
import StubResolver.Proofs.Grouping
import StubResolver.Proofs.Intervals
import StubResolver.Proofs.Config.Completion
import StubResolver.Proofs.Merging
import StubResolver.Proofs.Servers
import StubResolver.Proofs.Config.Building
import StubResolver.Proofs.Nameservers
