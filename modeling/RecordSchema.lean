import RecordSchema.Binding
import RecordSchema.CommandLine.Invocation
import RecordSchema.Config
import RecordSchema.Derive
import RecordSchema.Main
import RecordSchema.Run
import RecordSchema.Snapshot.Json
import RecordSchema.Source.Discovery
import RecordSchema.Store
import RecordSchema.Proofs.Pairing
import RecordSchema.Proofs.Ledger
import RecordSchema.Proofs.Snapshot.Consistency
import RecordSchema.Proofs.Snapshot.Violation
import RecordSchema.Proofs.Column
import RecordSchema.Proofs.Entity.Outline
import RecordSchema.Proofs.Entity.Property
import RecordSchema.Proofs.Entity.Build
import RecordSchema.Proofs.Numbering
import RecordSchema.Proofs.Merge
import RecordSchema.Proofs.Assigner.Renewal
import RecordSchema.Proofs.Assigner.Minting
import RecordSchema.Proofs.Assigner.Soundness
import RecordSchema.Proofs.Assigner.Outcome
import RecordSchema.Proofs.Assigner.Run
import RecordSchema.Proofs.Derive
import RecordSchema.Proofs.Settled
import RecordSchema.Proofs.Acceptance
import RecordSchema.Proofs.History.Basic
import RecordSchema.Proofs.History.Seamless
import RecordSchema.Proofs.History.Stability
import RecordSchema.Proofs.Assigner.Frame
import RecordSchema.Proofs.Slots
import RecordSchema.Proofs.File.Disk
import RecordSchema.Proofs.Publication
import RecordSchema.Proofs.Demand
import RecordSchema.Proofs.Assigner.Refusal
import RecordSchema.Proofs.Assigner.Accounts
import RecordSchema.Proofs.Collision
import RecordSchema.Proofs.Idempotence
import RecordSchema.Proofs.Agreement
import RecordSchema.Proofs.Text.Blank
import RecordSchema.Proofs.Tag.Grammar
import RecordSchema.Proofs.Tag.Scanning
import RecordSchema.Proofs.Text.Numeral
import RecordSchema.Proofs.Json.Reading
import RecordSchema.Proofs.Snapshot.Format
import RecordSchema.Proofs.File.Reading
import RecordSchema.Proofs.Persistence
import RecordSchema.Proofs.Assigner.Independence
import RecordSchema.Proofs.Independence
import RecordSchema.Proofs.Commutation
import RecordSchema.Proofs.Transient
import RecordSchema.Proofs.Growth.Record
import RecordSchema.Proofs.Growth.Merge
import RecordSchema.Proofs.Growth.Runs
import RecordSchema.Proofs.Counting
import RecordSchema.Proofs.Assigner.Recovery
import RecordSchema.Proofs.Tag.Meaning
import RecordSchema.Proofs.Tag.Composition
import RecordSchema.Proofs.Tag.Writing
import RecordSchema.Proofs.Text.LowerCase
import RecordSchema.Proofs.Tag.Spelling
import RecordSchema.Proofs.Spelling
import RecordSchema.Proofs.Assigner.Marks
import RecordSchema.Proofs.Marks
import RecordSchema.Proofs.Identity
import RecordSchema.Proofs.Hash
import RecordSchema.Proofs.Tag.Key
import RecordSchema.Proofs.Source.Place
import RecordSchema.Proofs.Source.Discovery
import RecordSchema.Proofs.Allotment
import RecordSchema.Proofs.Streaming
