import BoxOffice.Checked
import BoxOffice.Configuration
import BoxOffice.Desk.Opening
import BoxOffice.Desk.Operation
import BoxOffice.Moment.Writing
import BoxOffice.Store.Journal
import BoxOffice.Store.Relational
import BoxOffice.Store.Snapshot
import BoxOffice.Store.Unfit
import BoxOffice.Proofs.Store.Rollback
import BoxOffice.Proofs.Store.Reference
import BoxOffice.Proofs.Desk.Block
import BoxOffice.Proofs.Desk.Effect
import BoxOffice.Proofs.Desk.Spares
import BoxOffice.Proofs.Desk.Rules
import BoxOffice.Proofs.Desk.Registry
import BoxOffice.Proofs.Desk.Regular
import BoxOffice.Proofs.Desk.Admission
import BoxOffice.Proofs.Desk.Allocation
import BoxOffice.Proofs.Desk.Escrow
import BoxOffice.Proofs.Desk.Operation
import BoxOffice.Proofs.Desk.Atomic
import BoxOffice.Proofs.Desk.Runs
import BoxOffice.Proofs.Inventory
import BoxOffice.Proofs.Attendance
import BoxOffice.Proofs.Decimal.Sum
import BoxOffice.Proofs.Balances
import BoxOffice.Proofs.Payments
import BoxOffice.Proofs.Store.Series
import BoxOffice.Proofs.Desk.Growth
import BoxOffice.Proofs.Desk.Quiet
import BoxOffice.Proofs.Takings
import BoxOffice.Proofs.Ownership
import BoxOffice.Proofs.Solvency
import BoxOffice.Proofs.Interchange.Admission
import BoxOffice.Proofs.Interchange.Allocation
import BoxOffice.Proofs.Interchange.Escrow
import BoxOffice.Proofs.Interchange.Runs
import BoxOffice.Proofs.Interchange.Settled
import BoxOffice.Proofs.Interchange.Columns
import BoxOffice.Proofs.Interchange.Tiers
import BoxOffice.Proofs.Interchange.Rows
import BoxOffice.Proofs.Interchange.Ledgers
import BoxOffice.Proofs.Interchange.Fits
import BoxOffice.Proofs.Interchange.Agree
import BoxOffice.Proofs.Interchange.Registry
import BoxOffice.Proofs.History.Alteration
import BoxOffice.Proofs.History.Events
import BoxOffice.Proofs.History.Tickets
import BoxOffice.Proofs.Entitlement
import BoxOffice.Proofs.Desk.Hearing
import BoxOffice.Proofs.Replay.Observer
import BoxOffice.Proofs.Replay
import BoxOffice.Proofs.Store.Listing
import BoxOffice.Proofs.Desk.Ruling
import BoxOffice.Proofs.Desk.Decision
import BoxOffice.Proofs.Desk.Interference
import BoxOffice.Proofs.Commuting
import BoxOffice.Proofs.Serving
import BoxOffice.Proofs.Soundness
import BoxOffice.Proofs.Referral
import BoxOffice.Proofs.Amounts
import BoxOffice.Proofs.Desk.Accepted
import BoxOffice.Proofs.Drafting
import BoxOffice.Proofs.Tiering
import BoxOffice.Proofs.Amendment
import BoxOffice.Proofs.Updates
import BoxOffice.Proofs.Verdict
import BoxOffice.Proofs.Proposal
import BoxOffice.Proofs.Creation
import BoxOffice.Proofs.Money
import BoxOffice.Proofs.Conservation
import BoxOffice.Proofs.Programme
import BoxOffice.Proofs.Replacement
import BoxOffice.Proofs.Store.Writes
import BoxOffice.Proofs.Overwriting
import BoxOffice.Proofs.Filing.Journal
import BoxOffice.Proofs.Filing.Relational
import BoxOffice.Proofs.Filing.Requests
import BoxOffice.Proofs.Filing.Runs
import BoxOffice.Proofs.Identity
