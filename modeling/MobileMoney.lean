import MobileMoney.Main
import MobileMoney.Proofs.Account.Initiation
import MobileMoney.Proofs.Callback.Authentication
import MobileMoney.Proofs.Reconciliation.Maximality
import MobileMoney.Record.Config
import MobileMoney.Record.Payment
import MobileMoney.Record.Rail
import MobileMoney.Proofs.Money.Canonical
import MobileMoney.Proofs.Reconciliation.Conservation
import MobileMoney.Proofs.Markup.Escape
import MobileMoney.Proofs.Markup.Element
import MobileMoney.Proofs.Session.Invariant
import MobileMoney.Proofs.Token.History
import MobileMoney.Proofs.Token.Tracking
import MobileMoney.Proofs.Account.TokenDiscipline
import MobileMoney.Proofs.Json.Scalar
import MobileMoney.Proofs.Callback.Identifier
import MobileMoney.Proofs.Session.Answer
import MobileMoney.Proofs.Account.Correlation
import MobileMoney.Proofs.Callback.Redelivery
import MobileMoney.Proofs.Account.Requests
import MobileMoney.Proofs.Callback.Signing
import MobileMoney.Proofs.Reconciliation.Separation
import MobileMoney.Proofs.Account.Amount
import MobileMoney.Proofs.Callback.Completion
import MobileMoney.Proofs.Token.Recall
import MobileMoney.Proofs.Account.RetryBudget
import MobileMoney.Proofs.Session.Secrecy
import MobileMoney.Proofs.Account.Secrecy
import MobileMoney.Proofs.Reconciliation.FirstFit
import MobileMoney.Proofs.Token.Sharing
import MobileMoney.Proofs.Reconciliation.Appending
import MobileMoney.Proofs.Reconciliation.Overflow
import MobileMoney.Proofs.Reconciliation.ExactMatching
import MobileMoney.Proofs.Rail.Preparation
import MobileMoney.Proofs.Callback.Acceptance
import MobileMoney.Proofs.Retry.Timeline
import MobileMoney.Proofs.Money.Parsing
import MobileMoney.Proofs.Money.Display
import MobileMoney.Proofs.Account.Question
import MobileMoney.Proofs.Token.Lifetime
import MobileMoney.Proofs.Json.Replacement
import MobileMoney.Proofs.Mpesa.NamedValues
import MobileMoney.Proofs.Text.Capitals
import MobileMoney.Proofs.Airtel.Market
import MobileMoney.Proofs.Http.Escapes
import MobileMoney.Proofs.Airtel.StatusQuery
import MobileMoney.Proofs.Retry.Backoff
import MobileMoney.Proofs.Json.Slot
import MobileMoney.Proofs.Record.Amount
import MobileMoney.Proofs.Money.Spelling
import MobileMoney.Proofs.Registry.Enabled
import MobileMoney.Proofs.Time.Calendar
import MobileMoney.Proofs.Time.Notation
import MobileMoney.Proofs.Record.RoundTrip
import MobileMoney.Proofs.Markup.Tag
