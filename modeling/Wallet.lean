import Wallet.Account.Basic
import Wallet.Account.Profile
import Wallet.Address
import Wallet.Bytes
import Wallet.Command.Arguments
import Wallet.Command.Grammar
import Wallet.Command.Program
import Wallet.Command.Session
import Wallet.Curve.Ecdsa
import Wallet.Curve.Ed25519
import Wallet.Curve.Edwards
import Wallet.Curve.Modular
import Wallet.Curve.Weierstrass
import Wallet.Hash.Blake2b
import Wallet.Hash.Chain
import Wallet.Hash.Sha2
import Wallet.Json.Binary64
import Wallet.Json.Parser
import Wallet.Json.Printer
import Wallet.Json.Value
import Wallet.Key.Pair
import Wallet.Key.Public
import Wallet.Key.Scheme
import Wallet.Key.Seed
import Wallet.Key.Signature
import Wallet.Key.Stream
import Wallet.Log.Event
import Wallet.Log.Filter
import Wallet.Log.Pattern
import Wallet.Main
import Wallet.Network
import Wallet.Node.Config
import Wallet.Node.Error
import Wallet.Node.Exchange
import Wallet.Node.Http
import Wallet.Node.Query
import Wallet.Node.Request
import Wallet.Node.Wait
import Wallet.Node.Wire
import Wallet.Phrase.Generation
import Wallet.Phrase.Words
import Wallet.Radix
import Wallet.Search
import Wallet.Text.Base58
import Wallet.Text.Base64
import Wallet.Text.DecodeError
import Wallet.Text.Duration
import Wallet.Text.Hex
import Wallet.Text.Printable
import Wallet.Text.Quoted
import Wallet.Text.Symbol
import Wallet.Transaction.Basic
import Wallet.Transaction.Body
import Wallet.Transaction.Document
import Wallet.Transaction.Error
import Wallet.Transaction.Kind
import Wallet.Transaction.Layout
import Wallet.Transaction.Script
import Wallet.Transaction.Signing
import Wallet.Proofs.Numeral
import Wallet.Proofs.Text.Base58
import Wallet.Proofs.Address
import Wallet.Proofs.Json.Fields
import Wallet.Proofs.Key
import Wallet.Proofs.Outcome
import Wallet.Proofs.Text.Base64
import Wallet.Proofs.Transaction.Body
import Wallet.Proofs.Transaction.Document
import Wallet.Proofs.Transaction.Reachable
import Wallet.Proofs.Transaction.Canonical
import Wallet.Proofs.Transaction.Fields
import Wallet.Proofs.Transaction.RoundTrip
import Wallet.Proofs.Transaction.Runs
import Wallet.Proofs.Transaction.Rewriting
import Wallet.Proofs.Transaction.Order
import Wallet.Proofs.Transaction.Columns
import Wallet.Proofs.Json.Text
import Wallet.Proofs.Transaction.Text
import Wallet.Proofs.Node.Exchange
import Wallet.Proofs.Command.Task
import Wallet.Proofs.Command.Submission
import Wallet.Proofs.Node.Wait
import Wallet.Proofs.Transaction.Encoding
import Wallet.Proofs.Transaction.Timestamp
import Wallet.Proofs.Node.Echo
import Wallet.Proofs.Transaction.Dependence
import Wallet.Proofs.Transaction.Verification
import Wallet.Proofs.Key.Secret
import Wallet.Proofs.Curve.Modular
import Wallet.Proofs.Curve.Primality
import Wallet.Proofs.Curve.Weierstrass
import Wallet.Proofs.Curve.Ecdsa
import Wallet.Proofs.Key.Malleability
import Wallet.Proofs.Key.Phrase
import Wallet.Proofs.Transaction.Fee
import Wallet.Proofs.Transaction.Script
import Wallet.Proofs.Text.Canonical
import Wallet.Proofs.Curve.Edwards
import Wallet.Proofs.Account.Routes
import Wallet.Proofs.Phrase
import Wallet.Proofs.Address.Damage
import Wallet.Proofs.Address.Ownership
import Wallet.Proofs.Key.Sampling
import Wallet.Proofs.Transaction.Lease
import Wallet.Proofs.Address.Prefix
import Wallet.Proofs.Node.Question
import Wallet.Proofs.Account.Check
import Wallet.Proofs.Command.Compilation
