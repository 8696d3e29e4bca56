import WalletRelay.Api.Service
import WalletRelay.Background.Delivery
import WalletRelay.Background.Sink
import WalletRelay.Bytes
import WalletRelay.Config
import WalletRelay.Crypto.Hmac
import WalletRelay.Crypto.Keccak
import WalletRelay.Crypto.Secp256k1
import WalletRelay.Crypto.Sha256
import WalletRelay.Crypto.Sha512
import WalletRelay.Ethereum.Address
import WalletRelay.Http.MediaType
import WalletRelay.Http.Message
import WalletRelay.Http.Status
import WalletRelay.Json.Decode
import WalletRelay.Json.Number
import WalletRelay.Json.Printer
import WalletRelay.Json.Reader
import WalletRelay.Json.Value
import WalletRelay.Keyring.AddressMap
import WalletRelay.Keyring.Basic
import WalletRelay.Keyring.Device
import WalletRelay.Keyring.Emulated
import WalletRelay.Keyring.Kind
import WalletRelay.Keyring.State
import WalletRelay.Number.Binary64
import WalletRelay.Number.Shortest
import WalletRelay.Proofs.BigEndian
import WalletRelay.Proofs.Except
import WalletRelay.Proofs.Hex
import WalletRelay.Proofs.Keyring.Changes
import WalletRelay.Proofs.Keyring.Codec
import WalletRelay.Proofs.Keyring.Simulation
import WalletRelay.Proofs.Keyring.Tracking
import WalletRelay.Proofs.Relay.Call
import WalletRelay.Proofs.Relay.DeviceRefusal
import WalletRelay.Proofs.Relay.Independence
import WalletRelay.Proofs.Relay.Invariants
import WalletRelay.Proofs.Relay.KnownAccounts
import WalletRelay.Proofs.Relay.Process
import WalletRelay.Proofs.Relay.Refusal
import WalletRelay.Proofs.Relay.Rehydration
import WalletRelay.Proofs.Relay.Run
import WalletRelay.Proofs.Relay.Separation
import WalletRelay.Proofs.Relay.Signing
import WalletRelay.Proofs.Relay.Worker
import WalletRelay.Proofs.Rlp.Header
import WalletRelay.Proofs.Rlp.Reader
import WalletRelay.Proofs.Secp256k1
import WalletRelay.Proofs.Transaction.Codec
import WalletRelay.Proofs.Transaction.Fields
import WalletRelay.Proofs.Transaction.Signed
import WalletRelay.Relay.Basic
import WalletRelay.Relay.Call
import WalletRelay.Relay.Failure
import WalletRelay.Relay.Focus
import WalletRelay.Relay.Message
import WalletRelay.Relay.Method
import WalletRelay.Relay.Worker
import WalletRelay.Rlp.Decode
import WalletRelay.Rlp.Encode
import WalletRelay.Text.Blank
import WalletRelay.Text.Case
import WalletRelay.Text.Hex
import WalletRelay.Text.Numeral
import WalletRelay.Text.Printable
import WalletRelay.Text.Quoted
import WalletRelay.Text.Split
import WalletRelay.Transaction.Basic
import WalletRelay.Transaction.Decode
import WalletRelay.Unicode.Assigned
import WalletRelay.Unicode.CombiningClass
import WalletRelay.Unicode.Composite
import WalletRelay.Unicode.Direction
import WalletRelay.Unicode.Joining
import WalletRelay.Unicode.Mark
import WalletRelay.Unicode.Normal
import WalletRelay.Unicode.Ranges
import WalletRelay.Url.Basic
import WalletRelay.Url.Domain
import WalletRelay.Url.Domain.Alphabets
import WalletRelay.Url.Domain.Character
import WalletRelay.Url.Domain.FurtherLetters
import WalletRelay.Url.Domain.Ideographs
import WalletRelay.Url.Domain.Label
import WalletRelay.Url.Domain.LetterForms
import WalletRelay.Url.Domain.Substitution
import WalletRelay.Url.Domain.Symbols
import WalletRelay.Url.Host
import WalletRelay.Url.Ipv4
import WalletRelay.Url.Ipv6
import WalletRelay.Url.Path
import WalletRelay.Url.Percent
import WalletRelay.Url.Punycode
import WalletRelay.Wallet.Derivation
import WalletRelay.Wallet.Mnemonic
import WalletRelay.Wallet.WordList
import WalletRelay.Proofs.Keyring.Root
import WalletRelay.Proofs.Keyring.Onboarding
import WalletRelay.Proofs.Relay.Rejection
import WalletRelay.Proofs.Relay.RootPath
import WalletRelay.Proofs.Api.Queue
import WalletRelay.Proofs.Keyring.Derivation
import WalletRelay.Proofs.Keyring.Addition
import WalletRelay.Proofs.Keyring.Paging
import WalletRelay.Proofs.Keyring.Range
import WalletRelay.Proofs.Relay.Indices
import WalletRelay.Proofs.Keyring.Removal
import WalletRelay.Proofs.Transaction.Envelope
import WalletRelay.Proofs.Transaction.Truncation
import WalletRelay.Proofs.Keyring.PartialState
import WalletRelay.Proofs.Relay.ForeignState
import WalletRelay.Proofs.Keyring.AccountPath
import WalletRelay.Proofs.Keyring.RootSpelling
import WalletRelay.Proofs.Keyring.KeyCache
import WalletRelay.Proofs.Background.Delivery
import WalletRelay.Proofs.Text.Numeral
import WalletRelay.Proofs.Text.Blank
import WalletRelay.Proofs.Keyring.DistinctPaths
import WalletRelay.Proofs.Config.Variables
import WalletRelay.Proofs.Config.QueueCapacity
