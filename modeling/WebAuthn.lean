import WebAuthn.Assertion
import WebAuthn.Attempt
import WebAuthn.Attestation.Object
import WebAuthn.Attestation.Registry
import WebAuthn.Attestation.Statement
import WebAuthn.Audited
import WebAuthn.Authenticator.Attested
import WebAuthn.Authenticator.Data
import WebAuthn.Authenticator.Draft
import WebAuthn.Authenticator.KeyPair
import WebAuthn.Authenticator.Software
import WebAuthn.Base64Url
import WebAuthn.Bytes
import WebAuthn.Cbor.Decoder
import WebAuthn.Cbor.Encoder
import WebAuthn.Cbor.Error
import WebAuthn.Cbor.Value
import WebAuthn.Challenge
import WebAuthn.ClientData
import WebAuthn.Cose.Algorithm
import WebAuthn.Cose.Key
import WebAuthn.Credential
import WebAuthn.Curve.Edwards25519
import WebAuthn.Curve.P256
import WebAuthn.Exchange
import WebAuthn.Failure
import WebAuthn.Hash.Hmac
import WebAuthn.Hash.Sha2
import WebAuthn.Idna.Domain
import WebAuthn.Idna.Label
import WebAuthn.Idna.Mapping
import WebAuthn.Idna.Punycode
import WebAuthn.Json.Record
import WebAuthn.Json.Text
import WebAuthn.Json.Token
import WebAuthn.Json.Value
import WebAuthn.Number.Decimal
import WebAuthn.Number.Modular
import WebAuthn.Number.Radix
import WebAuthn.Policy.Basic
import WebAuthn.Policy.Toml
import WebAuthn.Policy.Validation
import WebAuthn.Registration
import WebAuthn.RelyingParty
import WebAuthn.Response
import WebAuthn.Script
import WebAuthn.Signature.Der
import WebAuthn.Signature.Ecdsa
import WebAuthn.Signature.Eddsa
import WebAuthn.Signature.Rsa
import WebAuthn.Store.Challenges
import WebAuthn.Store.Credentials
import WebAuthn.Text.Fields
import WebAuthn.Text.Hex
import WebAuthn.Text.Quoted
import WebAuthn.Text.Set
import WebAuthn.Text.Utf8
import WebAuthn.Toml.Document
import WebAuthn.Toml.Number
import WebAuthn.Toml.Token
import WebAuthn.Toml.Value
import WebAuthn.Unicode.CombiningClass
import WebAuthn.Unicode.Composition
import WebAuthn.Unicode.Direction
import WebAuthn.Unicode.Joining
import WebAuthn.Unicode.Mark
import WebAuthn.Unicode.Normalization
import WebAuthn.Unicode.Table
import WebAuthn.Unicode.Unprintable
import WebAuthn.Url.Basic
import WebAuthn.Url.Host
import WebAuthn.Url.Ipv4
import WebAuthn.Url.Ipv6
import WebAuthn.UserVerification
import WebAuthn.Uuid
import WebAuthn.Proofs.Acceptance.Check
import WebAuthn.Proofs.Acceptance.ClientData
import WebAuthn.Proofs.Interleaving.Transcript
import WebAuthn.Proofs.Layout.Bytes
import WebAuthn.Proofs.Layout.Key
import WebAuthn.Proofs.Acceptance.Assertion
import WebAuthn.Proofs.Layout.AttestationObject
import WebAuthn.Proofs.Acceptance.Registration
import WebAuthn.Proofs.Interleaving.Ceremony
import WebAuthn.Proofs.Interleaving.World
import WebAuthn.Proofs.Interleaving.Replay
import WebAuthn.Proofs.Store.Credentials
import WebAuthn.Proofs.Interleaving.SignCount
import WebAuthn.Proofs.Cbor.Grammar
import WebAuthn.Proofs.Cbor.Lockstep
import WebAuthn.Proofs.Cbor.Recognition
import WebAuthn.Proofs.Cbor.Truncation
import WebAuthn.Proofs.Cbor.Limits
import WebAuthn.Proofs.Layout.Concatenation
import WebAuthn.Proofs.Interleaving.Atomicity
import WebAuthn.Proofs.Interleaving.Replacement
import WebAuthn.Proofs.Acceptance.Separation
import WebAuthn.Proofs.Store.ChallengeHistory
import WebAuthn.Proofs.Store.CredentialHistory
import WebAuthn.Proofs.Text.Base64Url
import WebAuthn.Proofs.Json.Rendering
import WebAuthn.Proofs.Json.Scanning
import WebAuthn.Proofs.Cbor.Writing
import WebAuthn.Proofs.Layout.WrittenKey
import WebAuthn.Proofs.Signature.Rsa
import WebAuthn.Proofs.Authenticator.KeyPair
import WebAuthn.Proofs.Layout.Written
import WebAuthn.Proofs.Authenticator.Software
import WebAuthn.Proofs.Acceptance.Genuine
import WebAuthn.Proofs.Layout.ReadKey
import WebAuthn.Proofs.Layout.StoredKey
import WebAuthn.Proofs.Layout.BuiltObject
import WebAuthn.Proofs.Layout.Boundaries
import WebAuthn.Proofs.Acceptance.KeptCredential
import WebAuthn.Proofs.Interleaving.FailClosed
import WebAuthn.Proofs.Cbor.Entries
import WebAuthn.Proofs.Layout.KeyEntries
import WebAuthn.Proofs.Acceptance.RegisteredKey
import WebAuthn.Proofs.Acceptance.PrivateKey
import WebAuthn.Proofs.Acceptance.SelfAttestation
import WebAuthn.Proofs.Text.Fields
import WebAuthn.Proofs.Idna.AsciiForm
import WebAuthn.Proofs.Url.HostText
import WebAuthn.Proofs.Url.Parsed
import WebAuthn.Proofs.Unicode.Plain
import WebAuthn.Proofs.Idna.PlainName
import WebAuthn.Proofs.Url.Plain
import WebAuthn.Proofs.Policy.Origins
import WebAuthn.Proofs.Text.Base64Canonical
import WebAuthn.Proofs.Layout.EntryOrder
import WebAuthn.Proofs.Cbor.WellFormed
import WebAuthn.Proofs.Cbor.Reservation
import WebAuthn.Proofs.Cbor.Positions
import WebAuthn.Proofs.Json.Grammar
import WebAuthn.Proofs.Json.Spelling
import WebAuthn.Proofs.Json.Reading
import WebAuthn.Proofs.Json.Members
import WebAuthn.Proofs.Acceptance.Members
import WebAuthn.Proofs.Json.Values
import WebAuthn.Proofs.Acceptance.WireForm
import WebAuthn.Proofs.Bounds.Access
import WebAuthn.Proofs.Bounds.Reader
import WebAuthn.Proofs.Bounds.Parsers
