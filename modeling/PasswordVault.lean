import PasswordVault.Aead.Aes
import PasswordVault.Aead.ChaCha
import PasswordVault.Aead.Cipher
import PasswordVault.Aead.Gcm
import PasswordVault.ByteField
import PasswordVault.ByteField.Integer
import PasswordVault.Bytes
import PasswordVault.Entropy
import PasswordVault.Error
import PasswordVault.Fault
import PasswordVault.Hash.Argon2
import PasswordVault.Hash.Blake2b
import PasswordVault.Hash.Mac
import PasswordVault.Hash.Sha256
import PasswordVault.Hash.Sha512
import PasswordVault.Json.Basic
import PasswordVault.Json.Field
import PasswordVault.Json.Given
import PasswordVault.Json.Parser
import PasswordVault.Json.Printer
import PasswordVault.Number.Binary64
import PasswordVault.Number.Shortest
import PasswordVault.Number.Written
import PasswordVault.Phrase.Basic
import PasswordVault.Phrase.WordList
import PasswordVault.Proofs.Attempt
import PasswordVault.Proofs.ByteField.Interpolation
import PasswordVault.Proofs.ByteField.Laws
import PasswordVault.Proofs.ByteField.Residue
import PasswordVault.Proofs.ByteField.Schoolbook
import PasswordVault.Proofs.Digits
import PasswordVault.Proofs.Draws
import PasswordVault.Proofs.Hash.Length
import PasswordVault.Proofs.Json.Canonical
import PasswordVault.Proofs.Json.Field
import PasswordVault.Proofs.Json.Members
import PasswordVault.Proofs.Json.RoundTrip
import PasswordVault.Proofs.Json.Spacing
import PasswordVault.Proofs.Json.Token
import PasswordVault.Proofs.Number.Double
import PasswordVault.Proofs.Number.Rounding
import PasswordVault.Proofs.Phrase.Entropy
import PasswordVault.Proofs.Phrase.Recover
import PasswordVault.Proofs.Phrase.WordList
import PasswordVault.Proofs.Recovery.BackupKey
import PasswordVault.Proofs.Recovery.Binding
import PasswordVault.Proofs.Recovery.Bundle
import PasswordVault.Proofs.Recovery.NormalForm
import PasswordVault.Proofs.Recovery.Opening
import PasswordVault.Proofs.Recovery.Record
import PasswordVault.Proofs.Recovery.Request
import PasswordVault.Proofs.Recovery.Stored
import PasswordVault.Proofs.Session.Making
import PasswordVault.Proofs.Session.Operation
import PasswordVault.Proofs.Session.Run
import PasswordVault.Proofs.Share.Alteration
import PasswordVault.Proofs.Share.Combine
import PasswordVault.Proofs.Share.Interpolant
import PasswordVault.Proofs.Share.Secrecy
import PasswordVault.Proofs.Share.Shortfall
import PasswordVault.Proofs.Share.Split
import PasswordVault.Proofs.Share.Text
import PasswordVault.Proofs.Text.Ascii
import PasswordVault.Proofs.Text.Base32
import PasswordVault.Proofs.Text.Base64
import PasswordVault.Proofs.Text.Lower
import PasswordVault.Proofs.Text.Upper
import PasswordVault.Proofs.Text.Words
import PasswordVault.Proofs.Time.Calendar
import PasswordVault.Proofs.Time.Instant
import PasswordVault.Proofs.Time.Iso8601
import PasswordVault.Proofs.Time.Stored
import PasswordVault.Proofs.UnlockWindow.Accepted
import PasswordVault.Proofs.UnlockWindow.Decision
import PasswordVault.Proofs.UnlockWindow.Span
import PasswordVault.Proofs.Vault.Box
import PasswordVault.Proofs.Vault.Costs
import PasswordVault.Proofs.Vault.Creation
import PasswordVault.Proofs.Vault.Export
import PasswordVault.Proofs.Vault.Interchange
import PasswordVault.Proofs.Vault.Key
import PasswordVault.Proofs.Vault.Parts
import PasswordVault.Proofs.Vault.Payload
import PasswordVault.Proofs.Vault.Refusal
import PasswordVault.Proofs.Vault.Rekey
import PasswordVault.Proofs.Vault.Run
import PasswordVault.Proofs.Vault.Sealing
import PasswordVault.Proofs.Vault.Slots
import PasswordVault.Proofs.Vault.Stored
import PasswordVault.Proofs.Vault.Update
import PasswordVault.Recovery.BackupKey
import PasswordVault.Recovery.Bundle
import PasswordVault.Recovery.Contact
import PasswordVault.Recovery.Record
import PasswordVault.Recovery.Token
import PasswordVault.Settings
import PasswordVault.Share.Basic
import PasswordVault.Share.Text
import PasswordVault.Text.Base32
import PasswordVault.Text.Base64
import PasswordVault.Text.Blank
import PasswordVault.Text.Case
import PasswordVault.Text.CaseTable
import PasswordVault.Text.Hex
import PasswordVault.Text.PrintableTable
import PasswordVault.Text.Quoted
import PasswordVault.Text.Utf8
import PasswordVault.Time.Calendar
import PasswordVault.Time.Iso8601
import PasswordVault.Time.Stored
import PasswordVault.Time.Timestamp
import PasswordVault.UnlockWindow
import PasswordVault.Vault.Basic
import PasswordVault.Vault.Box
import PasswordVault.Vault.Key
import PasswordVault.Vault.Opening
import PasswordVault.Vault.Payload
import PasswordVault.Vault.Sealing
import PasswordVault.Version
