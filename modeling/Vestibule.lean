import Vestibule.Audit.Actor
import Vestibule.Audit.Change
import Vestibule.Audit.Event
import Vestibule.Audit.EventId
import Vestibule.Config.Auth
import Vestibule.Config.Environment
import Vestibule.Config.Error
import Vestibule.Config.Settings
import Vestibule.Digest.Hmac
import Vestibule.Digest.Sha1
import Vestibule.Digest.Sha256
import Vestibule.Digest.Sha512
import Vestibule.Digest.Words
import Vestibule.Encoding.Base64
import Vestibule.Encoding.Hex
import Vestibule.Encoding.Utf16
import Vestibule.Encoding.Utf8
import Vestibule.Error
import Vestibule.Flow.Email
import Vestibule.Flow.Exchange
import Vestibule.Flow.OAuth
import Vestibule.Flow.Password
import Vestibule.Flow.Request
import Vestibule.Flow.Reset
import Vestibule.Flow.Saml
import Vestibule.Flow.Service
import Vestibule.Flow.StandIn
import Vestibule.Http.Charset
import Vestibule.Http.Conversation
import Vestibule.Http.Message
import Vestibule.Id.Entity
import Vestibule.Id.Uuid
import Vestibule.Identity.Linking
import Vestibule.Identity.User
import Vestibule.Identity.VerifiedEmail
import Vestibule.Json.Basic
import Vestibule.Json.Double
import Vestibule.Json.Edit
import Vestibule.Json.Reader
import Vestibule.Json.Record
import Vestibule.Json.Search
import Vestibule.Json.Settings
import Vestibule.Json.Writer
import Vestibule.LogView
import Vestibule.Login.Factor
import Vestibule.Login.Gate
import Vestibule.Login.Method
import Vestibule.Mail.Mailbox
import Vestibule.Mail.Message
import Vestibule.Mail.Relay
import Vestibule.Operation
import Vestibule.Password.Bcrypt
import Vestibule.Password.Blowfish
import Vestibule.Password.Blowfish.Tables
import Vestibule.Password.Matcher
import Vestibule.Proofs.Table
import Vestibule.Proofs.Transaction
import Vestibule.Provider.BreachLookup
import Vestibule.Provider.Config
import Vestibule.Provider.Error
import Vestibule.Provider.KeyVault
import Vestibule.Provider.OAuthClient
import Vestibule.Provider.Retry
import Vestibule.Provider.Spec
import Vestibule.Session.Intermediate
import Vestibule.Session.Session
import Vestibule.Signature.Ber
import Vestibule.Signature.Der
import Vestibule.Signature.Modular
import Vestibule.Signature.P256
import Vestibule.Signature.Pem
import Vestibule.Signature.Rsa
import Vestibule.Store.Basic
import Vestibule.Store.Error
import Vestibule.Store.Record
import Vestibule.Store.Table
import Vestibule.Store.Transaction
import Vestibule.Tenant.Connection
import Vestibule.Tenant.Organization
import Vestibule.Tenant.Project
import Vestibule.Text.Chars
import Vestibule.Text.CodeTable
import Vestibule.Text.Integer
import Vestibule.Text.Letter
import Vestibule.Time.Calendar
import Vestibule.Time.Instant
import Vestibule.Time.Rfc3339
import Vestibule.Token.Claims
import Vestibule.Token.Jwt
import Vestibule.Token.Key
import Vestibule.Token.Secret
import Vestibule.Token.WebKey
import Vestibule.Url.Authority
import Vestibule.Url.Basic
import Vestibule.Url.Domain.Basic
import Vestibule.Url.Domain.Composition
import Vestibule.Url.Domain.Mapping
import Vestibule.Url.Domain.MappingTable
import Vestibule.Url.Domain.Mark
import Vestibule.Url.Domain.MarkTable
import Vestibule.Url.Domain.Script
import Vestibule.Url.Domain.ScriptTable
import Vestibule.Url.Host
import Vestibule.Url.Path
import Vestibule.Url.Percent
import Vestibule.Url.Punycode
import Vestibule.Proofs.Gate
import Vestibule.Proofs.Lesson
import Vestibule.Proofs.Turn
import Vestibule.Proofs.Credential
import Vestibule.Proofs.Step
import Vestibule.Proofs.Exchange
import Vestibule.Proofs.Commit
import Vestibule.Proofs.Interleaving
import Vestibule.Proofs.ExchangeOnce
import Vestibule.Proofs.Continuity
import Vestibule.Proofs.MatchedUser
import Vestibule.Proofs.PasswordReplacement
import Vestibule.Proofs.EmailProvenance
import Vestibule.Proofs.Course
import Vestibule.Proofs.TenantPolicy
import Vestibule.Proofs.Clock
import Vestibule.Proofs.Lockout
import Vestibule.Proofs.SingleUse
import Vestibule.Proofs.AuditOnce
import Vestibule.Proofs.Ending
import Vestibule.Proofs.FailedLogin
import Vestibule.Proofs.Refusal
import Vestibule.Proofs.FailedExchange
import Vestibule.Proofs.SharedAccount
import Vestibule.Proofs.WellFormed
import Vestibule.Proofs.Avoidance
import Vestibule.Proofs.Gap
import Vestibule.Proofs.Progress
import Vestibule.Proofs.License
import Vestibule.Proofs.LostUpdate
import Vestibule.Proofs.TenantFrame
import Vestibule.Proofs.Uniqueness
import Vestibule.Proofs.EmailQuota
import Vestibule.Proofs.Alike
import Vestibule.Proofs.Likeness
import Vestibule.Proofs.UserLikeness
import Vestibule.Proofs.Deactivated
import Vestibule.Proofs.Noninterference
import Vestibule.Proofs.AccountSecrecy
import Vestibule.Proofs.Deadline
import Vestibule.Proofs.ExchangeCriterion
import Vestibule.Proofs.KeyStream
import Vestibule.Proofs.PasswordCheck
import Vestibule.Proofs.RegisteredPassword
import Vestibule.Proofs.IdText
import Vestibule.Proofs.JsonText
import Vestibule.Proofs.AccessToken
import Vestibule.Proofs.TokenAcceptance
import Vestibule.Proofs.HashUpgrade
import Vestibule.Proofs.TokenText
import Vestibule.Proofs.IdGrammar
import Vestibule.Proofs.RefreshToken
import Vestibule.Proofs.Calendar
import Vestibule.Proofs.InstantText
import Vestibule.Proofs.FieldText
import Vestibule.Proofs.RecordText
import Vestibule.Proofs.RetryDelay
import Vestibule.Proofs.Retry
import Vestibule.Proofs.Conversation
import Vestibule.Proofs.CodeRedemption
import Vestibule.Proofs.ProviderFailure
import Vestibule.Proofs.BreachLookup
