import OAuth.Authorization
import OAuth.Base64
import OAuth.BaseString
import OAuth.BigEndian
import OAuth.Consumer
import OAuth.Der
import OAuth.Digest.Hmac
import OAuth.Digest.Sha1
import OAuth.Domain
import OAuth.Domain.Punycode
import OAuth.Error
import OAuth.Form
import OAuth.Handshake
import OAuth.Params
import OAuth.Pem
import OAuth.Percent
import OAuth.Placement
import OAuth.Proofs.Address
import OAuth.Proofs.Authority
import OAuth.Proofs.Authorization
import OAuth.Proofs.Base64
import OAuth.Proofs.BaseString
import OAuth.Proofs.Carried
import OAuth.Proofs.Composition
import OAuth.Proofs.Contents
import OAuth.Proofs.Coverage
import OAuth.Proofs.Domain
import OAuth.Proofs.Exchange
import OAuth.Proofs.Fetch
import OAuth.Proofs.Form
import OAuth.Proofs.Frame
import OAuth.Proofs.Granting
import OAuth.Proofs.Headers
import OAuth.Proofs.Hierarchy
import OAuth.Proofs.Host
import OAuth.Proofs.Idempotence
import OAuth.Proofs.Independence
import OAuth.Proofs.Normalization
import OAuth.Proofs.Params
import OAuth.Proofs.Path
import OAuth.Proofs.Pem
import OAuth.Proofs.Percent
import OAuth.Proofs.Placement
import OAuth.Proofs.Presentation
import OAuth.Proofs.Provenance
import OAuth.Proofs.Punycode
import OAuth.Proofs.Query
import OAuth.Proofs.Realm
import OAuth.Proofs.Reference
import OAuth.Proofs.Repetition
import OAuth.Proofs.Replacement
import OAuth.Proofs.Reply
import OAuth.Proofs.Rereading
import OAuth.Proofs.Resigning
import OAuth.Proofs.Roundtrip
import OAuth.Proofs.Secret
import OAuth.Proofs.Session
import OAuth.Proofs.SignedParams
import OAuth.Proofs.Signing
import OAuth.Proofs.SigningKey
import OAuth.Proofs.Snapshot
import OAuth.Proofs.Splitting
import OAuth.Proofs.Text
import OAuth.Proofs.Url
import OAuth.Proofs.Utf8
import OAuth.Proofs.Verdict
import OAuth.Proofs.Verification
import OAuth.Proofs.Visible
import OAuth.Proofs.Wire
import OAuth.Proofs.Written
import OAuth.Protocol
import OAuth.Reference
import OAuth.Request
import OAuth.Request.Plain
import OAuth.Request.Wire
import OAuth.Response
import OAuth.Rsa
import OAuth.Rsa.Key
import OAuth.Signature
import OAuth.SigningFault
import OAuth.Snapshot
import OAuth.Text
import OAuth.Text.Blank
import OAuth.Text.Hex
import OAuth.Text.Order
import OAuth.Text.Utf8
import OAuth.Unicode.Allowed
import OAuth.Unicode.Combining
import OAuth.Unicode.Composite
import OAuth.Unicode.Direction
import OAuth.Unicode.Joining
import OAuth.Unicode.Mapping
import OAuth.Unicode.Mark
import OAuth.Unicode.Normal
import OAuth.Unicode.Table
import OAuth.Url
import OAuth.Url.Fault
import OAuth.Url.Host
import OAuth.Url.Ipv4
import OAuth.Url.Ipv6
import OAuth.Url.Parse
import OAuth.Url.Path
