import CertScope.Asn1.Encode
import CertScope.Asn1.Error
import CertScope.Asn1.Header
import CertScope.Asn1.Node
import CertScope.Asn1.Oid
import CertScope.Asn1.Primitive
import CertScope.Asn1.Strict
import CertScope.Asn1.Time
import CertScope.Bytes
import CertScope.Calendar
import CertScope.Certificate
import CertScope.Certificate.Address
import CertScope.Certificate.Decode
import CertScope.CommandLine
import CertScope.Crl.Check
import CertScope.Digest.Block
import CertScope.Digest.Sha1
import CertScope.Digest.Sha256
import CertScope.Digest.Sha512
import CertScope.Files
import CertScope.Http
import CertScope.Idna.Domain
import CertScope.Idna.Label
import CertScope.Idna.Mapping
import CertScope.Idna.Property
import CertScope.Idna.Punycode
import CertScope.Inspection
import CertScope.Inspection.Json
import CertScope.Inspection.Report
import CertScope.Json.Value
import CertScope.Main
import CertScope.Ocsp.Check
import CertScope.Ocsp.Error
import CertScope.Ocsp.Request
import CertScope.Ocsp.Response
import CertScope.Ocsp.Verify
import CertScope.Pem
import CertScope.Pem.Bundle
import CertScope.Program
import CertScope.Proofs.Asn1.Encoding
import CertScope.Proofs.Asn1.Front
import CertScope.Proofs.Asn1.Moment
import CertScope.Proofs.Asn1.Strict
import CertScope.Proofs.Asn1.Tree
import CertScope.Proofs.Bytes
import CertScope.Proofs.Calendar
import CertScope.Proofs.Certificate.Whole
import CertScope.Proofs.Crl.Check
import CertScope.Proofs.Crl.Encoding
import CertScope.Proofs.Crl.Permanence
import CertScope.Proofs.Crl.Published
import CertScope.Proofs.Crl.Walk
import CertScope.Proofs.Interruption
import CertScope.Proofs.Ocsp.Acceptance
import CertScope.Proofs.Ocsp.Check
import CertScope.Proofs.Ocsp.Decoding
import CertScope.Proofs.Ocsp.Encoding
import CertScope.Proofs.Ocsp.Request
import CertScope.Proofs.Ocsp.Response
import CertScope.Proofs.Outcome
import CertScope.Proofs.Schedule.Cancellation
import CertScope.Proofs.Schedule.Dialogue
import CertScope.Proofs.Schedule.Independence
import CertScope.Proofs.Schedule.Interleaving
import CertScope.Proofs.Schedule.Task
import CertScope.Proofs.Transport
import CertScope.Proofs.Trust.Certificate
import CertScope.Proofs.Trust.Extensions
import CertScope.Proofs.Trust.Reading
import CertScope.Proofs.Trust.Search
import CertScope.Proofs.Trust.Time
import CertScope.Proofs.Trust.Usage
import CertScope.Proofs.Trust.Verify
import CertScope.Proofs.X509.Encoding
import CertScope.Proofs.X509.Reading
import CertScope.Report
import CertScope.Report.Terminal
import CertScope.Settings
import CertScope.Signature.Ecdsa
import CertScope.Signature.Ed25519
import CertScope.Signature.Hash
import CertScope.Signature.Modular
import CertScope.Signature.Rsa
import CertScope.Signature.Scheme
import CertScope.Status
import CertScope.Text.Base64
import CertScope.Text.Blank
import CertScope.Text.CharTable
import CertScope.Text.Composition
import CertScope.Text.Normal
import CertScope.Text.Upper
import CertScope.Text.Utf8
import CertScope.Toml.Document
import CertScope.Toml.Node
import CertScope.Toml.Number
import CertScope.Toml.Reader
import CertScope.Toml.Text
import CertScope.Transport
import CertScope.Trust.Error
import CertScope.Trust.HostName
import CertScope.Trust.NameConstraint
import CertScope.Trust.PathCertificate
import CertScope.Trust.Reading
import CertScope.Trust.RootProgram
import CertScope.Trust.RootStore
import CertScope.Trust.Search
import CertScope.Trust.SystemRoots
import CertScope.Trust.Verify
import CertScope.Url
import CertScope.Url.Error
import CertScope.Url.Host
import CertScope.Url.Percent
import CertScope.X509.Extension
import CertScope.X509.Fault
import CertScope.X509.Name
import CertScope.X509.RevocationList
import CertScope.X509.SignedCertificate
import CertScope.X509.Verification
import CertScope.Proofs.Pem.Marker
import CertScope.Proofs.SerialNumber
import CertScope.Proofs.Text.Ascii
import CertScope.Proofs.Pem.Frame
import CertScope.Proofs.Pem.Layout
import CertScope.Proofs.Text.Base64
import CertScope.Proofs.Pem.Written
import CertScope.Proofs.Pem.Neighbour
import CertScope.Proofs.Pem.Readers
import CertScope.Proofs.Text.Row
import CertScope.Proofs.Report.Inspection
import CertScope.Proofs.Settings
import CertScope.Proofs.Ocsp.Issuer
import CertScope.Proofs.Program
import CertScope.Proofs.Json.Reader
import CertScope.Proofs.Inspection.Json
import CertScope.Proofs.Trust.Candidates
import CertScope.Proofs.Asn1.Arcs
import CertScope.Proofs.X509.Endpoints
import CertScope.Proofs.X509.Certificate
import CertScope.Proofs.Certificate.Endpoints
import CertScope.Proofs.Ocsp.SignedPart
import CertScope.Proofs.Report.Highlight
import CertScope.Proofs.Report.Outcome
import CertScope.Proofs.Report.Terminal
import CertScope.Proofs.Ocsp.Embedded
import CertScope.Proofs.Pem.Range
import CertScope.Proofs.Inspection.Warning
