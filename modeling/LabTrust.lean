import LabTrust.Authority
import LabTrust.Base64
import LabTrust.Bundle
import LabTrust.Bytes
import LabTrust.Calendar
import LabTrust.Certificate.AltName
import LabTrust.Certificate.Draft
import LabTrust.Certificate.Inspect
import LabTrust.Certificate.Issuance
import LabTrust.Certificate.Name
import LabTrust.Certificate.Reader
import LabTrust.Certificate.SigningRequest
import LabTrust.Certificate.Subject
import LabTrust.Certificate.Summary
import LabTrust.CommandLine.Diagnosis
import LabTrust.CommandLine.Display
import LabTrust.CommandLine.Grammar
import LabTrust.CommandLine.Invocation
import LabTrust.CommandLine.OutputFormat
import LabTrust.CommandLine.Paint
import LabTrust.CommandLine.Run
import LabTrust.Data
import LabTrust.Decimal.Shortest
import LabTrust.Der.Element
import LabTrust.Der.Time
import LabTrust.Disk
import LabTrust.Error
import LabTrust.Expiry
import LabTrust.Failure
import LabTrust.Hash
import LabTrust.Hash.Block
import LabTrust.Hash.Sha1
import LabTrust.Hash.Sha256
import LabTrust.Hash.Sha512
import LabTrust.Host
import LabTrust.Identity
import LabTrust.Instant
import LabTrust.Json.Reader
import LabTrust.Json.Writer
import LabTrust.Key.Curve
import LabTrust.Key.Edwards
import LabTrust.Key.Entropy
import LabTrust.Key.Generation
import LabTrust.Key.Modular
import LabTrust.Key.PublicKey
import LabTrust.Key.Rsa
import LabTrust.Key.Scheme
import LabTrust.Key.SecretKey
import LabTrust.Key.Suite
import LabTrust.KeySpec
import LabTrust.KindPolicy
import LabTrust.Lab
import LabTrust.Main
import LabTrust.Node.Config
import LabTrust.Node.Environment
import LabTrust.Node.Kind
import LabTrust.Ordered
import LabTrust.Path
import LabTrust.Pem
import LabTrust.Program
import LabTrust.Program.Pool
import LabTrust.Program.World
import LabTrust.Proofs.Calendar
import LabTrust.Proofs.Certificate.AltNames
import LabTrust.Proofs.Certificate.Answered
import LabTrust.Proofs.Certificate.Asked
import LabTrust.Proofs.Certificate.Chain
import LabTrust.Proofs.Certificate.Issuers
import LabTrust.Proofs.Certificate.Latest
import LabTrust.Proofs.Certificate.Leaf
import LabTrust.Proofs.Certificate.Made
import LabTrust.Proofs.Certificate.Names
import LabTrust.Proofs.Certificate.Orders
import LabTrust.Proofs.Certificate.Parts
import LabTrust.Proofs.Certificate.Printed
import LabTrust.Proofs.Certificate.Refusals
import LabTrust.Proofs.Certificate.Root
import LabTrust.Proofs.Certificate.Sizes
import LabTrust.Proofs.Certificate.Subjects
import LabTrust.Proofs.Certificate.Written
import LabTrust.Proofs.Der.Element
import LabTrust.Proofs.Der.Number
import LabTrust.Proofs.Der.Time
import LabTrust.Proofs.Disk.Agree
import LabTrust.Proofs.Disk.Changes
import LabTrust.Proofs.Disk.Place
import LabTrust.Proofs.Disk.Reach
import LabTrust.Proofs.Disk.Trunk
import LabTrust.Proofs.Except
import LabTrust.Proofs.Expiry
import LabTrust.Proofs.Expiry.Groups
import LabTrust.Proofs.Host
import LabTrust.Proofs.Json.Injection
import LabTrust.Proofs.Json.Lines
import LabTrust.Proofs.Json.Meaning
import LabTrust.Proofs.Json.Spelling
import LabTrust.Proofs.Json.Steps
import LabTrust.Proofs.Json.Strings
import LabTrust.Proofs.Json.Tail
import LabTrust.Proofs.Lab.Apart
import LabTrust.Proofs.Lab.Calls
import LabTrust.Proofs.Lab.Course
import LabTrust.Proofs.Lab.Inspection
import LabTrust.Proofs.Lab.Jobs
import LabTrust.Proofs.Lab.Overlap
import LabTrust.Proofs.Lab.Pace
import LabTrust.Proofs.Lab.Pairing
import LabTrust.Proofs.Lab.Provision
import LabTrust.Proofs.Lab.Roots
import LabTrust.Proofs.Lab.Session
import LabTrust.Proofs.Lab.Signing
import LabTrust.Proofs.Lab.Stability
import LabTrust.Proofs.Lab.Stages
import LabTrust.Proofs.Lab.Threads
import LabTrust.Proofs.Lab.Traces
import LabTrust.Proofs.Lab.Trust
import LabTrust.Proofs.Lab.Validity
import LabTrust.Proofs.Node.Environment
import LabTrust.Proofs.Node.Machine
import LabTrust.Proofs.Node.Merge
import LabTrust.Proofs.Ordered
import LabTrust.Proofs.Path
import LabTrust.Proofs.Pem
import LabTrust.Proofs.Program.Always
import LabTrust.Proofs.Program.Effects
import LabTrust.Proofs.Program.Sources
import LabTrust.Proofs.Program.Turns
import LabTrust.Proofs.Request.Control
import LabTrust.Proofs.Request.Names
import LabTrust.Proofs.Request.Pasted
import LabTrust.Proofs.Request.Plain
import LabTrust.Proofs.Settings
import LabTrust.Proofs.Store.Answers
import LabTrust.Proofs.Store.Names
import LabTrust.Proofs.Store.Table
import LabTrust.Proofs.Template.BuiltIn
import LabTrust.Proofs.Template.Places
import LabTrust.Proofs.Template.Rendered
import LabTrust.Proofs.Toml.Documents
import LabTrust.Proofs.Toml.Strings
import LabTrust.Proofs.Topology
import LabTrust.Request
import LabTrust.Settings
import LabTrust.Store.Files
import LabTrust.Store.Layout
import LabTrust.Template
import LabTrust.Template.Fill
import LabTrust.Template.Filter
import LabTrust.Template.Operator
import LabTrust.Template.Reader
import LabTrust.Template.Token
import LabTrust.Template.Tree
import LabTrust.Template.Value
import LabTrust.Text.Blank
import LabTrust.Text.CaseTable
import LabTrust.Text.CodePoints
import LabTrust.Text.LetterCase
import LabTrust.Text.Printable
import LabTrust.Text.Quoted
import LabTrust.Toml.Quoted
import LabTrust.Toml.Reader
import LabTrust.Toml.Scalar
import LabTrust.Toml.Table
import LabTrust.Toml.Writer
import LabTrust.Topology
