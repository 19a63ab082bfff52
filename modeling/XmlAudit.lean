import XmlAudit.Main
import XmlAudit.Schematron.Firing
import XmlAudit.XPath.Query
import XmlAudit.Xml.Namespaces
import XmlAudit.Proofs.Engine.Consistency
import XmlAudit.Proofs.Engine.Phases
import XmlAudit.Proofs.Location.Lookup
import XmlAudit.Proofs.Schematron.Items
import XmlAudit.Proofs.Schematron.Seen
import XmlAudit.Proofs.XPath.Faults
import XmlAudit.Proofs.XPath.Reading
import XmlAudit.Proofs.Xml.Numbering
import XmlAudit.Proofs.Xml.Rejection
import XmlAudit.Proofs.Schematron.Inclusion
import XmlAudit.Proofs.Text.Utf8
import XmlAudit.Proofs.Xml.Escaping
import XmlAudit.Proofs.Xml.Printing
import XmlAudit.Proofs.Xml.ReadBack
import XmlAudit.Proofs.Report.ReadBack
import XmlAudit.Proofs.Location.Wildcards
import XmlAudit.Proofs.XPath.Finding
import XmlAudit.Proofs.Location.Lines
import XmlAudit.Proofs.Files.Growth
import XmlAudit.Proofs.Files.Paths
import XmlAudit.Proofs.Remote.CachePath
import XmlAudit.Proofs.Remote.WriteOnce
import XmlAudit.Proofs.Remote.Contents
import XmlAudit.Proofs.Remote.Discovery
import XmlAudit.Proofs.Engine.Refusal
import XmlAudit.Proofs.XPath.Navigation
import XmlAudit.Proofs.Xml.Scoping
import XmlAudit.Proofs.XPath.Anchoring
import XmlAudit.Proofs.Schematron.Extension
import XmlAudit.Proofs.Report.Aggregation
import XmlAudit.Proofs.Remote.Containment
import XmlAudit.Proofs.Schematron.Isolation
import XmlAudit.Proofs.XPath.Comparing
import XmlAudit.Proofs.XPath.Descending
import XmlAudit.Proofs.Xml.Entities
import XmlAudit.Proofs.Remote.Mirroring
import XmlAudit.Proofs.Location.Presentation
import XmlAudit.Proofs.Xml.SourceLines
import XmlAudit.Proofs.Location.Distinctness
import XmlAudit.Proofs.Report.Record
import XmlAudit.Proofs.Xml.Namespaces
import XmlAudit.Proofs.Artifact.Precedence
import XmlAudit.Proofs.Artifact.Lookup
import XmlAudit.Proofs.Remote.Retrying
import XmlAudit.Proofs.Program.Delivery
