import ClassDiagram.Main
import ClassDiagram.Proofs.Drawing.Diagram
import ClassDiagram.Proofs.Ignoring.Deletion
import ClassDiagram.Proofs.Ignoring.Position
import ClassDiagram.Proofs.Scan.Occurrence
import ClassDiagram.Proofs.Scan.EndPoints
import ClassDiagram.Proofs.Scan.Headings
import ClassDiagram.Proofs.Drawing.Writer
import ClassDiagram.Proofs.Ignoring.Survivors
import ClassDiagram.Proofs.Scan.Concatenation
import ClassDiagram.Proofs.Drawing.Pieces
import ClassDiagram.Proofs.Drawing.Repair
import ClassDiagram.Proofs.Text.Trim
import ClassDiagram.Proofs.Text.Lines
import ClassDiagram.Proofs.Drawing.Layout
import ClassDiagram.Proofs.Ignoring.Payload
import ClassDiagram.Proofs.Drawing.Notation
import ClassDiagram.Proofs.Run.Delivery
import ClassDiagram.Proofs.Registry.History
import ClassDiagram.Proofs.Drawing.Growth
import ClassDiagram.Proofs.Text.Words
import ClassDiagram.Proofs.Member.Shown
import ClassDiagram.Proofs.Drawing.Sources
import ClassDiagram.Proofs.Drawing.Physical
import ClassDiagram.Proofs.Drawing.Reading
import ClassDiagram.Proofs.Ignoring.Kept
import ClassDiagram.Proofs.Ignoring.Composition
import ClassDiagram.Proofs.Drawing.Brackets
import ClassDiagram.Proofs.Text.Joined
import ClassDiagram.Proofs.Member.Reading
import ClassDiagram.Proofs.Member.Printed
import ClassDiagram.Proofs.Member.Injective
import ClassDiagram.Proofs.Scan.Spacing
import ClassDiagram.Proofs.Scan.Composition
import ClassDiagram.Proofs.Scan.Sections
import ClassDiagram.Proofs.Drawing.Exchange
