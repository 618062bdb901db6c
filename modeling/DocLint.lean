import DocLint.Main
import DocLint.Proofs.Configuration.Enclosing
import DocLint.Proofs.Configuration.Keyword
import DocLint.Proofs.Directive.Containers
import DocLint.Proofs.Directive.Rendering
import DocLint.Proofs.Files.Below
import DocLint.Proofs.Lowering
import DocLint.Proofs.Markdown.Coordinates
import DocLint.Proofs.PlainText.Markers
import DocLint.Proofs.PlainText.Outline
import DocLint.Proofs.Reach
import DocLint.Proofs.Report.Lines
import DocLint.Proofs.Run.Documents
import DocLint.Proofs.Run.StandardInput
import DocLint.Proofs.Scopes
import DocLint.Proofs.Serialization
import DocLint.Proofs.TableCells
import DocLint.Proofs.Traversal
import DocLint.Proofs.Files.Extensions
