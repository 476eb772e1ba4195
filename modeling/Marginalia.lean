import Marginalia.Files.Tree
import Marginalia.SyntaxNode
import Marginalia.Corpus.Listing
import Marginalia.Main
import Marginalia.Proofs.Render.Layout
import Marginalia.Proofs.Span.Selection
import Marginalia.Proofs.Document.Format
import Marginalia.Proofs.Document.Writing
import Marginalia.Proofs.Document.Showing
import Marginalia.Proofs.Render.Underline
import Marginalia.Proofs.Render.Gutter
import Marginalia.Proofs.Source.Offsets
import Marginalia.Proofs.Text.Decoding
import Marginalia.Proofs.Source.Stored
import Marginalia.Proofs.Render.Degradation
import Marginalia.Proofs.Text.Renditions
import Marginalia.Proofs.Render.Coloring
import Marginalia.Proofs.Formatting
import Marginalia.Proofs.Span.Searching
import Marginalia.Proofs.SyntaxNode
import Marginalia.Proofs.Span.Stretches
import Marginalia.Proofs.Span.Agreement
import Marginalia.Proofs.Json.Numerals
import Marginalia.Proofs.Render.Location
import Marginalia.Proofs.CommandLine.Escapes
import Marginalia.Proofs.Render.Pointers
import Marginalia.Proofs.Render.Reach
import Marginalia.Proofs.Render.Reordering
import Marginalia.Proofs.Span.Conversion
import Marginalia.Proofs.Options
import Marginalia.Proofs.SyntaxNode.Surrogates
import Marginalia.Proofs.Render.Resets
import Marginalia.Proofs.Render.Summary
import Marginalia.Proofs.Formatting.Handover
import Marginalia.Proofs.CommandLine.Collecting
import Marginalia.Proofs.Report
import Marginalia.Proofs.Render.Notices
import Marginalia.Proofs.CommandLine.Status
import Marginalia.Proofs.Corpus.Usable
import Marginalia.Proofs.Render.Emphasis
