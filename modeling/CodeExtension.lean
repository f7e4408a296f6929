import CodeExtension.Catalogue
import CodeExtension.Code
import CodeExtension.CodeState
import CodeExtension.CodeTable
import CodeExtension.Codec
import CodeExtension.Document
import CodeExtension.Document.Profile
import CodeExtension.Document.Table
import CodeExtension.Escape
import CodeExtension.Failure
import CodeExtension.Fault
import CodeExtension.Folder
import CodeExtension.GraphicSet
import CodeExtension.Json
import CodeExtension.Json.Reader
import CodeExtension.Json.Spelling
import CodeExtension.Json.Token
import CodeExtension.Json.Writer
import CodeExtension.Profile
import CodeExtension.Profile.Registered
import CodeExtension.Roman
import CodeExtension.Run
import CodeExtension.Scheme
import CodeExtension.Scheme.Reading
import CodeExtension.Scheme.Stream
import CodeExtension.Scheme.Writing
import CodeExtension.Settings
import CodeExtension.Standard
import CodeExtension.Standard.Gb2312
import CodeExtension.Standard.JisX0208
import CodeExtension.Standard.JisX0212
import CodeExtension.Standard.KsX1001
import CodeExtension.Standard.LatinGreek
import CodeExtension.Text.Extender
import CodeExtension.Text.Graphic
import CodeExtension.Text.Quoted
import CodeExtension.Proofs.EscapeVerdict
import CodeExtension.Proofs.Unit
import CodeExtension.Proofs.Chunking
import CodeExtension.Proofs.Recovery
import CodeExtension.Proofs.Lookup
import CodeExtension.Proofs.Coherence
import CodeExtension.Proofs.Lockstep
import CodeExtension.Proofs.Session
import CodeExtension.Proofs.RoundTrip
import CodeExtension.Proofs.Soundness
import CodeExtension.Proofs.Mappability
import CodeExtension.Proofs.Reachability
import CodeExtension.Proofs.Legibility
import CodeExtension.Proofs.Concatenation
import CodeExtension.Proofs.Truncation
import CodeExtension.Proofs.Locality
import CodeExtension.Proofs.Recoding
import CodeExtension.Proofs.Chart
import CodeExtension.Proofs.Published
import CodeExtension.Proofs.Cut
import CodeExtension.Proofs.Extension
import CodeExtension.Proofs.Lines
import CodeExtension.Proofs.Accounting
import CodeExtension.Proofs.Preference
import CodeExtension.Proofs.Widening
import CodeExtension.Proofs.Economy
import CodeExtension.Proofs.Grammar
import CodeExtension.Proofs.Editions
import CodeExtension.Proofs.Entries
