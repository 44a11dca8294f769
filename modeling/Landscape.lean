import Landscape.Alias
import Landscape.Calendar
import Landscape.Catalog
import Landscape.CommandLine.Arguments
import Landscape.CommandLine.Run
import Landscape.Deflate.Basic
import Landscape.Deflate.Block
import Landscape.Deflate.Code
import Landscape.Deflate.Search
import Landscape.Deflate.Symbol
import Landscape.Deflate.Token
import Landscape.Diagram.Basic
import Landscape.Diagram.Fault
import Landscape.Diagram.Simple
import Landscape.Diagram.Uml
import Landscape.Document
import Landscape.Dot.Id
import Landscape.Dot.Text
import Landscape.Export
import Landscape.Fault
import Landscape.Graph
import Landscape.Host.Basic
import Landscape.Host.FileName
import Landscape.Host.FilePath
import Landscape.Host.FileSystem
import Landscape.Host.Note
import Landscape.Host.Outside
import Landscape.Host.TextFile
import Landscape.Main
import Landscape.Model.Basic
import Landscape.Number.Arithmetic
import Landscape.Number.Digit
import Landscape.Number.Double
import Landscape.Number.Numeral
import Landscape.Number.Residue
import Landscape.Number.Shortest
import Landscape.Number.Whole
import Landscape.PlantUml.Address
import Landscape.PlantUml.Text
import Landscape.Proofs.Render.Pragma
import Landscape.Proofs.Render.Stored
import Landscape.Proofs.Settings.Emptiness
import Landscape.Proofs.Text.Lossy
import Landscape.Render.Basic
import Landscape.Render.Graphviz
import Landscape.Render.Image
import Landscape.Render.Memory
import Landscape.Render.PlantUml
import Landscape.Session.Basic
import Landscape.Session.Change
import Landscape.Session.Field
import Landscape.Session.Make
import Landscape.Session.Draw
import Landscape.Session.Text
import Landscape.Settings.Basic
import Landscape.Settings.Load
import Landscape.Step
import Landscape.Studio
import Landscape.Table
import Landscape.Text.Blank
import Landscape.Text.LineBreak
import Landscape.Text.Literal
import Landscape.Text.Printable
import Landscape.Text.Utf8
import Landscape.Value.Basic
import Landscape.Value.Members
import Landscape.Value.Text
import Landscape.Yaml.Base64
import Landscape.Yaml.Cursor
import Landscape.Yaml.Document
import Landscape.Yaml.Fault
import Landscape.Yaml.Node
import Landscape.Yaml.Scalar
import Landscape.Yaml.ScalarValue
import Landscape.Yaml.Tag
import Landscape.Yaml.Token
import Landscape.Proofs.Loading.Building
import Landscape.Proofs.Loading.Parts
import Landscape.Proofs.Loading.Mirror
import Landscape.Proofs.Loading.Rows
import Landscape.Proofs.Loading.Loaded
import Landscape.Proofs.Diagram.Graph
import Landscape.Proofs.Loading.Closed
import Landscape.Proofs.Diagram.Dependencies
import Landscape.Proofs.Failing
import Landscape.Proofs.Abort
import Landscape.Proofs.Dot.Token
import Landscape.Proofs.Dot.Statement
import Landscape.Proofs.Text.Alias
import Landscape.Proofs.Text.Split
import Landscape.Proofs.Host.World
import Landscape.Proofs.Settings.Reading
import Landscape.Proofs.Host.Places
import Landscape.Proofs.Host.Names
import Landscape.Proofs.Host.Apart
import Landscape.Proofs.Host.Storing
import Landscape.Proofs.Render.Drawing
import Landscape.Proofs.Render.Outcome
import Landscape.Proofs.Render.Abort
import Landscape.Proofs.Export.Attempt
import Landscape.Proofs.Export.Batch
import Landscape.Proofs.Export.AllOrNothing
import Landscape.Proofs.Diagram.Edges
import Landscape.Proofs.Diagram.Assembly
import Landscape.Proofs.Diagram.Lines
import Landscape.Proofs.Loading.Mirrored
import Landscape.Proofs.Loading.Language
import Landscape.Proofs.Loading.Accepted
import Landscape.Proofs.Render.Course
import Landscape.Proofs.Render.Knowledge
import Landscape.Proofs.Export.Calls
import Landscape.Proofs.Deflate.Reader
import Landscape.Proofs.Deflate.Bits
import Landscape.Proofs.Deflate.Symbol
import Landscape.Proofs.Deflate.Search
import Landscape.Proofs.Deflate.Canonical
import Landscape.Proofs.Deflate.Tree
import Landscape.Proofs.Deflate.Lengths
import Landscape.Proofs.Deflate.Words
import Landscape.Proofs.Deflate.Runs
import Landscape.Proofs.Deflate.Header
import Landscape.Proofs.Deflate.Body
import Landscape.Proofs.Deflate.Inflate
import Landscape.Proofs.Text.Utf8
import Landscape.Proofs.PlantUml.Letters
import Landscape.Proofs.Export.Files
import Landscape.Proofs.Export.Images
import Landscape.Proofs.CommandLine.ExitCode
import Landscape.Proofs.Export.Records
import Landscape.Proofs.Host.Folder
import Landscape.Proofs.Export.Permutation
import Landscape.Proofs.Model.Providing
import Landscape.Proofs.Diagram.Order
import Landscape.Proofs.Model.Editing
import Landscape.Proofs.Host.Telling
import Landscape.Proofs.Export.Direct
import Landscape.Proofs.Diagram.Rearranging
import Landscape.Proofs.Dot.Quoted
import Landscape.Proofs.Diagram.Vertices
import Landscape.Proofs.Loading.Naming
import Landscape.Proofs.Value.Quantity
import Landscape.Proofs.Value.Sameness
import Landscape.Proofs.Loading.Teams
import Landscape.Proofs.Loading.Reporting
import Landscape.Proofs.Settings.Masking
import Landscape.Proofs.Settings.Reporting
