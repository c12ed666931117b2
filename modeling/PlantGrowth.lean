import PlantGrowth.Scalar
import PlantGrowth.Space.Vector
import PlantGrowth.Space.Rotation
import PlantGrowth.Space.Bounds
import PlantGrowth.Space.Frame
import PlantGrowth.Space.Placement
import PlantGrowth.Binary32
import PlantGrowth.Decimal.Basic
import PlantGrowth.Decimal.Notation
import PlantGrowth.Decimal.Reading
import PlantGrowth.Text.Ranges
import PlantGrowth.Text.Blank
import PlantGrowth.Text.Printable
import PlantGrowth.Text.Identifier
import PlantGrowth.Text.Alphanumeric
import PlantGrowth.Text.Pattern
import PlantGrowth.Text.Quoted
import PlantGrowth.Text.Hexadecimal
import PlantGrowth.Grammar.Basic
import PlantGrowth.Grammar.RuleText
import PlantGrowth.Command
import PlantGrowth.Taper.Scan
import PlantGrowth.Taper.Run
import PlantGrowth.Chance.Source
import PlantGrowth.Chance.Keystream
import PlantGrowth.Leaf
import PlantGrowth.Turtle.State
import PlantGrowth.Turtle.Walk
import PlantGrowth.Geometry.Color
import PlantGrowth.Geometry.Gradient
import PlantGrowth.Geometry.Tube
import PlantGrowth.Geometry.Instances
import PlantGrowth.Document.Space
import PlantGrowth.Document.Name
import PlantGrowth.Document.Number
import PlantGrowth.Document.Quotation
import PlantGrowth.Document.Value
import PlantGrowth.Document.Record
import PlantGrowth.Document.Printer
import PlantGrowth.Config.Error
import PlantGrowth.Config.Basic
import PlantGrowth.Config.Presets
import PlantGrowth.Config.Printer
import PlantGrowth.Config.Reader
import PlantGrowth.Config.Store
import PlantGrowth.Config.Flags
import PlantGrowth.Generation.Request
import PlantGrowth.Geometry.Builder
import PlantGrowth.Generation.Output
import PlantGrowth.Generation.Generator
import PlantGrowth.Camera
import PlantGrowth.Log.Line
import PlantGrowth.Log.Directive
import PlantGrowth.Log.Filter
import PlantGrowth.Session.Report
import PlantGrowth.Session.Run
import PlantGrowth.Main
import PlantGrowth.Proofs.Brackets
import PlantGrowth.Proofs.Course
import PlantGrowth.Proofs.BranchRestoration
import PlantGrowth.Proofs.SegmentTree
import PlantGrowth.Proofs.WalkSimulation
import PlantGrowth.Proofs.BuilderIndependence
import PlantGrowth.Proofs.CapRaising
import PlantGrowth.Proofs.CappedRuns
import PlantGrowth.Proofs.Scopes
import PlantGrowth.Proofs.TaperScan
import PlantGrowth.Proofs.TaperRuns
import PlantGrowth.Proofs.ExactArithmetic
import PlantGrowth.Proofs.TaperPolicy
import PlantGrowth.Proofs.BalancedWords
import PlantGrowth.Proofs.Insertion
import PlantGrowth.Proofs.Symbols
import PlantGrowth.Proofs.Meaning
import PlantGrowth.Proofs.SideBranches
import PlantGrowth.Proofs.BuilderInvariant
import PlantGrowth.Proofs.TubeRings
import PlantGrowth.Proofs.TubeEdges
import PlantGrowth.Proofs.CappedGrowth
import PlantGrowth.Proofs.PlainText
import PlantGrowth.Proofs.RuleFormat
import PlantGrowth.Proofs.OutputConsistency
import PlantGrowth.Proofs.CapOvershoot
import PlantGrowth.Proofs.TubeGroves
import PlantGrowth.Proofs.TubeIndices
import PlantGrowth.Proofs.Rescanning
import PlantGrowth.Proofs.StackDepth
import PlantGrowth.Proofs.BalancedGrammars
import PlantGrowth.Proofs.Extents
import PlantGrowth.Proofs.RigidRotations
import PlantGrowth.Proofs.RingFrames
import PlantGrowth.Proofs.Retouching
import PlantGrowth.Proofs.Sharing
import PlantGrowth.Proofs.Startup
import PlantGrowth.Proofs.DecimalRounding
import PlantGrowth.Proofs.ValueText
import PlantGrowth.Proofs.NumberLayout
import PlantGrowth.Proofs.NumberText
import PlantGrowth.Proofs.QuotedText
import PlantGrowth.Proofs.RecordText
import PlantGrowth.Proofs.ConfigText
import PlantGrowth.Proofs.ConfigStore
import PlantGrowth.Proofs.ParallelWalks
import PlantGrowth.Proofs.SampleOrder
import PlantGrowth.Proofs.TipLeaves
import PlantGrowth.Proofs.ZeroVariance
import PlantGrowth.Proofs.OpenBranches
import PlantGrowth.Proofs.ConfigLayers
import PlantGrowth.Proofs.HexColors
import PlantGrowth.Proofs.RigidWalks
import PlantGrowth.Proofs.ScopeEnds
import PlantGrowth.Proofs.CameraFits
import PlantGrowth.Proofs.StraightPlants
import PlantGrowth.Proofs.TaperNotes
