import NestedStyles.Program.OfSource
import NestedStyles.Render.Registry
import NestedStyles.Tree.SourceText
import NestedStyles.Proofs.Render.PlacedBlock
import NestedStyles.Proofs.Render.FirstUnset
import NestedStyles.Proofs.Render.Rerendering
import NestedStyles.Proofs.Render.Outline
import NestedStyles.Proofs.Render.RegistryRun
import NestedStyles.Proofs.Source.Grammar
import NestedStyles.Proofs.Source.PlainPosition
import NestedStyles.Proofs.Source.Mirroring
import NestedStyles.Proofs.Source.Forms
import NestedStyles.Proofs.Source.ReadingBack
import NestedStyles.Proofs.Program.Site
import NestedStyles.Proofs.Program.Spelling
import NestedStyles.Proofs.Program.Readable
import NestedStyles.Proofs.Program.Compiling
import NestedStyles.Proofs.Program.FromSource
import NestedStyles.Proofs.Program.Unplaced
import NestedStyles.Proofs.Source.Layout
import NestedStyles.Proofs.Program.Layout
import NestedStyles.Proofs.Program.Concatenation
import NestedStyles.Proofs.Program.Expressible
import NestedStyles.Proofs.Program.Printing
import NestedStyles.Proofs.Source.Stuck
import NestedStyles.Proofs.Program.Regrouping
import NestedStyles.Proofs.Table.Lookup
import NestedStyles.Proofs.Render.RegistryHistory
import NestedStyles.Proofs.Render.UsedBindings
import NestedStyles.Proofs.Render.SingleLookup
import NestedStyles.Proofs.Render.BulkRendering
import NestedStyles.Proofs.Render.RuleText
import NestedStyles.Proofs.Render.FlatSheet
import NestedStyles.Proofs.Program.WellFormed
import NestedStyles.Proofs.Render.SelectorProduct
import NestedStyles.Proofs.Render.RuleCount
import NestedStyles.Proofs.Render.WalkFrame
import NestedStyles.Proofs.Program.FirstFault
import NestedStyles.Proofs.Source.Descent
import NestedStyles.Proofs.Table.OverrideLaws
import NestedStyles.Proofs.Tree.Preorder
import NestedStyles.Proofs.Table.WriteHistory
