import RowFilter.Main
import RowFilter.Settings.Encode
import RowFilter.Settings.Inline
import RowFilter.Proofs.CompiledSource
import RowFilter.Proofs.Likeness
import RowFilter.Proofs.Meaning
import RowFilter.Proofs.Rows
import RowFilter.Proofs.UserText
import RowFilter.Proofs.OfferedFields
import RowFilter.Proofs.DefaultTarget
import RowFilter.Proofs.Batch
import RowFilter.Proofs.DepthBound
import RowFilter.Proofs.Grammar.Nesting
import RowFilter.Proofs.NestingBound
import RowFilter.Proofs.Log
import RowFilter.Proofs.Vanishing
import RowFilter.Proofs.FinishedRows
import RowFilter.Proofs.Respelling
import RowFilter.Proofs.Extension
import RowFilter.Proofs.Decimal.Notation
import RowFilter.Proofs.SearchedText
import RowFilter.Proofs.SearchWords
import RowFilter.Proofs.FilterShape
import RowFilter.Proofs.NumberAtoms
import RowFilter.Proofs.Decimal.Value
import RowFilter.Proofs.DefinitionRoundTrip
import RowFilter.Proofs.TreeDepth
import RowFilter.Proofs.Literal
