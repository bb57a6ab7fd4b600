import Tilewright.Catalogue.Writer
import Tilewright.CommandLine.Spelling
import Tilewright.Config.Writer
import Tilewright.Main
import Tilewright.Substitution.Simultaneous
import Tilewright.Proofs.Occurrence
import Tilewright.Proofs.Simultaneity
import Tilewright.Proofs.Hygiene
import Tilewright.Proofs.Marks
import Tilewright.Proofs.BareMarks
import Tilewright.Proofs.Lines
import Tilewright.Proofs.Framing
import Tilewright.Proofs.Writing
import Tilewright.Proofs.RoundTrip
import Tilewright.Proofs.Replacement
import Tilewright.Proofs.Obstacles
import Tilewright.Proofs.AllOrNothing
import Tilewright.Proofs.Columns
import Tilewright.Proofs.InOrder
import Tilewright.Proofs.Influence
import Tilewright.Proofs.Repetition
import Tilewright.Proofs.Locality
import Tilewright.Proofs.Pieces
import Tilewright.Proofs.Leftmost
import Tilewright.Proofs.Remnants
import Tilewright.Proofs.Numerals
import Tilewright.Proofs.Rows
import Tilewright.Proofs.Verbosity
import Tilewright.Proofs.Endings
import Tilewright.Proofs.WrittenNumbers
import Tilewright.Proofs.LineEnds
import Tilewright.Proofs.MergedConfig
import Tilewright.Proofs.OmittedFiles
import Tilewright.Proofs.OptionOrder
import Tilewright.Proofs.Unused
import Tilewright.Proofs.LastWrite
import Tilewright.Proofs.ConfigPieces
import Tilewright.Proofs.ConfigRecords
import Tilewright.Proofs.FieldByField
import Tilewright.Proofs.WrittenConfig
import Tilewright.Proofs.Account
