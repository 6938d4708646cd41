import Foreign.Layout.DescriptionText
import Foreign.Library.Sample
import Foreign.Proofs.Call.Aggregate
import Foreign.Proofs.Call.Argument
import Foreign.Proofs.Call.Callback
import Foreign.Proofs.Call.Interface
import Foreign.Proofs.Call.Registers
import Foreign.Proofs.Call.Result
import Foreign.Proofs.Call.Tally
import Foreign.Proofs.Layout.Cells
import Foreign.Proofs.Layout.Description
import Foreign.Proofs.Layout.Embedding
import Foreign.Proofs.Layout.Sequence
import Foreign.Proofs.Layout.Shape
import Foreign.Proofs.Layout.Wrapping
import Foreign.Proofs.Session.Attempt
import Foreign.Proofs.Library.Linker
import Foreign.Proofs.Session.Interfaces
import Foreign.Proofs.Settings.Override
import Foreign.Proofs.View.Confinement
import Foreign.Proofs.View.Extent
import Foreign.Proofs.View.Indexing
import Foreign.Proofs.View.Offset
import Foreign.Proofs.View.Ownership
import Foreign.Proofs.View.Scalars
import Foreign.Proofs.View.Tower
import Foreign.Proofs.View.Writing
import Foreign.Session.Run
import Foreign.Settings.Startup
import Foreign.Text.Hex
import Foreign.Proofs.Memory.Numbers
import Foreign.Proofs.View.Strategy
import Foreign.Proofs.Call.Frame
import Foreign.Proofs.Call.Widening
import Foreign.Proofs.Call.Influence
import Foreign.Proofs.Call.Published
import Foreign.Proofs.Layout.Refusal
import Foreign.Proofs.Layout.Append
import Foreign.Proofs.Text.Utf8
import Foreign.Proofs.View.Text
import Foreign.Proofs.View.Array
import Foreign.Proofs.Log.Directives
import Foreign.Proofs.Settings.Discovery
