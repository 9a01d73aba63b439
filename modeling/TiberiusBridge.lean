import TiberiusBridge.Client.Cancellation
import TiberiusBridge.Client.StreamEquivalence
import TiberiusBridge.Client.PreparedSessions
import TiberiusBridge.Client.Recycling
import TiberiusBridge.Compat.LookAhead
import TiberiusBridge.Bulk.ArrowNull
import TiberiusBridge.Bulk.ArrowDecimal
import TiberiusBridge.Compat.Text
import TiberiusBridge.Compat.NullVariant
import TiberiusBridge.Convert.Clock
import TiberiusBridge.Convert.Decimals
import TiberiusBridge.PreparedTypes
import TiberiusBridge.RowLookup
import TiberiusBridge.Serde.RowMap
import TiberiusBridge.Serde.Integers
import TiberiusBridge.Compat.NativeForms
import TiberiusBridge.Compat.TypedNull
import TiberiusBridge.PreparedBinding
import TiberiusBridge.Convert.Vector
import TiberiusBridge.Bulk.Request
import TiberiusBridge.QuotedNames
import TiberiusBridge.Client.ExecuteCounts
import TiberiusBridge.Client.Panics
import TiberiusBridge.Client.RowStream
import TiberiusBridge.Convert.CivilAgreement
import TiberiusBridge.Pool.Checkouts
import TiberiusBridge.Client.QueryDelivery
import TiberiusBridge.Serde.Sequences
import TiberiusBridge.Serde.Cells
import TiberiusBridge.Bulk.ReadBack
import TiberiusBridge.Convert.Instants
import TiberiusBridge.RowCache
import TiberiusBridge.Client.Collectors
import TiberiusBridge.Lib.Settings
import TiberiusBridge.Config.Builder
import TiberiusBridge.Bulk.Builder
import TiberiusBridge.Bulk.Uploads
import TiberiusBridge.Client.Life
