import RangeSort.Job
import RangeSort.Partition.RandomMoves
import RangeSort.Schema.Logical
import RangeSort.Schema.RowCoercion
import RangeSort.Schema.Text
import RangeSort.Proofs.Value.Order
import RangeSort.Proofs.Partition.Routing
import RangeSort.Proofs.Partition.Grouping
import RangeSort.Proofs.Partition.GlobalSort
import RangeSort.Proofs.Except
import RangeSort.Proofs.Schema.Conformity
import RangeSort.Proofs.Schema.Columns
import RangeSort.Proofs.Table.Rows
import RangeSort.Proofs.Partition.Quantile
import RangeSort.Proofs.Table.FileStore
import RangeSort.Proofs.Job
import RangeSort.Proofs.Text.Utf8
import RangeSort.Proofs.Value.Token
import RangeSort.Proofs.Decimal.Integer
import RangeSort.Proofs.Decimal.Numeral
import RangeSort.Proofs.Binary.Rounding
import RangeSort.Proofs.Binary.Shortest
import RangeSort.Proofs.Binary.Layout
import RangeSort.Proofs.Value.Atom
import RangeSort.Proofs.Value.Elements
import RangeSort.Proofs.Value.Levels
import RangeSort.Proofs.Value.RoundTrip
import RangeSort.Proofs.Partition.Balance
import RangeSort.Proofs.Table.RoundTrip
import RangeSort.Proofs.Table.Foreign
import RangeSort.Proofs.Configuration
import RangeSort.Proofs.Value.Grammar
import RangeSort.Proofs.Value.Recognition
import RangeSort.Proofs.Value.Position
import RangeSort.Proofs.Value.Rereading
import RangeSort.Proofs.Value.Completion
import RangeSort.Proofs.SortKey.Storable
import RangeSort.Proofs.SortKey.Coerced
import RangeSort.Proofs.Partition.Rank
import RangeSort.Proofs.Partition.OrderStatistics
import RangeSort.Proofs.Partition.Sampling
import RangeSort.Proofs.Schema.Levels
import RangeSort.Proofs.Schema.Nesting
import RangeSort.Proofs.Schema.Edit
import RangeSort.Proofs.Schema.Catalog
import RangeSort.Proofs.SortKey.Lexicographic
import RangeSort.Proofs.Partition.Counters
import RangeSort.Proofs.SortKey.Projection
import RangeSort.Converter
import RangeSort.Proofs.Schema.Converter
import RangeSort.Proofs.Binary.Nearest
import RangeSort.Proofs.Decimal.Spelling
import RangeSort.Proofs.Coercion.Field
import RangeSort.Proofs.Coercion.WholeNumber
import RangeSort.Proofs.Coercion.Content
import RangeSort.Proofs.Coercion.Narrowing
import RangeSort.Proofs.Coercion.Padding
import RangeSort.Proofs.Schema.Declared
import RangeSort.Proofs.Schema.Shape
import RangeSort.Proofs.Schema.Equality
import RangeSort.Proofs.Table.KeyShape
import RangeSort.Proofs.Schema.Indistinguishable
