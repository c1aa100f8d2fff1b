import RowStore.Http.Service
import RowStore.Proofs.Fields
import RowStore.Proofs.Keys
import RowStore.Proofs.Registration
import RowStore.Proofs.Binary64.Rounding
import RowStore.Proofs.Commands
import RowStore.Proofs.Database.FailedSaves
import RowStore.Proofs.Database.StaleIndexes
import RowStore.Proofs.Database.UniqueIndexes
import RowStore.Proofs.Database.Refusals
import RowStore.Proofs.Table.History
import RowStore.Proofs.Table.Updates
import RowStore.Proofs.Database.Tables
import RowStore.Proofs.Database.Joins
import RowStore.Proofs.Table.Acceptance
import RowStore.Proofs.Database.Acceptance
import RowStore.Proofs.Database.NormalForm
import RowStore.Proofs.Table.Policies
import RowStore.Proofs.Database.Policies
import RowStore.Proofs.Database.Representation
import RowStore.Proofs.Database.Failures
import RowStore.Proofs.Files.Sessions
import RowStore.Proofs.Store.Folder
import RowStore.Proofs.Files.Making
import RowStore.Proofs.Store.Fits
import RowStore.Proofs.Store.Saving
import RowStore.Proofs.Json.Basic
import RowStore.Proofs.Parts
import RowStore.Proofs.Store.Memory
import RowStore.Proofs.Store.Mirror
import RowStore.Proofs.Database.FileBacked
import RowStore.Proofs.Layout
import RowStore.Proofs.Definitions
import RowStore.Proofs.Statements
import RowStore.Proofs.Http.Batch
import RowStore.Proofs.Database.NormalForm
import RowStore.Proofs.Table.Updates
import RowStore.Proofs.Merging
import RowStore.Proofs.Database.JoinedRows
import RowStore.Proofs.Clauses
import RowStore.Proofs.Quotations
import RowStore.Proofs.Database.ReadingBack
import RowStore.Proofs.Database.Filtering
import RowStore.Proofs.Database.Repetition
import RowStore.Proofs.Database.Assignments
import RowStore.Proofs.Database.ShownIndexes
import RowStore.Proofs.PrintedColumns
import RowStore.Proofs.Seams
import RowStore.Proofs.Insertions
import RowStore.Proofs.Spelling
import RowStore.Proofs.Database.Independence
import RowStore.Proofs.Rebuilding
import RowStore.Proofs.Database.ListedTables
import RowStore.Proofs.Http.Paths
import RowStore.Proofs.Http.Inspection
