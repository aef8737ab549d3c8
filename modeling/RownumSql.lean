import RownumSql.Main
import RownumSql.Client.Scripted.Document
import RownumSql.Document.Json.Reader
import RownumSql.Number.Reader
import RownumSql.Session
import RownumSql.Proofs.PageWrapper
import RownumSql.Proofs.ScalarsHidden
import RownumSql.Proofs.RowNumbers
import RownumSql.Proofs.FetchedRows
import RownumSql.Proofs.UnionReading
import RownumSql.Proofs.AliasLifetime
import RownumSql.Proofs.CursorModes
import RownumSql.Proofs.InsertedRows
import RownumSql.Proofs.DualSelections
import RownumSql.Proofs.ForeignKeyRows
import RownumSql.Proofs.DefinitionNames
import RownumSql.Proofs.QueryDocuments
import RownumSql.Proofs.SharedBindings
import RownumSql.Proofs.ReflectedTables
import RownumSql.Proofs.BalancedStatements
import RownumSql.Proofs.WindowRows
import RownumSql.Proofs.ProjectedNames
import RownumSql.Proofs.RespelledRows
import RownumSql.Proofs.RowNumberField
import RownumSql.Proofs.KeyRows
import RownumSql.Proofs.UnnamedBranches
import RownumSql.Proofs.InsertionErrors
import RownumSql.Proofs.FromBetweenSpaces
import RownumSql.Proofs.NativeTypes
import RownumSql.Proofs.CompiledFroms
import RownumSql.Proofs.NameLengths
import RownumSql.Proofs.Literals
import RownumSql.Proofs.BindingHistory
import RownumSql.Proofs.CreatedTables
