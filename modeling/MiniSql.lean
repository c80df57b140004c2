import MiniSql.Command.Print
import MiniSql.Main
import MiniSql.Proofs.AggregateMeaning
import MiniSql.Proofs.Attachment
import MiniSql.Proofs.CatalogInvariant
import MiniSql.Proofs.ChosenRows
import MiniSql.Proofs.ClauseGroups
import MiniSql.Proofs.ClausePlaces
import MiniSql.Proofs.ClauseReading
import MiniSql.Proofs.CommandOrder
import MiniSql.Proofs.Composition
import MiniSql.Proofs.ConditionReading
import MiniSql.Proofs.ConditionTruth
import MiniSql.Proofs.ExactSums
import MiniSql.Proofs.Except
import MiniSql.Proofs.Grammar
import MiniSql.Proofs.GrammarProgress
import MiniSql.Proofs.Independence
import MiniSql.Proofs.JoinKinds
import MiniSql.Proofs.JoinMeaning
import MiniSql.Proofs.KeyedSort
import MiniSql.Proofs.Lexemes
import MiniSql.Proofs.ListedValues
import MiniSql.Proofs.LosslessScan
import MiniSql.Proofs.NameResolution
import MiniSql.Proofs.ParserProgress
import MiniSql.Proofs.ParserRounds
import MiniSql.Proofs.PhraseReading
import MiniSql.Proofs.PlanRuns
import MiniSql.Proofs.PlanSafety
import MiniSql.Proofs.Printing
import MiniSql.Proofs.ProgramReading
import MiniSql.Proofs.QueryMeaning
import MiniSql.Proofs.Reading
import MiniSql.Proofs.RelationSafety
import MiniSql.Proofs.Reload
import MiniSql.Proofs.RenderedGrid
import MiniSql.Proofs.RepeatedEdits
import MiniSql.Proofs.Respelling
import MiniSql.Proofs.RoundTrip
import MiniSql.Proofs.RowDatabase
import MiniSql.Proofs.RowOrder
import MiniSql.Proofs.RowRefinement
import MiniSql.Proofs.RowTable
import MiniSql.Proofs.ScanSeams
import MiniSql.Proofs.ScriptAgreement
import MiniSql.Proofs.ScriptChunks
import MiniSql.Proofs.SelfJoin
import MiniSql.Proofs.StableSort
import MiniSql.Proofs.StatementEffect
import MiniSql.Proofs.TableContents
import MiniSql.Proofs.TableEdit
import MiniSql.Proofs.TableHistory
import MiniSql.Proofs.TableInvariant
import MiniSql.Proofs.TableRows
import MiniSql.Proofs.TextBuilt
import MiniSql.Proofs.TypeSoundness
import MiniSql.Proofs.TypedRelation
import MiniSql.Proofs.UpperCase
import MiniSql.Proofs.WellFormed
import MiniSql.Table
import MiniSql.Text.Upper
