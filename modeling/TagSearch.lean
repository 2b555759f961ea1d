import TagSearch.Main
import TagSearch.ToolArguments
import TagSearch.Proofs.ConditionMeaning
import TagSearch.Proofs.CriteriaReading
import TagSearch.Proofs.CriteriaGates
import TagSearch.Proofs.PageCount
import TagSearch.Proofs.PageCountReach
import TagSearch.Proofs.SearchPaging
import TagSearch.Proofs.ItemPayload
import TagSearch.Proofs.PointCollection
import TagSearch.Proofs.StoreSimulation
import TagSearch.Proofs.PointIdentity
import TagSearch.Proofs.CatalogHistory
import TagSearch.Proofs.PagingUnderWrites
import TagSearch.Proofs.JsonScalars
import TagSearch.Proofs.JsonText
import TagSearch.Proofs.PredicateText
import TagSearch.Proofs.CompiledEquality
import TagSearch.Proofs.WarningPlaces
import TagSearch.Proofs.WarningMeaning
import TagSearch.Proofs.SearchFrontEnds
import TagSearch.Proofs.UniqueDescriptions
import TagSearch.Proofs.CommandVerdicts
import TagSearch.Proofs.WarningClauses
import TagSearch.Proofs.VerdictComposition
import TagSearch.Proofs.LoweredText
import TagSearch.Proofs.TitleFragments
import TagSearch.Proofs.TitleFilters
import TagSearch.Proofs.ItemsFileCommands
import TagSearch.Proofs.RenderedCriteria
import TagSearch.Proofs.LoweredTitles
import TagSearch.Proofs.EncodedText
import TagSearch.Proofs.ItemRecords
import TagSearch.Proofs.ItemsFileText
import TagSearch.Proofs.ResponseText
import TagSearch.Proofs.InvocationCounts
