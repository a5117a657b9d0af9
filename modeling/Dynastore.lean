import Dynastore.Assets.Read
import Dynastore.Caching.Finality
import Dynastore.Caching.GroupInvalidation
import Dynastore.Caching.Presence
import Dynastore.Catalogs.Deletion
import Dynastore.Catalogs.HardDeletion
import Dynastore.Catalogs.Resolve
import Dynastore.Catalogs.Stuck
import Dynastore.Catalogs.Teardown
import Dynastore.Configs.Batch
import Dynastore.Configs.Fresh
import Dynastore.Configs.Frozen
import Dynastore.Configs.Returned
import Dynastore.Cql.Agreement
import Dynastore.Cql.Merge
import Dynastore.Iam.AccessScope
import Dynastore.Iam.CompiledRules
import Dynastore.Iam.Credit
import Dynastore.Iam.Decision
import Dynastore.Iam.GrantPredicates
import Dynastore.Iam.Isolation
import Dynastore.Iam.Quota
import Dynastore.Iam.Revocation
import Dynastore.Ingest.FanOut
import Dynastore.Ingest.Identity
import Dynastore.Ingest.InPlace
import Dynastore.Ingest.Readers
import Dynastore.Ingest.Refusal
import Dynastore.Items.Closure
import Dynastore.Items.Deletion
import Dynastore.Items.Envelope
import Dynastore.Items.Pages
import Dynastore.Items.ParamSuffix
import Dynastore.Items.Read
import Dynastore.Leadership.Tenure
import Dynastore.Tasks.Attempts
import Dynastore.Tasks.Listing
import Dynastore.Tasks.Refused
import Dynastore.Tiles.Archive
import Dynastore.Tools.BufferAggregator
import Dynastore.Workclass.Convergence
import Dynastore.Workclass.ExactlyOnce
import Dynastore.Workclass.Outcomes
import Dynastore.Workclass.Removal
import Dynastore.Workclass.Tier
