import Proc17.Core.Life.Atomicity
import Proc17.Core.Life.Grounding
import Proc17.Core.Life.Position
import Proc17.L1.Ring
import Proc17.Logic.Choose
import Proc17.Logic.RepoSelection
import Proc17.Logic.TraceValidator
import Proc17.Native.Allocator
import Proc17.Native.Arbitration
import Proc17.Native.Collection
import Proc17.Native.CreateRequest
import Proc17.Native.DigestAgreement
import Proc17.Native.Finalize
import Proc17.Native.LauncherStream
import Proc17.Native.StreamChunks
import Proc17.Runtime.Birth
import Proc17.Runtime.BudgetLaw
import Proc17.Runtime.CameraLaw
import Proc17.Runtime.Credit.Earned
import Proc17.Runtime.Epoch.Exactness
import Proc17.Runtime.Field.RelationLaw
import Proc17.Runtime.Lineage
import Proc17.Runtime.LineageLedger
import Proc17.Runtime.Qa.CandidateSafety
import Proc17.Runtime.Qa.OneShot
import Proc17.Runtime.Repository.Accounting
import Proc17.Runtime.Repository.Comparison
import Proc17.Runtime.Repository.Sources
import Proc17.Runtime.Retention
import Proc17.Runtime.Router.Prediction
import Proc17.Runtime.Router.Selection
import Proc17.Runtime.SessionCompost
