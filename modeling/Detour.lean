import Detour.Main
import Detour.Proofs.Admin.Usable
import Detour.Proofs.Config.Isolation
import Detour.Proofs.Rule.ByteScan
import Detour.Proofs.Rule.ConditionForm
import Detour.Proofs.Rule.HeaderLayout
import Detour.Proofs.Rule.Method
import Detour.Proofs.Rule.Redirect
import Detour.Proofs.Server.Location
import Detour.Proofs.Server.Onward
import Detour.Proofs.Server.PathQuery
import Detour.Proofs.Server.Verbosity
import Detour.Proofs.Shutdown.Signals
import Detour.Proofs.Store.Gauge
import Detour.Proofs.Store.Loading
import Detour.Proofs.Store.Session
