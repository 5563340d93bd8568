import FlanForge.Routes.CreateBody
import FlanForge.Runs.Readable
import FlanForge.Runs.CloneNames
import FlanForge.Runs.Exclusion
import FlanForge.Runs.Evictions
import FlanForge.Runs.Limits
import FlanForge.Runs.PoolSize
import FlanForge.Runs.Jobs
import FlanForge.Runs.Drains
import FlanForge.Runs.DrainedClaims
import FlanForge.Runs.Uncontended
import FlanForge.Runs.Sizes
import FlanForge.Runs.Reuse
import FlanForge.Runs.Unmoved
import FlanForge.Reaper.Plan
import FlanForge.Tart.Plan
import FlanForge.Tart.Recovery
import FlanForge.Libvirt.Recovery
import FlanForge.Libvirt.Source
import FlanForge.Libvirt.Resolved
import FlanForge.Libvirt.Retire
import FlanForge.Libvirt.Evict
import FlanForge.Reaper.Pruned
import FlanForge.Job.Wait
import FlanForge.Auth.Signed
import FlanForge.Agent.Boundary
import FlanForge.Job.Registration
import FlanForge.Webui.LoginBound
import FlanForge.Core.Glob
import FlanForge.Orm.History
import FlanForge.Reaper.OptOut
import FlanForge.Manager.Naming
import FlanForge.Manager.Charges
import FlanForge.Runs.Surplus
import FlanForge.Runs.Quarantine
import FlanForge.Job.Supervisor
import FlanForge.Auth.KeysKeep
import FlanForge.Manager.Resident
import FlanForge.Webui.AccountsKeep
