import TrueFan.Policy.Saving
import TrueFan.Policy.Chatter
import TrueFan.Service.FullDuty
import TrueFan.Service.Failed
import TrueFan.Service.Blind
import TrueFan.Service.Hotter
import TrueFan.Service.Controls
import TrueFan.Service.Accepted
import TrueFan.Service.Log
import TrueFan.Service.Interleaving
import TrueFan.Ast2600.Sensors
import TrueFan.Ast2600.Device
import TrueFan.Hwmon.Maxima
import TrueFan.Hwmon.Channels
import TrueFan.Hwmon.Containment
import TrueFan.Agent.Settings
import TrueFan.Core.BadInput
import TrueFan.Core.SourcesListed
import TrueFan.Core.Deployment
import TrueFan.Core.Status
import TrueFan.Page.Actions
import TrueFan.Page.Shown
import TrueFan.Page.Drawn
import TrueFan.Ast2600.Regulated
import TrueFan.Ast2600.TrueNasSession
import TrueFan.Core.Hwmon
import TrueFan.Agent.Container
import TrueFan.Agent.Secrets
import TrueFan.Policy.Crash
import TrueFan.Policy.Survival
import TrueFan.Hwmon.InForce
