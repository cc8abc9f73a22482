import EverestCore.Modbus.RegistryCorrect
import EverestCore.Modbus.CorrelationCorrect
import EverestCore.TinyModbus.Reply
import EverestCore.Goose.Ber
import EverestCore.Iec.Feed
import EverestCore.Iec.PlugEvents
import EverestCore.Evse.AllClear
import EverestCore.Charging.PowerSafety
import EverestCore.Charging.Sessions
import EverestCore.Charging.Cancel
import EverestCore.Charging.BcbToggles
import EverestCore.Charging.EnableDisable
import EverestCore.Slac.Disclosure
import EverestCore.Slac.Progress
import EverestCore.Energy.ActiveSlot
import EverestCore.Energy.MinimumOrNothing
import EverestCore.Energy.PriceMerge
import EverestCore.Evse.EnergyRequest
import EverestCore.V2G.ChargingProfile
import EverestCore.V2G.PhysicalValues
import EverestCore.V2G.IsoPower
import EverestCore.V2G.IsoAuthorization
import EverestCore.V2G.DinOrder
import EverestCore.V2G.Connections
import EverestCore.V2G.RandomData
import EverestCore.Yeti.PacketCheck
import EverestCore.Ocpp.StaleConditions
import EverestCore.Ocpp.StartUpOrder
import EverestCore.Ocpp.DeviceModelUnion
import EverestCore.LemDcbm.Billing
import EverestCore.DzgGsh01.FreshStart
import EverestCore.DzgGsh01.Interleaving
import EverestCore.Iskra.Completion
import EverestCore.Infy.SwitchedOff
import EverestCore.Infy.CurrentShare
import EverestCore.Infy.Errors
import EverestCore.Infy.ModeReports
import EverestCore.Infy.Polling
import EverestCore.Infy.SilentModules
import EverestCore.Auth.Agreement
import EverestCore.Auth.ReservedStatus
import EverestCore.Auth.TokenLifetime
import EverestCore.Auth.FreeEvse
import EverestCore.Auth.ReservationTimers
import EverestCore.Auth.ReservationCheck
import EverestCore.Auth.ConnectorStates
