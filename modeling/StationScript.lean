import StationScript.Host.Diagnostics
import StationScript.Main
import StationScript.Proofs.Dispatcher.Binding
import StationScript.Proofs.Dispatcher.Closing
import StationScript.Proofs.Dispatcher.Confinement
import StationScript.Proofs.Dispatcher.Order
import StationScript.Proofs.Dispatcher.Receipt
import StationScript.Proofs.Dispatcher.Refresh
import StationScript.Proofs.Dispatcher.Reloading
import StationScript.Proofs.Dispatcher.Settled
import StationScript.Proofs.Dispatcher.Silence
import StationScript.Proofs.Dispatcher.Stopped
import StationScript.Proofs.Host.Carrying
import StationScript.Proofs.Host.Refusal
import StationScript.Proofs.Host.Registry
import StationScript.Proofs.Plant.LastWriter
import StationScript.Proofs.Plant.Quiescence
import StationScript.Proofs.Simulation.Connections
import StationScript.Proofs.Simulation.LocalTime
import StationScript.Proofs.Simulation.Noninterference
import StationScript.Proofs.Simulation.Signals
import StationScript.Proofs.Dispatcher.Choosing
import StationScript.Proofs.StationFile.Faithful
import StationScript.Proofs.Dispatcher.Agreement
import StationScript.Proofs.Dispatcher.StepTimes
import StationScript.Proofs.Dispatcher.Forgetting
import StationScript.Proofs.Station.InsertionOrder
import StationScript.Proofs.Config.Layers
import StationScript.Proofs.Config.RoundTrip
import StationScript.Proofs.Lua.Runs
import StationScript.Proofs.Lua.Transparency
