import StakkaWeb.Device
import StakkaWeb.Faulty
import StakkaWeb.Laws.LoadOutcome
import StakkaWeb.Laws.Simulator
import StakkaWeb.Laws.Command
import StakkaWeb.Laws.Interlock
import StakkaWeb.Laws.Credit
import StakkaWeb.Controller
import StakkaWeb.Laws.Controller
import StakkaWeb.Laws.Requests
import StakkaWeb.Laws.Endings
import StakkaWeb.Laws.OnTime
import StakkaWeb.Laws.Termination
import StakkaWeb.Laws.Handle
import StakkaWeb.Laws.Connection
import StakkaWeb.Laws.Readings
import StakkaWeb.Laws.Tracing
import StakkaWeb.Laws.Undecoded
import StakkaWeb.Laws.AuditTrail
import StakkaWeb.Laws.Arrival
import StakkaWeb.Laws.Landing
import StakkaWeb.Laws.Ledger
import StakkaWeb.Laws.Upkeep
import StakkaWeb.Simulator
import StakkaWeb.Laws.Visits
import StakkaWeb.Laws.Signature
import StakkaWeb.Laws.Mirror
import StakkaWeb.Laws.Taken
import StakkaWeb.Laws.Bench
import StakkaWeb.Laws.Browse
import StakkaWeb.Laws.Expiry
import StakkaWeb.Laws.Transport
import StakkaWeb.Laws.Hidapi
import StakkaWeb.Laws.Registry
import StakkaWeb.Laws.Listing
import StakkaWeb.Laws.Occupancy
import StakkaWeb.Laws.Routes
import StakkaWeb.Laws.Writes
import StakkaWeb.Laws.Covers
import StakkaWeb.Laws.Gallery
import StakkaWeb.Laws.Logbook
import StakkaWeb.Laws.Migration
import StakkaWeb.Laws.Greeting
import StakkaWeb.Laws.Diagnostics
import StakkaWeb.Laws.Ingest
import StakkaWeb.Laws.Budget
import StakkaWeb.Laws.Keeper
import StakkaWeb.Laws.HidTransport
import StakkaWeb.Laws.Refinement
import StakkaWeb.Laws.Waiting
import StakkaWeb.Laws.Orders
