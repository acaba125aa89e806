import QuotaGate.Store.Outage
import QuotaGate.Store.Slow
import QuotaGate.Store.Script
import QuotaGate.Store.Audit
import QuotaGate.Redis.Session
import QuotaGate.Redis.SortedSet
import QuotaGate.Launch
import QuotaGate.Uuid
import QuotaGate.Main
import QuotaGate.Text.Alphanumeric
import QuotaGate.Proofs.Naming
import QuotaGate.Proofs.Store.Purge
import QuotaGate.Proofs.Enforcer.Window
import QuotaGate.Proofs.Enforcer.Isolation
import QuotaGate.Proofs.Redis.Agreement
import QuotaGate.Proofs.Redis.Connection
import QuotaGate.Proofs.Service.Ping
import QuotaGate.Proofs.Service.Conservation
import QuotaGate.Proofs.Enforcer.Tightening
import QuotaGate.Proofs.Service.Channels
import QuotaGate.Proofs.Enforcer.Overflow
import QuotaGate.Proofs.Service.Setup
import QuotaGate.Proofs.Launch
import QuotaGate.Proofs.Store.Retention
import QuotaGate.Proofs.Enforcer.Burst
import QuotaGate.Proofs.Service.Renewal
import QuotaGate.Proofs.Service.Patience
import QuotaGate.Proofs.Enforcer.Delay
import QuotaGate.Proofs.Store.Holding
import QuotaGate.Proofs.Numeral
import QuotaGate.Proofs.Redis.Verdict
import QuotaGate.Proofs.Trimming
import QuotaGate.Proofs.Service.Charging
import QuotaGate.Proofs.Store.Representation
import QuotaGate.Proofs.Service.Advice
import QuotaGate.Proofs.Settings
import QuotaGate.Proofs.Net.Address
