import Accounts.Address
import Accounts.Connection
import Accounts.Json.Printer
import Accounts.Json.Reader
import Accounts.Proofs.Address.Dots
import Accounts.Proofs.Address.Host
import Accounts.Proofs.Connection.Conduct
import Accounts.Proofs.Connection.Outage
import Accounts.Proofs.Context.Contract
import Accounts.Proofs.Hash.Acceptance
import Accounts.Proofs.Json.RoundTrip
import Accounts.Proofs.Log.OneLine
import Accounts.Proofs.Log.WellFormed
import Accounts.Proofs.Service.Dates
import Accounts.Proofs.Service.Malformed
import Accounts.Proofs.Session.Agreement
import Accounts.Proofs.Session.Atomicity
import Accounts.Proofs.Session.Expiry
import Accounts.Proofs.Session.Genealogy
import Accounts.Proofs.Session.Independence
import Accounts.Proofs.Session.Race
import Accounts.Proofs.Session.Secrecy
import Accounts.Proofs.Store.Driver
import Accounts.Proofs.Store.LastWriter
import Accounts.Proofs.Store.Precedence
import Accounts.Session.Run
import Accounts.Proofs.Label.Range
import Accounts.Proofs.Address.Encoding
import Accounts.Proofs.Address.Forms
import Accounts.Proofs.Address.LetterCase
