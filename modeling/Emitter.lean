import Emitter.Broker.Basic
import Emitter.Broker.Requests
import Emitter.Broker.Env
import Emitter.Broker.Rpc
import Emitter.Broker.Handlers
import Emitter.Broker.Machine
import Emitter.Properties.Errors
import Emitter.Properties.Links
import Emitter.Properties.RoundTrip
import Emitter.Properties.Publish
import Emitter.Properties.Requests
import Emitter.Properties.Authority
import Emitter.Properties.Presence
import Emitter.Properties.Accounting
import Emitter.Properties.Client
