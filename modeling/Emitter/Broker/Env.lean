import Emitter.Broker.Requests

/-!
# The connection, its collaborators, and what a handler does to them

A handler of `handlers.go` reads the connection (`Conn`), calls collaborators that live
outside the file, and returns a result. The model keeps the two kinds of call apart:

* what a collaborator *answers* (the channel parser, the authorizer, key decryption, the
  store's query, the trie's lookup, the JSON and binary codecs, the clock) is a field of
  `Env`, a plain function, so every theorem holds for every behaviour of it;
* what a handler *does* (subscribe, store, fan out, record stats, send a reply, write a
  link, and the calls to the authorizer and key provider it makes) is an `Effect`, and a
  handler returns the list of its effects in call order next to its result: it runs in
  the writer monad `Traced`.

No handler reads connection state it has written in the same call, so the connection is
updated by applying a call's effects after it (`Conn.apply`, used by the machine of
`Emitter/Broker/Machine.lean`).
-/

namespace Emitter

/-- The connection state the handlers read: its id, the username of its CONNECT packet,
and its link shortcuts. -/
structure Conn where
  id : Bytes
  username : Bytes
  links : Links
  deriving DecidableEq

/-- A subscriber returned by the trie: a client connection, or anything else (a cluster
peer), which the presence lookup skips. -/
inductive Subscriber
  | conn (c : Conn)
  | other (id : Bytes)
  deriving DecidableEq

/-- A call a handler makes into a collaborator, in the words of the source. -/
inductive Effect
  /-- `c.service.authorize(channel, permission)` -/
  | authorize (channel : Channel) (permission : UInt8)
  /-- `c.keys.CreateKey(key, channel, access, expires)` -/
  | createKey (key channel : Bytes) (access : UInt8) (expires : Time)
  /-- `c.keys.ExtendKey(key, channel, connID, access, expires)` -/
  | extendKey (key channel connID : Bytes) (access : UInt8) (expires : Time)
  /-- `c.links[name] = channel` -/
  | link (name channel : Bytes)
  /-- `c.Subscribe(ssid, channel)` -/
  | subscribe (ssid : Ssid) (channel : Bytes)
  /-- `c.Unsubscribe(ssid, channel)` -/
  | unsubscribe (ssid : Ssid) (channel : Bytes)
  /-- `c.service.storage.Query(ssid, t0, t1, limit)` -/
  | query (ssid : Ssid) (t0 t1 : Time) (limit : Int)
  /-- `c.Send(msg)` -/
  | send (msg : Message)
  /-- `c.service.storage.Store(msg)` -/
  | store (msg : Message)
  /-- `c.service.publish(msg, exclude)` -/
  | publish (msg : Message) (exclude : Bytes)
  /-- `c.track(contract)` -/
  | track (contract : Contract)
  /-- `contract.Stats().AddIngress(n)` -/
  | addIngress (contract : Contract) (n : Int)
  /-- `contract.Stats().AddEgress(n)` -/
  | addEgress (contract : Contract) (n : Int)
  /-- `c.sendResponse(topic, resp, requestID)` -/
  | sendResponse (topic : Bytes) (resp : Response) (requestID : UInt16)
  deriving DecidableEq

/-- The calls that change the connection's subscriptions, the message store, the fan-out
or the contract stats. -/
def Effect.mutates : Effect → Bool
  | .subscribe .. | .unsubscribe .. | .store .. | .publish .. | .track ..
  | .addIngress .. | .addEgress .. => true
  | _ => false

/-- The calls to the key provider that mint a key. -/
def Effect.isKeyCall : Effect → Bool
  | .createKey .. | .extendKey .. => true
  | _ => false

/-! ### The writer monad of a handler -/

/-- A handler's run: its result, and the effects it had, in order. -/
structure Traced (α : Type) where
  result : α
  effects : List Effect

instance : Monad Traced where
  pure a := ⟨a, []⟩
  bind x f := ⟨(f x.result).result, x.effects ++ (f x.result).effects⟩

/-- Have one effect. -/
def emit (e : Effect) : Traced Unit :=
  ⟨(), [e]⟩

namespace Traced

variable {α β : Type}

@[simp] theorem result_pure (a : α) : (pure a : Traced α).result = a := rfl

@[simp] theorem effects_pure (a : α) : (pure a : Traced α).effects = [] := rfl

@[simp] theorem result_bind (x : Traced α) (f : α → Traced β) :
    (x >>= f).result = (f x.result).result := rfl

@[simp] theorem effects_bind (x : Traced α) (f : α → Traced β) :
    (x >>= f).effects = x.effects ++ (f x.result).effects := rfl

@[simp] theorem effects_emit (e : Effect) : (emit e).effects = [e] := rfl

@[simp] theorem pure_eq (a : α) : (pure a : Traced α) = ⟨a, []⟩ := rfl

@[simp] theorem emit_bind (e : Effect) (f : Unit → Traced β) :
    emit e >>= f = ⟨(f ()).result, e :: (f ()).effects⟩ := rfl

@[simp] theorem bind_assoc {γ : Type} (x : Traced α) (f : α → Traced β) (g : β → Traced γ) :
    x >>= f >>= g = x >>= fun a => f a >>= g := by
  show (⟨_, x.effects ++ (f x.result).effects ++ _⟩ : Traced γ) = ⟨_, x.effects ++ (_ ++ _)⟩
  simp

theorem bind_eq (x : Traced α) (f : α → Traced β) :
    x >>= f = ⟨(f x.result).result, x.effects ++ (f x.result).effects⟩ := rfl

@[simp] theorem mk_bind (a : α) (es : List Effect) (f : α → Traced β) :
    (⟨a, es⟩ : Traced α) >>= f = ⟨(f a).result, es ++ (f a).effects⟩ := rfl

@[simp] theorem forM_emit (l : List α) (f : α → Effect) :
    (l.forM fun a => emit (f a)) = ⟨(), l.map f⟩ := by
  induction l with
  | nil => rfl
  | cons a l ih => simp [List.forM_cons, ih]

end Traced

/-! ### The collaborators -/

/-- Everything a handler call asks of the world outside `handlers.go`, as functions of
their arguments: the `security` and `message` packages, the service (authorizer, contract
cache, store, fan-out, trie, cluster survey), the key provider, the JSON and binary codecs,
and the clock. A decoder takes the value it decodes into, whose fields a body may leave
unset. -/
structure Env where
  flags : Flags
  retainedTTL : UInt32
  parseChannel : Bytes → Channel
  makeChannel : Bytes → Bytes → Option Channel
  channelString : Channel → Bytes
  safeString : Channel → Bytes
  ttl : Channel → Option Int
  last : Channel → Option Int
  window : Channel → Time × Time
  exclude : Channel → Bool
  newSsidForPresence : Ssid → Ssid
  authorize : Channel → UInt8 → Option (Contract × Key)
  decryptKey : Bytes → Option Key
  createKey : Bytes → Bytes → UInt8 → Time → Except Error Bytes
  extendKey : Bytes → Bytes → Bytes → UInt8 → Time → Except Error Channel
  contractsGet : UInt32 → Option Contract
  validate : Contract → Key → Bool
  query : Ssid → Time → Time → Int → Except Error (List Message)
  publish : Message → Bytes → Int
  lookup : Ssid → List Subscriber
  survey : Bytes → Bytes → Option (List Bytes)
  decodeKeyGen : Bytes → KeyGenRequest → Option KeyGenRequest
  decodeLink : Bytes → LinkRequest → Option LinkRequest
  decodePresence : Bytes → PresenceRequest → Option PresenceRequest
  marshalSsid : Ssid → Option Bytes
  unmarshalSsid : Bytes → Option Ssid
  marshalPresence : List PresenceInfo → Option Bytes
  unmarshalPresence : Bytes → Option (List PresenceInfo)
  now : Time

/-- The environment in which every collaborator refuses or answers nothing: no channel
parses, no key decrypts, nothing is authorized or found; the flags are distinct single
bits. Concrete runs start from it and change what they need. -/
def Env.refusing : Env where
  flags := ⟨0, 1, 2, 4, 8, 16, 32, 64, 128, 254⟩
  retainedTTL := 0
  parseChannel _ := ⟨[], [], [], [], .invalid⟩
  makeChannel _ _ := none
  channelString ch := ch.channel
  safeString ch := ch.channel
  ttl _ := none
  last _ := none
  window _ := (0, 0)
  exclude _ := false
  newSsidForPresence ssid := 0 :: ssid
  authorize _ _ := none
  decryptKey _ := none
  createKey _ _ _ _ := .error .unauthorized
  extendKey _ _ _ _ _ := .error .unauthorized
  contractsGet _ := none
  validate _ _ := false
  query _ _ _ _ := .ok []
  publish _ _ := 0
  lookup _ := []
  survey _ _ := none
  decodeKeyGen _ _ := none
  decodeLink _ _ := none
  decodePresence _ _ := none
  marshalSsid _ := none
  unmarshalSsid _ := none
  marshalPresence _ := none
  unmarshalPresence _ := none
  now := 0

/-! ### Applying effects to the connection -/

/-- The connection after one effect: only a link write changes it. -/
def Conn.apply (c : Conn) : Effect → Conn
  | .link name channel => { c with links := c.links.insert name channel }
  | _ => c

/-- The link write an effect is, if it is one. -/
def Effect.linkWrite : Effect → Option (Bytes × Bytes)
  | .link name channel => some (name, channel)
  | _ => none

/-- Write links into a map, in order. -/
def Links.writeAll (links : Links) (writes : List (Bytes × Bytes)) : Links :=
  writes.foldl (fun m w => m.insert w.1 w.2) links

/-- Applying effects writes their links, in order, and changes nothing else. -/
theorem Conn.foldl_apply (c : Conn) (l : List Effect) :
    l.foldl Conn.apply c = { c with links := c.links.writeAll (l.filterMap Effect.linkWrite) } := by
  induction l generalizing c with
  | nil => rfl
  | cons e l ih => cases e <;> simp [ih, Conn.apply, Effect.linkWrite, Links.writeAll]

end Emitter
