/-
LamcoRdp/Transport/RdCleanPath.lean

Who gets in by the WebSocket: the RDCleanPath exchange and the listener around it.

The first binary message of a client must be an RDCleanPath request whose `proxy_auth`
the validator accepts; it is answered with the confirm of the X.224 request that it
carries, and the stream behind it is handed on.  `Admitted` says when that happens and
what is handed on, read off the messages alone (`acceptOne_eq_ok_iff`).

The listener answers its connections one after the other in a task of its own and queues
the answers; `accept` takes them from the queue whenever it is polled.  Whatever the order
of these steps, what it returns are the answers of the first connections, in their order
(`accept_run`).  A connection that neither sends nor closes has no answer, and none comes
after it.

The codec of the PDUs is a parameter, and errors are given by their texts.
-/
import LamcoRdp.Lib.Utf8
import LamcoRdp.Transport.Dispatcher
import LamcoRdp.Transport.PreFedStream

namespace LamcoRdp

open Runs AsyncIo

/-! ### Errors -/

/-- `anyhow::Error`: a message and what caused it. -/
structure AnyhowError where
  message : String
  causes : List String
  deriving DecidableEq, Repr

/-- An error without causes. -/
def anyhow (message : String) : AnyhowError := { message, causes := [] }

/-- `with_context`. -/
def AnyhowError.context (message : String) (e : AnyhowError) : AnyhowError :=
  { message, causes := e.message :: e.causes }

/-- `TransportError`, the kinds of the WebSocket path. -/
inductive TransportError
  | io (e : String)
  | config (e : String)
  | handshake (e : AnyhowError)
  deriving DecidableEq, Repr

/-! ### The validators -/

/-- `ProxyAuthRejected`. -/
structure ProxyAuthRejected where
  reason : String
  deriving DecidableEq, Repr

/-- Its `Display`. -/
def ProxyAuthRejected.display (r : ProxyAuthRejected) : String :=
  "proxy_auth rejected: " ++ r.reason

/-- `SharedSecretValidator`; the secret is not empty. -/
structure SharedSecretValidator where
  secret : List UInt8
  nonempty : secret ≠ []

/-- `SharedSecretValidator::new`. -/
def SharedSecretValidator.new (secret : List UInt8) : Option SharedSecretValidator :=
  if h : secret = [] then none else some ⟨secret, h⟩

/-- The implementations of `ProxyAuthValidator`. -/
inductive ProxyAuthValidator
  | denyAll
  | sharedSecret (v : SharedSecretValidator)
  | allowAllInsecure

/-- The comparison in constant time is a comparison. -/
def ProxyAuthValidator.validate (v : ProxyAuthValidator) (proxyAuth : List UInt8)
    (_destination : String) : Except ProxyAuthRejected Unit :=
  match v with
  | .denyAll => .error ⟨"no proxy_auth validator configured"⟩
  | .sharedSecret v =>
      if proxyAuth = v.secret then .ok () else .error ⟨"shared secret mismatch"⟩
  | .allowAllInsecure => .ok ()

/-- `ResolvedWebSocketTransport`, what the validator depends on. -/
structure ResolvedWebSocketTransport where
  proxyAuthSecretPath : Option String
  proxyAuthAllowInsecure : Bool
  deriving DecidableEq, Repr

/-- One newline at the end, `\n` or `\r\n`, is not part of the secret. -/
def trimNewline (secret : List UInt8) : List UInt8 :=
  let secret := if secret.getLast? = some 10 then secret.dropLast else secret
  if secret.getLast? = some 13 then secret.dropLast else secret

/-- The validator that `build_listeners` chooses; `read` reads a file. -/
def ResolvedWebSocketTransport.proxyAuth (cfg : ResolvedWebSocketTransport)
    (read : String → Except String (List UInt8)) : Except AnyhowError ProxyAuthValidator :=
  if cfg.proxyAuthAllowInsecure then .ok .allowAllInsecure
  else
    match cfg.proxyAuthSecretPath with
    | none => .ok .denyAll
    | some path =>
        match read path with
        | .error e => .error ((anyhow e).context ("reading proxy_auth secret from " ++ path))
        | .ok secret =>
            match SharedSecretValidator.new (trimNewline secret) with
            | none => .error (anyhow ("proxy_auth secret file " ++ path ++ " is empty"))
            | some v => .ok (.sharedSecret v)

/-- The configuration lets a client in that presents `token`. -/
def ResolvedWebSocketTransport.Admits (cfg : ResolvedWebSocketTransport)
    (read : String → Except String (List UInt8)) (token : List UInt8) : Prop :=
  cfg.proxyAuthAllowInsecure = true ∨
    token ≠ [] ∧ ∃ path secret, cfg.proxyAuthSecretPath = some path ∧ read path = .ok secret ∧
      token = trimNewline secret

/-- The validator accepts whom the configuration lets in: nobody if there is no secret. -/
theorem validate_proxyAuth_iff {cfg : ResolvedWebSocketTransport}
    {read : String → Except String (List UInt8)} {v : ProxyAuthValidator}
    (hv : cfg.proxyAuth read = .ok v) (token : List UInt8) (destination : String) :
    v.validate token destination = .ok () ↔ cfg.Admits read token := by
  unfold ResolvedWebSocketTransport.proxyAuth at hv
  unfold ResolvedWebSocketTransport.Admits
  -- the configuration may admit everything
  split_ifs at hv with hallow
  · obtain rfl := Except.ok.inj hv
    exact iff_of_true rfl (Or.inl hallow)
  rw [or_iff_right hallow]
  -- else it names the file of a secret, which must be there
  rcases hpath : cfg.proxyAuthSecretPath with - | path
  · rw [hpath] at hv
    obtain rfl := Except.ok.inj hv
    refine iff_of_false nofun ?_
    rintro ⟨-, path, secret, hnone, -⟩
    cases hnone
  · rcases hread : read path with e | secret
    · simp only [hpath, hread] at hv
      cases hv
    · simp only [hpath, hread, SharedSecretValidator.new] at hv
      -- and not empty
      split_ifs at hv with hempty
      obtain rfl := Except.ok.inj hv
      show (if token = trimNewline secret then _ else _) = _ ↔ _
      -- the validator compares the token with the trimmed secret
      constructor
      · intro h
        by_cases htoken : token = trimNewline secret
        · exact ⟨htoken ▸ hempty, path, secret, rfl, hread, htoken⟩
        · rw [if_neg htoken] at h
          cases h
      · rintro ⟨-, path', secret', hsome, hread', htoken⟩
        obtain rfl := Option.some.inj hsome
        obtain rfl := Except.ok.inj (hread.symm.trans hread')
        exact if_pos htoken

/-! ### The exchange -/

/-- `RDCleanPath`, what the exchange looks at. -/
inductive RdCleanPath
  | request (destination proxyAuth : String) (x224ConnectionRequest : List UInt8)
  | response
  | err
  deriving DecidableEq, Repr

/-- The codec of the PDUs. -/
structure RdCleanPathCodec (Pdu : Type) where
  fromDer : List UInt8 → Except String Pdu
  intoEnum : Pdu → Except String RdCleanPath
  newResponse : String → List UInt8 → List (List UInt8) → Except String Pdu
  toDer : Pdu → Except String (List UInt8)

/-- What a request PDU says, if the bytes are one. -/
def RdCleanPathCodec.decode {Pdu : Type} (codec : RdCleanPathCodec Pdu) (bytes : List UInt8) :
    Except AnyhowError RdCleanPath :=
  match codec.fromDer bytes with
  | .error e => .error ((anyhow e).context "decoding RDCleanPath request PDU")
  | .ok pdu =>
      match codec.intoEnum pdu with
      | .error e => .error ((anyhow e).context "interpreting RDCleanPath PDU")
      | .ok rdcleanpath => .ok rdcleanpath

/-- The bytes of the response. -/
def RdCleanPathCodec.encode {Pdu : Type} (codec : RdCleanPathCodec Pdu) (addr : String)
    (x224Confirm : List UInt8) (chain : List (List UInt8)) : Except AnyhowError (List UInt8) :=
  match codec.newResponse addr x224Confirm chain with
  | .error e => .error (anyhow ("building RDCleanPath response: " ++ e))
  | .ok response =>
      match codec.toDer response with
      | .error e => .error (anyhow ("encoding RDCleanPath response: " ++ e))
      | .ok der => .ok der

/-- The X.224 connection confirm: TPKT, the reference of the client, TLS selected. -/
def x224Confirm (dstRef₀ dstRef₁ : UInt8) : List UInt8 :=
  [3, 0, 0, 19] ++ [14, 0xD0, dstRef₀, dstRef₁, 0, 0, 0] ++ [0x02, 0, 8, 0, 1, 0, 0, 0]

/-- `synthesize_x224_confirm`. -/
def synthesizeX224Confirm (x224Request : List UInt8) : Except AnyhowError (List UInt8) :=
  if x224Request.length < 11 then
    .error (anyhow ("X.224 Request too short (" ++ toString x224Request.length ++ " bytes)"))
  else if x224Request.getD 0 0 ≠ 3 then
    .error (anyhow ("X.224 Request has invalid TPKT version: " ++ toString (x224Request.getD 0 0)))
  else .ok (x224Confirm (x224Request.getD 8 0) (x224Request.getD 9 0))

/-- `read_one_ws_binary_frame`: the first binary message and what comes after it; `none`
while it is waited for. -/
def readOneWsBinaryFrame : List PollNext → Option (Except AnyhowError (List UInt8 × List PollNext))
  | [] => none
  | .pending :: later => readOneWsBinaryFrame later
  | .ended :: _ => some (.error (anyhow "WS stream ended before binary frame"))
  | .error e :: _ => some (.error (anyhow ("WS error: " ++ e)))
  | .message (.binary bytes) :: later => some (.ok (bytes, later))
  | .message .close :: _ => some (.error (anyhow "WS closed before binary frame"))
  -- text, ping and pong are passed over
  | .message _ :: later => readOneWsBinaryFrame later

/-- The room to send is waited for. -/
def awaitReady : List PollReady → Except String (List PollReady)
  | [] => .ok []
  | .pending :: later => awaitReady later
  | .error e :: _ => .error e
  | .ready :: later => .ok later

/-- A flush is waited for: `none` while the other side does not take the bytes. -/
def awaitFlush : List PollReady → Option (Except String Unit)
  | [] => none
  | .pending :: later => awaitFlush later
  | .error e :: _ => some (.error e)
  | .ready :: _ => some (.ok ())

/-- `SinkExt::send`: room, the message, a flush.  Beside the outcome, what has been sent. -/
def WebSocketStream.send (s : WebSocketStream) (msg : Message) (flushes : List PollReady) :
    Option (Except String Unit) × WebSocketStream :=
  match awaitReady s.readiness with
  | .error e => (some (.error e), s)
  | .ok readiness =>
      match WebSocketStream.startSend { s with readiness } msg with
      | (some e, s) => (some (.error e.message), s)
      | (none, s) => (awaitFlush flushes, s)

/-- `WebSocketListenerImpl`, what its accept task is given. -/
structure WebSocketTask (Pdu : Type) where
  codec : RdCleanPathCodec Pdu
  serverCertChain : List (List UInt8)
  /-- the address, as text -/
  listenAddr : String
  validator : ProxyAuthValidator

namespace WebSocketTask

variable {Pdu : Type}

/-- What the exchange answers to a request, before anything is sent: the X.224 request and
the bytes of the response. -/
def respond (L : WebSocketTask Pdu) (bytes : List UInt8) :
    Except AnyhowError (List UInt8 × List UInt8) :=
  match L.codec.decode bytes with
  | .error e => .error e
  | .ok (.request destination proxyAuth x224Request) =>
      -- the token comes first: nothing is made of the X.224 request before it is accepted
      match L.validator.validate (Utf8.encode proxyAuth.toList) destination with
      | .error rejected => .error (anyhow rejected.display)
      | .ok () =>
          match synthesizeX224Confirm x224Request with
          | .error e => .error (e.context "synthesizing X.224 Connection Confirm")
          | .ok x224Confirm =>
              match L.codec.encode L.listenAddr x224Confirm L.serverCertChain with
              | .error e => .error e
              | .ok der => .ok (x224Request, der)
  | .ok _ => .error (anyhow "expected RDCleanPath Request, got Response or Err")

/-- `run_rdcleanpath_exchange`: its outcome, `none` while it waits, and the socket. -/
def runRdcleanpathExchange (L : WebSocketTask Pdu) (ws : WebSocketStream)
    (flushes : List PollReady) :
    Option (Except AnyhowError (List UInt8)) × WebSocketStream :=
  match readOneWsBinaryFrame ws.incoming with
  | none => (none, ws)
  | some (.error e) => (some (.error (e.context "reading RDCleanPath request frame")), ws)
  | some (.ok (bytes, incoming)) =>
      match L.respond bytes with
      | .error e => (some (.error e), { ws with incoming })
      | .ok (x224Request, der) =>
          match WebSocketStream.send { ws with incoming } (.binary der) flushes with
          | (none, ws) => (none, ws)
          | (some (.error e), ws) =>
              (some (.error ((anyhow e).context "sending RDCleanPath response frame")), ws)
          | (some (.ok ()), ws) => (some (.ok x224Request), ws)

end WebSocketTask

/-! ### A connection -/

/-- What the TCP listener comes up with, and how far it gets to a WebSocket. -/
inductive WsIncoming
  | acceptFailed (e : String)
  | tlsFailed (e : String)
  | wsFailed (e : String)
  | opened (peer : SocketAddr) (origin : Option String) (ws : WebSocketStream)
      (flushes : List PollReady)
  /-- the handshakes before the WebSocket wait for the client -/
  | silent
  deriving DecidableEq, Repr

/-- `AcceptorMode`. -/
inductive AcceptorMode
  | standard
  | preAuthenticated
  deriving DecidableEq, Repr

/-- `AcceptedConnection`. -/
structure AcceptedConnection where
  peer : PeerAddr
  stream : PreFedStream WsByteStream
  mode : AcceptorMode
  deriving DecidableEq, Repr

namespace WebSocketTask

variable {Pdu : Type}

/-- `accept_one`: `none` while it waits. -/
def acceptOne (L : WebSocketTask Pdu) :
    WsIncoming → Option (Except TransportError AcceptedConnection)
  | .acceptFailed e => some (.error (.io e))
  | .tlsFailed e => some (.error (.handshake (anyhow ("TLS accept failed: " ++ e))))
  | .wsFailed e => some (.error (.handshake (anyhow ("WS handshake failed: " ++ e))))
  -- the handshakes have no timeout, so the whole task waits
  | .silent => none
  | .opened peer origin ws flushes =>
      match L.runRdcleanpathExchange ws flushes with
      | (none, _) => none
      | (some (.error e), _) =>
          some (.error (.handshake (anyhow ("RDCleanPath exchange failed: " ++ e.message))))
      | (some (.ok x224Request), ws) =>
          some (.ok
            { peer := .webSocket peer origin
              stream := .new (.new ws) x224Request
              mode := .preAuthenticated })

/-- The answers of the accept loop: none after a connection that it waits for. -/
def acceptLoop (L : WebSocketTask Pdu) :
    List WsIncoming → List (Except TransportError AcceptedConnection)
  | [] => []
  | c :: conns =>
      match L.acceptOne c with
      | none => []
      | some answer => answer :: L.acceptLoop conns

end WebSocketTask

/-! ### Who is let in -/

/-- The exchange passes over it. -/
def PollNext.Idle : PollNext → Prop
  | .pending => True
  | .message (.binary _) => False
  | .message .close => False
  | .message _ => True
  | .ended => False
  | .error _ => False

theorem readOneWsBinaryFrame_idle {n : PollNext} (hn : n.Idle) (later : List PollNext) :
    readOneWsBinaryFrame (n :: later) = readOneWsBinaryFrame later := by
  rcases n with - | - | e | m
  · rfl
  · exact hn.elim
  · exact hn.elim
  · cases m <;> first | rfl | exact hn.elim

theorem readOneWsBinaryFrame_eq_ok_iff {incoming later : List PollNext} {bytes : List UInt8} :
    readOneWsBinaryFrame incoming = some (.ok (bytes, later)) ↔
      ∃ before, (∀ n ∈ before, n.Idle) ∧ incoming = before ++ .message (.binary bytes) :: later := by
  constructor
  · induction incoming with
    | nil => nofun
    | cons n incoming ih =>
        intro h
        by_cases hn : n.Idle
        · rw [readOneWsBinaryFrame_idle hn] at h
          obtain ⟨before, hidle, rfl⟩ := ih h
          exact ⟨n :: before, List.forall_mem_cons.mpr ⟨hn, hidle⟩, rfl⟩
        · -- a message that is not passed over decides
          rcases n with - | - | e | m
          · exact absurd trivial hn
          · cases h
          · cases h
          · cases m with
            | binary bytes' =>
                obtain ⟨rfl, rfl⟩ := Prod.mk.inj (Except.ok.inj (Option.some.inj h))
                exact ⟨[], nofun, rfl⟩
            | close => cases h
            | _ => exact absurd trivial hn
  · rintro ⟨before, hidle, rfl⟩
    induction before with
    | nil => rfl
    | cons n before ih =>
        rw [List.cons_append, readOneWsBinaryFrame_idle (hidle n List.mem_cons_self)]
        exact ih fun m hm => hidle m (List.mem_cons_of_mem n hm)

namespace WebSocketTask

variable {Pdu : Type} {L : WebSocketTask Pdu}

/-- What a client has sent that is let in: a request in its first binary message, with a
token that the validator accepts; and the response to it. -/
structure Granted (L : WebSocketTask Pdu) (incoming : List PollNext) where
  before : List PollNext
  bytes : List UInt8
  later : List PollNext
  destination : String
  proxyAuth : String
  x224Request : List UInt8
  der : List UInt8
  split : incoming = before ++ .message (.binary bytes) :: later
  idle : ∀ n ∈ before, n.Idle
  decode : L.codec.decode bytes = .ok (.request destination proxyAuth x224Request)
  valid : L.validator.validate (Utf8.encode proxyAuth.toList) destination = .ok ()
  long : 11 ≤ x224Request.length
  version : x224Request.getD 0 0 = 3
  encode : L.codec.encode L.listenAddr
    (x224Confirm (x224Request.getD 8 0) (x224Request.getD 9 0)) L.serverCertChain = .ok der

theorem synthesizeX224Confirm_eq_ok_iff {x224Request confirm : List UInt8} :
    synthesizeX224Confirm x224Request = .ok confirm ↔
      11 ≤ x224Request.length ∧ x224Request.getD 0 0 = 3 ∧
        x224Confirm (x224Request.getD 8 0) (x224Request.getD 9 0) = confirm := by
  unfold synthesizeX224Confirm
  split_ifs with hshort hversion
  · exact iff_of_false nofun fun h => absurd h.1 (not_le.mpr hshort)
  · exact iff_of_false nofun fun h => absurd h.2.1 hversion
  · rw [Except.ok.injEq, and_iff_right (not_lt.mp hshort), and_iff_right (not_not.mp hversion)]

theorem respond_eq_ok_iff {bytes x224Request der : List UInt8} :
    L.respond bytes = .ok (x224Request, der) ↔
      ∃ destination proxyAuth,
        L.codec.decode bytes = .ok (.request destination proxyAuth x224Request) ∧
        L.validator.validate (Utf8.encode proxyAuth.toList) destination = .ok () ∧
        11 ≤ x224Request.length ∧ x224Request.getD 0 0 = 3 ∧
        L.codec.encode L.listenAddr (x224Confirm (x224Request.getD 8 0) (x224Request.getD 9 0))
          L.serverCertChain = .ok der := by
  unfold respond
  rcases hdecode : L.codec.decode bytes with e | pdu
  · exact iff_of_false nofun (by rintro ⟨_, _, h, -⟩; cases h)
  rcases pdu with ⟨destination, proxyAuth, x224⟩ | - | -
  · constructor
    · -- each step of the answer must succeed
      intro h
      rcases hvalid : L.validator.validate (Utf8.encode proxyAuth.toList) destination with r | ⟨⟩
      · simp only [hvalid] at h
        cases h
      rcases hconfirm : synthesizeX224Confirm x224 with e | confirm
      · simp only [hvalid, hconfirm] at h
        cases h
      rcases hencode : L.codec.encode L.listenAddr confirm L.serverCertChain with e | bytes'
      · simp only [hvalid, hconfirm, hencode] at h
        cases h
      simp only [hvalid, hconfirm, hencode] at h
      obtain ⟨rfl, rfl⟩ := Prod.mk.inj (Except.ok.inj h)
      obtain ⟨hlong, hversion, rfl⟩ := synthesizeX224Confirm_eq_ok_iff.mp hconfirm
      exact ⟨destination, proxyAuth, rfl, hvalid, hlong, hversion, hencode⟩
    · -- and with all of them the answer is the encoded confirmation
      rintro ⟨destination', proxyAuth', hrequest, hvalid, hlong, hversion, hencode⟩
      obtain ⟨rfl, rfl, rfl⟩ := RdCleanPath.request.inj (Except.ok.inj hrequest)
      have hconfirm := synthesizeX224Confirm_eq_ok_iff.mpr ⟨hlong, hversion, rfl⟩
      simp only [hvalid, hconfirm, hencode]
  · exact iff_of_false nofun (by rintro ⟨_, _, h, -⟩; cases h)
  · exact iff_of_false nofun (by rintro ⟨_, _, h, -⟩; cases h)

end WebSocketTask

theorem WebSocketStream.startSend_spec (s : WebSocketStream) (msg : Message) :
    (s.startSend msg).2.incoming = s.incoming ∧
      ((s.startSend msg).2.sent = s.sent ++ [msg] ∨
        (s.startSend msg).2.sent = s.sent ∧ (s.startSend msg).1 ≠ none) := by
  unfold startSend
  split
  · exact ⟨rfl, Or.inr ⟨rfl, nofun⟩⟩
  · exact ⟨rfl, Or.inl rfl⟩
  · exact ⟨rfl, Or.inl rfl⟩

/-- Sending leaves the messages to come as they are; the message has been sent if it
succeeds, and else it may have been. -/
theorem WebSocketStream.send_spec (s : WebSocketStream) (msg : Message)
    (flushes : List PollReady) :
    (s.send msg flushes).2.incoming = s.incoming ∧
      ((s.send msg flushes).2.sent = s.sent ++ [msg] ∨
        (s.send msg flushes).2.sent = s.sent ∧ (s.send msg flushes).1 ≠ some (.ok ())) := by
  unfold WebSocketStream.send
  rcases awaitReady s.readiness with e | readiness
  · exact ⟨rfl, Or.inr ⟨rfl, nofun⟩⟩
  · have hspec := startSend_spec { s with readiness } msg
    rcases hstart : startSend { s with readiness } msg with ⟨- | e, t⟩
    · simp only [hstart] at hspec ⊢
      exact ⟨hspec.1, Or.inl (hspec.2.resolve_right fun h => h.2 rfl)⟩
    · simp only [hstart] at hspec ⊢
      exact ⟨hspec.1, hspec.2.imp_right fun h => ⟨h.1, nofun⟩⟩

namespace WebSocketTask

variable {Pdu : Type} {L : WebSocketTask Pdu} {ws : WebSocketStream} {flushes : List PollReady}

/-- The request that the exchange answers. -/
theorem granted_of_respond {bytes x224Request der : List UInt8} {later : List PollNext}
    (hread : readOneWsBinaryFrame ws.incoming = some (.ok (bytes, later)))
    (hrespond : L.respond bytes = .ok (x224Request, der)) :
    ∃ g : L.Granted ws.incoming, g.later = later ∧ g.x224Request = x224Request ∧ g.der = der := by
  obtain ⟨before, hidle, hsplit⟩ := readOneWsBinaryFrame_eq_ok_iff.mp hread
  obtain ⟨destination, proxyAuth, hdecode, hvalid, hlong, hversion, hencode⟩ :=
    respond_eq_ok_iff.mp hrespond
  exact ⟨⟨before, bytes, later, destination, proxyAuth, x224Request, der, hsplit, hidle, hdecode,
    hvalid, hlong, hversion, hencode⟩, rfl, rfl, rfl⟩

theorem Granted.read (g : L.Granted ws.incoming) :
    readOneWsBinaryFrame ws.incoming = some (.ok (g.bytes, g.later)) :=
  readOneWsBinaryFrame_eq_ok_iff.mpr ⟨g.before, g.idle, g.split⟩

theorem Granted.respond (g : L.Granted ws.incoming) :
    L.respond g.bytes = .ok (g.x224Request, g.der) :=
  respond_eq_ok_iff.mpr ⟨g.destination, g.proxyAuth, g.decode, g.valid, g.long, g.version,
    g.encode⟩

/-- The exchange of a client that is let in: one response, and what its socket gives is
left to the stream. -/
theorem exchange_eq_ok_iff {x224Request : List UInt8} {ws' : WebSocketStream} :
    L.runRdcleanpathExchange ws flushes = (some (.ok x224Request), ws') ↔
      ∃ g : L.Granted ws.incoming, g.x224Request = x224Request ∧
        WebSocketStream.send { ws with incoming := g.later } (.binary g.der) flushes =
          (some (.ok ()), ws') := by
  unfold runRdcleanpathExchange
  constructor
  · intro h
    -- a frame was read, answered, and the answer sent
    rcases hread : readOneWsBinaryFrame ws.incoming with - | e | ⟨bytes, later⟩
    · simp only [hread] at h
      cases h
    · simp only [hread] at h
      cases h
    rcases hrespond : L.respond bytes with e | ⟨x224, der⟩
    · simp only [hread, hrespond] at h
      cases h
    rcases hsend : WebSocketStream.send { ws with incoming := later } (.binary der) flushes with
      ⟨- | e | ⟨⟩, t⟩
    · simp only [hread, hrespond, hsend] at h
      cases h
    · simp only [hread, hrespond, hsend] at h
      cases h
    · simp only [hread, hrespond, hsend] at h
      obtain ⟨hx, rfl⟩ := Prod.mk.inj h
      obtain rfl := Except.ok.inj (Option.some.inj hx)
      obtain ⟨g, rfl, rfl, rfl⟩ := granted_of_respond hread hrespond
      exact ⟨g, rfl, hsend⟩
  · rintro ⟨g, rfl, hsend⟩
    simp only [g.read, g.respond, hsend]

/-- To a client that is not let in nothing is sent. -/
theorem exchange_sent (L : WebSocketTask Pdu) (ws : WebSocketStream) (flushes : List PollReady) :
    (L.runRdcleanpathExchange ws flushes).2.sent = ws.sent ∨
      ∃ g : L.Granted ws.incoming,
        (L.runRdcleanpathExchange ws flushes).2.sent = ws.sent ++ [.binary g.der] := by
  unfold runRdcleanpathExchange
  rcases hread : readOneWsBinaryFrame ws.incoming with - | e | ⟨bytes, later⟩
  · exact Or.inl rfl
  · exact Or.inl rfl
  rcases hrespond : L.respond bytes with e | ⟨x224, der⟩
  · exact Or.inl (by simp only [hrespond])
  obtain ⟨g, rfl, rfl, rfl⟩ := granted_of_respond hread hrespond
  have hspec := WebSocketStream.send_spec { ws with incoming := g.later } (.binary g.der) flushes
  rcases hsend : WebSocketStream.send { ws with incoming := g.later } (.binary g.der) flushes with
    ⟨- | e | ⟨⟩, t⟩
  all_goals
    simp only [hrespond, hsend] at hspec ⊢
    rcases hspec.2 with h | ⟨h, -⟩
    · exact Or.inr ⟨g, h⟩
    · exact Or.inl h

/-- A connection that is accepted is one of a client that is let in; of the bytes behind its
request nothing is lost. -/
theorem acceptOne_eq_ok {c : WsIncoming} {a : AcceptedConnection}
    (h : L.acceptOne c = some (.ok a)) :
    ∃ peer origin ws flushes, c = .opened peer origin ws flushes ∧
      a.peer = .webSocket peer origin ∧ a.mode = .preAuthenticated ∧
      ∃ g : L.Granted ws.incoming, ∀ calls t, Run IoStep a.stream calls t →
        bytesRead calls <+: g.x224Request ++ payloads g.later ∧
          t.inner.written = (ws.sent ++ [Message.binary g.der]).flatMap payload ++
            PreFedStream.afterFirstFrame (accepted calls) := by
  -- of the five ways a connection comes in only an opened one is granted
  rcases c with e | e | e | ⟨peer, origin, ws, flushes⟩ | -
  · cases h
  · cases h
  · cases h
  · rcases hex : L.runRdcleanpathExchange ws flushes with ⟨- | e | x224Request, ws'⟩
    · simp only [acceptOne, hex] at h
      cases h
    · simp only [acceptOne, hex] at h
      cases h
    · simp only [acceptOne, hex] at h
      obtain rfl := Except.ok.inj (Option.some.inj h)
      obtain ⟨g, rfl, hsend⟩ := exchange_eq_ok_iff.mp hex
      -- the exchange has sent one message, and the rest is still to be read
      have hspec :=
        WebSocketStream.send_spec { ws with incoming := g.later } (.binary g.der) flushes
      rw [hsend] at hspec
      have hlater : ws'.incoming = g.later := hspec.1
      have hsent : ws'.sent = ws.sent ++ [.binary g.der] :=
        hspec.2.resolve_right fun hno => hno.2 rfl
      refine ⟨peer, origin, ws, flushes, rfl, rfl, rfl, g, fun calls t hrun => ⟨?_, ?_⟩⟩
      · -- the reads of the stream give the request, then the later payloads
        have hread := (PreFedStream.source WsByteStream.source).run hrun
        exact hlater ▸ ⟨_, hread.symm⟩
      · -- the first frame that is written is swallowed
        have hinit : PreFedStream.Swallowed WsByteStream.sink (ws'.sent.flatMap payload) []
            (PreFedStream.new (WsByteStream.new ws') g.x224Request) :=
          ⟨by decide, rfl, Or.inl rfl⟩
        exact hsent ▸ (PreFedStream.run_swallowed hrun hinit).written
  · cases h

/-! ### The listener -/

/-- The answers of the loop are those of the connections in front of the first one that it
waits for. -/
theorem acceptLoop_eq (L : WebSocketTask Pdu) (conns : List WsIncoming) :
    L.acceptLoop conns =
      (conns.takeWhile fun c => (L.acceptOne c).isSome).filterMap L.acceptOne := by
  induction conns with
  | nil => rfl
  | cons c conns ih =>
      rcases hone : L.acceptOne c with - | answer
      · simp only [acceptLoop, hone]
        rw [List.takeWhile_cons_of_neg (by rw [hone]; exact Bool.false_ne_true)]
        rfl
      · simp only [acceptLoop, hone]
        rw [List.takeWhile_cons_of_pos (by rw [hone]; rfl), List.filterMap_cons_some hone, ih]

end WebSocketTask

/-- `WebSocketListenerImpl` and its accept task. -/
structure WebSocketListenerImpl where
  /-- the connections that the task has not taken up -/
  arriving : List WsIncoming
  /-- the answer that the task has to send -/
  sending : Option (Except TransportError AcceptedConnection)
  /-- the channel to `accept` -/
  rx : List (Except TransportError AcceptedConnection)
  /-- what `accept` has returned so far -/
  returned : List (Except TransportError AcceptedConnection)

/-- A step of the accept task, or a poll of `accept` that returns. -/
inductive ListenerStep
  | settle
  | send
  | accept
  deriving DecidableEq, Repr

namespace WebSocketListenerImpl

variable {Pdu : Type}

/-- `bind`, with the connections that will come in. -/
def bind (conns : List WsIncoming) : WebSocketListenerImpl :=
  { arriving := conns, sending := none, rx := [], returned := [] }

/-- The room of the channel. -/
def channelSize : ℕ := 16

/-- A step of the accept task or of `accept`. -/
def step (L : WebSocketTask Pdu) (s : WebSocketListenerImpl) :
    ListenerStep → Option WebSocketListenerImpl
  | .settle =>
      match s.sending, s.arriving with
      | none, c :: arriving =>
          (L.acceptOne c).map fun answer => { s with arriving, sending := some answer }
      | _, _ => none
  | .send =>
      match s.sending with
      | some answer =>
          if s.rx.length < channelSize then
            some { s with sending := none, rx := s.rx ++ [answer] }
          else none
      | none => none
  | .accept =>
      match s.rx with
      | answer :: rx => some { s with rx, returned := s.returned ++ [answer] }
      | [] => none

variable {L : WebSocketTask Pdu} {s t : WebSocketListenerImpl}

/-- The answers in the order in which the connections came. -/
def answers (L : WebSocketTask Pdu) (s : WebSocketListenerImpl) :
    List (Except TransportError AcceptedConnection) :=
  s.returned ++ s.rx ++ s.sending.toList ++ L.acceptLoop s.arriving

/-- A step moves an answer on; none is lost or given twice, and the channel holds. -/
theorem answers_step {e : ListenerStep} (h : s.step L e = some t) (hs : s.rx.length ≤ channelSize) :
    t.answers L = s.answers L ∧ t.rx.length ≤ channelSize := by
  obtain ⟨arriving, sending, rx, returned⟩ := s
  cases e with
  -- an arriving connection is decided, and waits for room
  | settle =>
      rcases sending with - | answer
      · rcases arriving with - | ⟨c, arriving⟩
        · cases h
        · rcases hone : L.acceptOne c with - | answer
          · simp only [step, hone] at h
            cases h
          · simp only [step, hone] at h
            obtain rfl := Option.some.inj h
            refine ⟨?_, hs⟩
            show returned ++ rx ++ [answer] ++ L.acceptLoop arriving =
              returned ++ rx ++ [] ++ L.acceptLoop (c :: arriving)
            simp only [WebSocketTask.acceptLoop, hone]
            rw [List.append_nil, List.append_assoc, List.singleton_append]
      · cases h
  -- the answer is put into the channel
  | send =>
      rcases sending with - | answer
      · cases h
      · simp only [step] at h
        split_ifs at h with hroom
        obtain rfl := Option.some.inj h
        refine ⟨?_, ?_⟩
        · show returned ++ (rx ++ [answer]) ++ [] ++ _ = returned ++ rx ++ [answer] ++ _
          rw [List.append_nil, ← List.append_assoc returned]
        · show (rx ++ [answer]).length ≤ channelSize
          rw [List.length_append]
          exact hroom
  -- the listener takes the oldest
  | accept =>
      rcases rx with - | ⟨answer, rx⟩
      · cases h
      · obtain rfl := Option.some.inj h
        refine ⟨?_, (Nat.le_succ _).trans hs⟩
        show returned ++ [answer] ++ rx ++ _ ++ _ = returned ++ answer :: rx ++ _ ++ _
        rw [List.append_assoc returned, List.singleton_append]

variable {conns : List WsIncoming} {es : List ListenerStep}

/-- What `accept` has returned are the first answers, whatever the order of the steps. -/
theorem accept_run (h : Run (StepOf (step L)) (bind conns) es t) :
    t.returned <+: L.acceptLoop conns := by
  have hinv : t.answers L = L.acceptLoop conns ∧ t.rx.length ≤ channelSize :=
    h.invariant (P := fun s => s.answers L = L.acceptLoop conns ∧ s.rx.length ≤ channelSize)
      ⟨rfl, Nat.zero_le _⟩ fun hs hst =>
        ⟨(answers_step hst hs.2).1.trans hs.1, (answers_step hst hs.2).2⟩
  rw [← hinv.1, answers, List.append_assoc, List.append_assoc]
  exact List.prefix_append _ _

/-- The WebSocket path fails closed.  What `accept` returns are the answers of the first
connections, up to the first that keeps the task waiting; each connection among them is one
whose first binary message is a request with a token that the configuration admits; the
stream handed on gives the bytes of the X.224 request and of all messages behind it, and to
the client go the response and what is written after the first frame.  A client without such
a request is sent nothing. -/
theorem websocket_fails_closed {cfg : ResolvedWebSocketTransport}
    {read : String → Except String (List UInt8)} (hv : cfg.proxyAuth read = .ok L.validator)
    (h : Run (StepOf (step L)) (bind conns) es t) :
    t.returned <+: (conns.takeWhile fun c => (L.acceptOne c).isSome).filterMap L.acceptOne ∧
      (∀ a, .ok a ∈ t.returned →
        ∃ peer origin ws flushes, .opened peer origin ws flushes ∈ conns ∧
          a.peer = .webSocket peer origin ∧ a.mode = .preAuthenticated ∧
          ∃ g : L.Granted ws.incoming, cfg.Admits read (Utf8.encode g.proxyAuth.toList) ∧
            ∀ calls u, Run IoStep a.stream calls u →
              bytesRead calls <+: g.x224Request ++ payloads g.later ∧
                u.inner.written = (ws.sent ++ [Message.binary g.der]).flatMap payload ++
                  PreFedStream.afterFirstFrame (accepted calls)) ∧
      ∀ ws flushes, (L.runRdcleanpathExchange ws flushes).2.sent ≠ ws.sent →
        ∃ g : L.Granted ws.incoming, cfg.Admits read (Utf8.encode g.proxyAuth.toList) := by
  -- what is granted was admitted by the validator
  have hadmits : ∀ {incoming : List PollNext} (g : L.Granted incoming),
      cfg.Admits read (Utf8.encode g.proxyAuth.toList) :=
    fun g => (validate_proxyAuth_iff hv _ g.destination).mp g.valid
  have hreturned := accept_run h
  rw [L.acceptLoop_eq] at hreturned
  refine ⟨hreturned, fun a ha => ?_, fun ws flushes hsent => ?_⟩
  · -- each connection that is returned came in, and was accepted
    obtain ⟨c, hc, hone⟩ := List.mem_filterMap.mp (hreturned.subset ha)
    obtain ⟨peer, origin, ws, flushes, rfl, hpeer, hmode, g, hstream⟩ :=
      WebSocketTask.acceptOne_eq_ok hone
    exact ⟨peer, origin, ws, flushes, (List.takeWhile_prefix _).subset hc, hpeer, hmode, g,
      hadmits g, hstream⟩
  · obtain ⟨g, -⟩ := (WebSocketTask.exchange_sent L ws flushes).resolve_left hsent
    exact ⟨g, hadmits g⟩

/-! ### Two clients, one with the secret -/

/-- A request PDU in DER, to the destination `vm`, with a token of one character. -/
def requestDer (token : UInt8) : List UInt8 :=
  [0x30, 0x20, 0xA0, 4, 2, 2, 0x0D, 0x3E, 0xA2, 4, 0x0C, 2, 0x76, 0x6D, 0xA3, 3, 0x0C, 1, token,
    0xA6, 0x0D, 4, 0x0B, 3, 0, 0, 0x0B, 6, 0xE0, 0, 0, 0x12, 0x34, 0]

/-- The codec on these requests; a response in DER with no certificates. -/
def consoleCodec : RdCleanPathCodec (RdCleanPath ⊕ List UInt8 × String) where
  fromDer bytes :=
    if bytes = requestDer (bytes.getD 18 0) then
      .ok (.inl (.request "vm" (String.ofList [Char.ofNat (bytes.getD 18 0).toNat])
        (bytes.drop 23)))
    else .error "ASN.1 DER"
  intoEnum pdu := pdu.elim .ok fun _ => .ok .response
  newResponse addr confirm _ := .ok (.inr (confirm, addr))
  toDer pdu :=
    pdu.elim (fun _ => .error "not a response") fun (confirm, addr) =>
      .ok ([0x30, 37 + .ofNat addr.length, 0xA0, 4, 2, 2, 0x0D, 0x3E, 0xA6, 0x15, 4, 0x13] ++
        confirm ++ [0xA7, 2, 0x30, 0, 0xA9, 2 + .ofNat addr.length, 0x0C, .ofNat addr.length] ++
        Utf8.encode addr.toList)

/-- The secret is in a file. -/
def consoleCfg : ResolvedWebSocketTransport :=
  { proxyAuthSecretPath := some "/etc/lamco/console", proxyAuthAllowInsecure := false }

/-- The secret is `s`, with a newline behind it. -/
def consoleFiles (_path : String) : Except String (List UInt8) := .ok [0x73, 0x0A]

/-- The task with that secret. -/
def consoleTask : WebSocketTask (RdCleanPath ⊕ List UInt8 × String) :=
  { codec := consoleCodec, serverCertChain := [], listenAddr := "[::]:3390",
    validator := .sharedSecret ⟨[0x73], nofun⟩ }

/-- A client that sends a text, its request and then `more`. -/
def consoleClient (token : UInt8) (more : List UInt8) : WsIncoming :=
  .opened { ip := .v4 0x7F000001, port := 40000 } none
    { incoming := [.message (.text []), .message (.binary (requestDer token)), .pending,
        .message (.binary more)],
      readiness := [.pending], sends := [], sent := [] } [.pending, .ready]

/-- Three clients with a request and one that sends nothing; the first has the wrong secret. -/
def consoleClients : List WsIncoming :=
  [consoleClient 0x77 [], consoleClient 0x73 [1, 2], .silent, consoleClient 0x73 []]

theorem consoleClients_run :
    ∃ t a e, Run (StepOf (step consoleTask)) (bind consoleClients)
      [.settle, .send, .settle, .accept, .send, .accept] t ∧ t.returned = [.error e, .ok a] :=
  ⟨_, _, _, Run.of_foldlM rfl, rfl⟩

theorem websocket_fails_closed_second :
    ∃ (t : WebSocketListenerImpl) (a : AcceptedConnection), .ok a ∈ t.returned ∧
      t.returned <+: (consoleClients.takeWhile fun c => (consoleTask.acceptOne c).isSome).filterMap
        consoleTask.acceptOne ∧
      ∃ peer origin ws flushes, .opened peer origin ws flushes ∈ consoleClients ∧
        ∃ g : consoleTask.Granted ws.incoming,
          consoleCfg.Admits consoleFiles (Utf8.encode g.proxyAuth.toList) ∧
          ∀ calls u, Run IoStep a.stream calls u →
            bytesRead calls <+: g.x224Request ++ payloads g.later := by
  obtain ⟨t, a, e, hrun, hreturned⟩ := consoleClients_run
  have hv : consoleCfg.proxyAuth consoleFiles = .ok consoleTask.validator := rfl
  have ha : .ok a ∈ t.returned := by
    rw [hreturned]
    exact List.mem_cons_of_mem _ (List.mem_singleton_self _)
  obtain ⟨hfirst, hall, -⟩ := websocket_fails_closed hv hrun
  obtain ⟨peer, origin, ws, flushes, hmem, -, -, g, hadmits, hstream⟩ := hall a ha
  exact ⟨t, a, ha, hfirst, peer, origin, ws, flushes, hmem, g, hadmits,
    fun calls u h => (hstream calls u h).1⟩

end WebSocketListenerImpl

end LamcoRdp
