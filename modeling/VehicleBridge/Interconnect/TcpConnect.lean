import Mathlib.Logic.Function.Basic
import VehicleBridge.Interconnect.BridgeConfig
import VehicleBridge.Interconnect.TcpTransport

/-!
# Connecting over TCP

`Create` reads host and port from the parameters of an endpoint and connects to them, with `socket_fd_` as the only
trace that it keeps of the sockets of the system.  Each of its calls of the system may fail, and then it must give back
the socket that it has opened.

What a user of the transport knows of it are the answers of its calls.  They determine which connection it has
(`connectionAfter`), and the sockets of the system are always those that were open before and the one of this connection
(`connection_refines`).
-/

namespace VehicleBridge

open ByteText

/-! ### The sockets of the program -/

/-- A socket: its file status flags, the peer that it has been connected to, and its options. -/
structure Socket where
  flags : UInt32
  peer : Option (UInt32 × UInt16) := none
  nodelay : Bool := false
  keepalive : Bool := false
  deriving DecidableEq, Repr

/-- The open sockets by their descriptors. -/
abbrev SocketTable := Int32 → Option Socket

/-- `O_RDWR` -/
def oRdwr : UInt32 := 0x2

/-- `O_NONBLOCK` -/
def oNonBlock : UInt32 := 0x800

namespace SocketTable

def modify (fd : Int32) (f : Socket → Socket) (sockets : SocketTable) : SocketTable :=
  Function.update sockets fd ((sockets fd).map f)

/-- `close` -/
def close (fd : Int32) (sockets : SocketTable) : SocketTable :=
  Function.update sockets fd none

end SocketTable

inductive ConnectReply
  | connected
  | inProgress
  | failed
  deriving DecidableEq, Repr

inductive SelectReply
  | ready
  | timedOut
  | failed
  deriving DecidableEq, Repr

/-- What the system answers to the calls of one `Connect`: the descriptor that is free for a socket, whether `fcntl`
reads and sets the flags, first and last, and so on in their order. -/
structure ConnectReplies where
  free : Int32
  getFlags : Bool := true
  setFlags : Bool := true
  connect : ConnectReply := .inProgress
  select : SelectReply := .ready
  socketError : Bool := false
  setNodelay : Bool := true
  setKeepalive : Bool := true
  getFlagsAgain : Bool := true
  setFlagsAgain : Bool := true
  deriving DecidableEq, Repr

/-! ### The calls of the program -/

def waitForSocket : SelectReply → ErrorCode
  | .timedOut => .timeout
  | .failed => mapSocketError
  | .ready => .ok

def setNonBlocking (fd : Int32) (enable getFlags setFlags : Bool) (sockets : SocketTable) : Bool × SocketTable :=
  if getFlags && setFlags then
    (true, sockets.modify fd fun socket =>
      { socket with flags := if enable then socket.flags ||| oNonBlock else socket.flags &&& ~~~ oNonBlock })
  else (false, sockets)

def parsePort (value : Bytes) : Option UInt16 :=
  match strtol (cString value) with
  | none => none
  | some (parsed, rest) =>
    if rest ≠ [] ∨ parsed ≤ 0 ∨ 65535 < parsed then none else some (UInt16.ofNat parsed.toNat)

def parseHostPort (config : TransportEndpointConfig) : Option (Bytes × UInt16) :=
  match config.params.lookup (text "host"), config.params.lookup (text "port") with
  | some host, some port => (parsePort port).map fun port => (host, port)
  | _, _ => none

/-- An option of the endpoint, which is on if it is not set. -/
def enabled (name : Bytes) (config : TransportEndpointConfig) : Bool :=
  match config.params.lookup name with
  | none => true
  | some value => value = text "1" ∨ value = text "true" ∨ value = text "on"

/-- A transport, the sockets of its process, and what its calls have answered. -/
structure TcpProcess where
  socketFd : Int32 := -1
  sockets : SocketTable
  answers : List ErrorCode := []

inductive ConnectionOp
  | create (config : TransportEndpointConfig) (replies : ConnectReplies)
  | close
  | unlink
  | discardOldest

namespace TcpProcess

def closeSocket (p : TcpProcess) : TcpProcess :=
  if 0 ≤ p.socketFd then { p with socketFd := -1, sockets := p.sockets.close p.socketFd } else p

section
variable (inetPton : Bytes → Option UInt32)

/-- `Connect` behind `socket`, with the socket that it gives. -/
def connectSocket (host : Bytes) (port : UInt16) (enableNodelay enableKeepalive : Bool) (replies : ConnectReplies)
    (fd : Int32) (p : TcpProcess) : ErrorCode × TcpProcess :=
  let nonBlocking := setNonBlocking fd true replies.getFlags replies.setFlags p.sockets
  if nonBlocking.1 = false then (.queueCreateFailed, { p with sockets := nonBlocking.2.close fd })
  else
    match inetPton (cString host) with
    | none => (.invalidParam, { p with sockets := nonBlocking.2.close fd })
    | some address =>
      let connecting := nonBlocking.2.modify fd fun socket => { socket with peer := some (address, port) }
      if replies.connect = .failed then (.queueCreateFailed, { p with sockets := connecting.close fd })
      else if waitForSocket replies.select ≠ .ok then
        (waitForSocket replies.select, { p with sockets := connecting.close fd })
      else if replies.socketError then (.queueCreateFailed, { p with sockets := connecting.close fd })
      else
        -- the answers to these two are not looked at
        let configured := connecting.modify fd fun socket =>
          { socket with
            nodelay := if replies.setNodelay then enableNodelay else socket.nodelay
            keepalive := if replies.setKeepalive then enableKeepalive else socket.keepalive }
        let blocking := setNonBlocking fd false replies.getFlagsAgain replies.setFlagsAgain configured
        if blocking.1 = false then (.queueCreateFailed, { p with sockets := blocking.2.close fd })
        else (.ok, { p with socketFd := fd, sockets := blocking.2 })

/-- `Connect`.  A descriptor that is negative or in use is none that `socket` gives: then it fails. -/
def connect (host : Bytes) (port : UInt16) (enableNodelay enableKeepalive : Bool) (replies : ConnectReplies)
    (p : TcpProcess) : ErrorCode × TcpProcess :=
  let p := p.closeSocket
  if replies.free < 0 ∨ (p.sockets replies.free).isSome then (.queueCreateFailed, p)
  else
    connectSocket inetPton host port enableNodelay enableKeepalive replies replies.free
      { p with sockets := Function.update p.sockets replies.free (some { flags := oRdwr }) }

def create (config : TransportEndpointConfig) (replies : ConnectReplies) (p : TcpProcess) : ErrorCode × TcpProcess :=
  match parseHostPort config with
  | none => (.invalidParam, p)
  | some (host, port) =>
    p.connect inetPton host port (enabled (text "tcp_nodelay") config) (enabled (text "tcp_keepalive") config) replies

def exec (p : TcpProcess) : ConnectionOp → TcpProcess
  | .create config replies =>
    let result := p.create inetPton config replies
    { result.2 with answers := p.answers ++ [result.1] }
  | .close => { p.closeSocket with answers := p.answers ++ [.ok] }
  | .unlink | .discardOldest => { p with answers := p.answers ++ [.ok] }

end

end TcpProcess

/-! ### What a user knows -/

/-- A connection, as its user has asked for it, with the options that the system has set. -/
structure Connection where
  host : Bytes
  port : UInt16
  nodelay : Bool
  keepalive : Bool
  deriving DecidableEq, Repr

/-- The connection that a call asks for; `none` where its parameters are refused. -/
def requested (config : TransportEndpointConfig) (replies : ConnectReplies) : Option Connection :=
  (parseHostPort config).map fun (host, port) =>
    { host, port
      nodelay := replies.setNodelay && enabled (text "tcp_nodelay") config
      keepalive := replies.setKeepalive && enabled (text "tcp_keepalive") config }

/-- The connection behind a call with its answer: a call that is refused for its parameters keeps the one there is, a
call that fails later has closed it. -/
def connectionAfter (c : Option Connection) : ConnectionOp × ErrorCode → Option Connection
  | (.create config replies, answer) =>
    match requested config replies with
    | none => c
    | some asked => if answer = .ok then some asked else none
  | (.close, _) => none
  | (.unlink, _) | (.discardOldest, _) => c

/-- The sockets are those of the beginning, and that of the connection: it blocks, and is connected to the peer. -/
inductive Represents (inetPton : Bytes → Option UInt32) (k₀ : SocketTable) (p : TcpProcess) :
    Option Connection → Prop
  | disconnected (hfd : p.socketFd < 0) (hsockets : p.sockets = k₀) : Represents inetPton k₀ p none
  | connected {c : Connection} {address : UInt32} (hfd : 0 ≤ p.socketFd) (hfree : k₀ p.socketFd = none)
      (haddress : inetPton (cString c.host) = some address)
      (hsockets : p.sockets = Function.update k₀ p.socketFd
        (some { flags := oRdwr, peer := some (address, c.port), nodelay := c.nodelay, keepalive := c.keepalive })) :
      Represents inetPton k₀ p (some c)

example : parsePort (text " +0080") = some 80 := by decide

section
variable {k : SocketTable} {fd : Int32} {socket : Socket}

private theorem SocketTable.close_update (hfree : k fd = none) (socket : Option Socket) :
    SocketTable.close fd (Function.update k fd socket) = k := by
  unfold SocketTable.close
  rw [Function.update_idem, ← hfree, Function.update_eq_self]

private theorem SocketTable.modify_update (f : Socket → Socket) :
    SocketTable.modify fd f (Function.update k fd (some socket)) = Function.update k fd (some (f socket)) := by
  unfold SocketTable.modify
  rw [Function.update_idem, Function.update_self, Option.map_some]

/-- Whether or not the flags are set, there is a socket at the descriptor. -/
private theorem setNonBlocking_update (k : SocketTable) (fd : Int32) (socket : Socket)
    (enable getFlags setFlags : Bool) :
    ∃ flags, (setNonBlocking fd enable getFlags setFlags (Function.update k fd (some socket))).2 =
        Function.update k fd (some { socket with flags }) ∧
      ((setNonBlocking fd enable getFlags setFlags (Function.update k fd (some socket))).1 = true →
        flags = if enable then socket.flags ||| oNonBlock else socket.flags &&& ~~~ oNonBlock) := by
  unfold setNonBlocking
  split
  · exact ⟨_, SocketTable.modify_update _, fun _ => rfl⟩
  · exact ⟨socket.flags, rfl, nofun⟩

end

section
variable {inetPton : Bytes → Option UInt32} {k₀ : SocketTable} {host : Bytes} {port : UInt16}
  {enableNodelay enableKeepalive : Bool} {replies : ConnectReplies} {p : TcpProcess}

/-- The socket of a new connection. -/
def connectedSocket (address : UInt32) (c : Connection) : Socket :=
  { flags := oRdwr, peer := some (address, c.port), nodelay := c.nodelay, keepalive := c.keepalive }

/-- **A connect** that fails gives its socket back, and one that does not has connected it to the address of the host,
blocking again and with the options that were set. -/
theorem connectSocket_cases {fd : Int32} {k : SocketTable} (hfree : k fd = none)
    (hsockets : p.sockets = Function.update k fd (some { flags := oRdwr })) :
    (∃ ec, ec ≠ .ok ∧ p.connectSocket inetPton host port enableNodelay enableKeepalive replies fd =
        (ec, { p with sockets := k })) ∨
      ∃ address, inetPton (cString host) = some address ∧
        p.connectSocket inetPton host port enableNodelay enableKeepalive replies fd =
          (.ok, { p with
            socketFd := fd
            sockets := Function.update k fd (some (connectedSocket address
              { host, port, nodelay := replies.setNodelay && enableNodelay
                keepalive := replies.setKeepalive && enableKeepalive })) }) := by
  have hclosed (socket : Option Socket) : SocketTable.close fd (Function.update k fd socket) = k :=
    SocketTable.close_update hfree socket
  have hand (set option : Bool) : (if set then option else false) = (set && option) := by
    cases set <;> rfl
  simp only [TcpProcess.connectSocket, hsockets]
  obtain ⟨flags, hfirst, hflags⟩ := setNonBlocking_update k fd { flags := oRdwr } true
    replies.getFlags replies.setFlags
  simp only [hfirst, hclosed, SocketTable.modify_update, hand]
  split
  · exact .inl ⟨.queueCreateFailed, nofun, rfl⟩
  next hset =>
  rw [Bool.not_eq_false] at hset
  cases haddress : inetPton (cString host) with
  | none => exact .inl ⟨.invalidParam, nofun, rfl⟩
  | some address =>
    simp only
    split
    · exact .inl ⟨.queueCreateFailed, nofun, rfl⟩
    split
    · next hwait => exact .inl ⟨_, hwait, rfl⟩
    split
    · exact .inl ⟨.queueCreateFailed, nofun, rfl⟩
    obtain ⟨flags', hsecond, hflags'⟩ := setNonBlocking_update k fd
      { flags, peer := some (address, port)
        nodelay := replies.setNodelay && enableNodelay
        keepalive := replies.setKeepalive && enableKeepalive }
      false replies.getFlagsAgain replies.setFlagsAgain
    rw [hsecond, hclosed]
    split
    · exact .inl ⟨.queueCreateFailed, nofun, rfl⟩
    next hset' =>
    rw [Bool.not_eq_false] at hset'
    have hblocking : flags' = oRdwr := by
      rw [hflags' hset', hflags hset, if_neg Bool.false_ne_true, if_pos rfl]
      exact show (oRdwr ||| oNonBlock) &&& ~~~ oNonBlock = oRdwr by decide
    refine .inr ⟨address, rfl, ?_⟩
    rw [hblocking, connectedSocket]

/-- A transport that holds nothing or a connection closes it. -/
theorem Represents.closeSocket {c : Option Connection} (h : Represents inetPton k₀ p c) :
    p.closeSocket.socketFd < 0 ∧ p.closeSocket.sockets = k₀ ∧ p.closeSocket.answers = p.answers := by
  unfold TcpProcess.closeSocket
  cases h with
  | disconnected hfd hsockets =>
    rw [if_neg (Int32.not_le.2 hfd)]
    exact ⟨hfd, hsockets, rfl⟩
  | connected hfd hfree haddress hsockets =>
    rw [if_pos hfd, hsockets]
    exact ⟨show (-1 : Int32) < 0 by decide, SocketTable.close_update hfree _, rfl⟩

/-- **The step lemma**: what a call answers says which connection there is behind it. -/
theorem Represents.exec {c : Option Connection} (h : Represents inetPton k₀ p c) (op : ConnectionOp) :
    ∃ answer, (p.exec inetPton op).answers = p.answers ++ [answer] ∧
      Represents inetPton k₀ (p.exec inetPton op) (connectionAfter c (op, answer)) := by
  have hkept {p' : TcpProcess} {c : Option Connection} (h : Represents inetPton k₀ p' c) (answers : List ErrorCode) :
      Represents inetPton k₀ { p' with answers } c := by
    cases h with
    | disconnected hfd hsockets => exact .disconnected hfd hsockets
    | connected hfd hfree haddress hsockets => exact .connected hfd hfree haddress hsockets
  obtain ⟨hfd, hsockets, -⟩ := h.closeSocket
  have hclosed : Represents inetPton k₀ p.closeSocket none := .disconnected hfd hsockets
  cases op with
  | create config replies =>
    refine ⟨(p.create inetPton config replies).1, rfl, hkept ?_ _⟩
    cases hparams : parseHostPort config with
    | none =>
      simp only [TcpProcess.create, connectionAfter, requested, hparams, Option.map_none]
      exact h
    | some params =>
      obtain ⟨host, port⟩ := params
      simp only [TcpProcess.create, connectionAfter, requested, hparams, Option.map_some, TcpProcess.connect]
      split
      · simp only [reduceCtorEq, if_false]
        exact hclosed
      next hfree =>
      rw [not_or, Option.not_isSome_iff_eq_none, hsockets] at hfree
      let opened : TcpProcess :=
        { p.closeSocket with
          sockets := Function.update p.closeSocket.sockets replies.free (some { flags := oRdwr }) }
      have hopened : opened.sockets = Function.update k₀ replies.free (some { flags := oRdwr }) := by
        rw [← hsockets]
      rcases connectSocket_cases hfree.2 hopened with ⟨ec, hec, heq⟩ | ⟨address, haddress, heq⟩ <;> rw [heq]
      · rw [if_neg hec]
        exact .disconnected hfd rfl
      · rw [if_pos rfl]
        exact .connected (Int32.not_lt.1 hfree.1) hfree.2 haddress rfl
  | close => exact ⟨.ok, rfl, hkept hclosed _⟩
  | unlink => exact ⟨.ok, rfl, hkept h _⟩
  | discardOldest => exact ⟨.ok, rfl, hkept h _⟩

/-- **The run lemma.** -/
theorem Represents.run {c : Option Connection} (h : Represents inetPton k₀ p c) (ops : List ConnectionOp) :
    ∃ answers, (ops.foldl (TcpProcess.exec inetPton) p).answers = p.answers ++ answers ∧
      answers.length = ops.length ∧
      Represents inetPton k₀ (ops.foldl (TcpProcess.exec inetPton) p) ((ops.zip answers).foldl connectionAfter c) := by
  induction ops generalizing p c with
  | nil => exact ⟨[], (List.append_nil _).symm, rfl, h⟩
  | cons op ops ih =>
    obtain ⟨answer, hanswer, hstep⟩ := h.exec op
    obtain ⟨answers, hanswers, hlength, hrun⟩ := ih hstep
    refine ⟨answer :: answers, ?_, congrArg (· + 1) hlength, hrun⟩
    rw [List.foldl_cons, hanswers, hanswer, List.append_assoc]
    rfl

end

end VehicleBridge
