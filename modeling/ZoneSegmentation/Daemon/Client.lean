import ZoneSegmentation.Daemon.Isolation

/-!
# The client and the daemon

`FirewallClient` keeps one connection to the daemon and makes its calls over it, one after the
other: a call sends its request, reads the two bytes of the response, and returns. When a call fails
it drops the socket, and the next call connects again. The bytes of both directions are cut as the
sockets like, other clients come and go, and connections and the daemon may fail at any point.

## Main definitions

* `FirewallClient`, `Session`: the client, and the client beside the daemon
* `SessionEvent`, `Session.step`: what happens to them
* `CallEnd`: how a call ended
* `Paired`: the calls and the answers of a run are paired

## Main results

* `Session.Ok.step`: on its connection, the client has read the answers to the calls that returned,
  and of the answer to the call it is in as much as the call has
* `turns_add_work_le`: a call ends within 30 turns
* `request_answer_paired`: each call of a run raises, or returns the decision on its own request
-/

namespace ZoneSegmentation

/-! ## The client -/

/-- Where the client is in `is_allowed`. -/
inductive ClientCall where
  /-- In no call. -/
  | idle
  /-- In `sendall`, with what is left of the request. -/
  | sending (r : Request) (left : List Byte)
  /-- In `_recv_exact`, with what it has of the response. -/
  | receiving (r : Request) (chunks : List Byte)
  deriving DecidableEq

/-- The request of the call the client is in. -/
def ClientCall.request? : ClientCall → Option Request
  | .idle => none
  | .sending r _ | .receiving r _ => some r

/-- `FirewallClient`: `_sock`, and the call it is in. -/
structure FirewallClient where
  sock : Option ℕ
  call : ClientCall
  deriving DecidableEq

/-- How a call of `is_allowed` ended: its request, the socket it used and the bytes it read of it,
and what it returned, or `none` if it raised `OSError`. -/
structure CallEnd where
  request : Request
  sock : Option ℕ
  received : List Byte
  result : Option (Bool × BitVec 8)
  deriving DecidableEq

/-- The daemon and the client. -/
structure Session where
  server : Server
  client : FirewallClient
  deriving DecidableEq

/-- What happens to the daemon and the client. -/
inductive SessionEvent where
  /-- A step of the daemon, or of another of its clients. -/
  | daemon (e : ServerEvent)
  /-- The daemon is started again. -/
  | restart
  /-- The connection of a thread fails. -/
  | breaks (id : ℕ)
  /-- `is_allowed` is called; `connects` says whether `connect` succeeds if it is needed. -/
  | call (r : Request) (connects : Bool)
  /-- `sendall` hands over at most `n` bytes. -/
  | sends (n : ℕ)
  /-- `recv` returns at most `n` bytes. -/
  | receives (n : ℕ)
  /-- `sendall` or `recv` raises `OSError`, or `recv` returns nothing. -/
  | fails
  /-- `close`. -/
  | close
  deriving DecidableEq

/-- The connection whose client makes a step. -/
def ServerEvent.clientOf : ServerEvent → Option ℕ
  | .send id _ | .receive id _ | .hangUp id => some id
  | _ => none

namespace Session

/-- The daemon is started, and the client created. -/
def init : Session := ⟨.init, ⟨none, .idle⟩⟩

/-- The client's connection. -/
def own (s : Session) : Option Connection := s.client.sock.bind fun id => s.server.conns[id]?

/-- `is_allowed` up to `sendall`: `_ensure_connected` connects if there is no socket. -/
def isAllowed (s : Session) (r : Request) (connects : Bool) : Session × List CallEnd :=
  match s.client.call, s.client.sock with
  | .idle, some id => (⟨s.server, ⟨some id, .sending r (packRequest r)⟩⟩, [])
  | .idle, none =>
    if connects = true ∧ s.server.process = .running then
      (⟨s.server.accept, ⟨some s.server.conns.length, .sending r (packRequest r)⟩⟩, [])
    else (s, [⟨r, none, [], none⟩])
  | _, _ => (s, [])

/-- `sendall` hands over bytes; after the last, `_recv_exact` starts. -/
def sends (s : Session) (n : ℕ) : Session :=
  match s.client.call, s.client.sock with
  | .sending r left, some id =>
    { server := s.server.update id fun c => c.send (left.take n)
      client := ⟨some id,
        if left.drop n = [] then .receiving r [] else .sending r (left.drop n)⟩ }
  | _, _ => s

/-- `recv` returns bytes; with the last, the call returns. Without any it blocks. -/
def receives (s : Session) (n : ℕ) : Session × List CallEnd :=
  match s.client.call, s.client.sock, s.own with
  | .receiving r chunks, some id, some c =>
    let count := min n (responseSize - chunks.length)
    let chunk := c.toClient.unread.take count
    let server := s.server.update id fun c => c.receive count
    if chunk = [] then (s, [])
    else if (chunks ++ chunk).length < responseSize then
      (⟨server, ⟨some id, .receiving r (chunks ++ chunk)⟩⟩, [])
    else
      (⟨server, ⟨some id, .idle⟩⟩,
        [⟨r, some id, chunks ++ chunk, unpackResponse (chunks ++ chunk)⟩])
  | _, _, _ => (s, [])

/-- The `except` of `is_allowed`: the socket is dropped and the error raised. The socket is closed
when Python frees it: a `hangUp` of the daemon's event follows at some time. -/
def fails (s : Session) : Session × List CallEnd :=
  match s.client.call with
  | .idle => (s, [])
  | .sending r _ => (⟨s.server, ⟨none, .idle⟩⟩, [⟨r, s.client.sock, [], none⟩])
  | .receiving r chunks => (⟨s.server, ⟨none, .idle⟩⟩, [⟨r, s.client.sock, chunks, none⟩])

/-- `close`, between two calls. -/
def close (s : Session) : Session :=
  match s.client.call, s.client.sock with
  | .idle, some id => ⟨s.server.update id Connection.hangUp, ⟨none, .idle⟩⟩
  | _, _ => s

/-- One event. What others do to the client's own end of its connection is excluded. -/
def step (t : Tables) (o : ByteOrder) (s : Session) : SessionEvent → Session × List CallEnd
  | .daemon e =>
    if e.clientOf.isSome ∧ e.clientOf = s.client.sock then (s, [])
    else (⟨s.server.step t o e, s.client⟩, [])
  | .restart =>
    if s.server.process = .running then (s, []) else (⟨⟨.running, s.server.conns⟩, s.client⟩, [])
  | .breaks id =>
    (⟨s.server.update id fun c => { c with thread := .closed }, s.client⟩, [])
  | .call r connects => s.isAllowed r connects
  | .sends n => (s.sends n, [])
  | .receives n => s.receives n
  | .fails => s.fails
  | .close => (s.close, [])

/-- The calls that are made. -/
def called (s : Session) : SessionEvent → List Request
  | .call r _ => if s.client.call = .idle then [r] else []
  | _ => []

end Session

/-! ## What is on the wire -/

section

variable (t : Tables) (o : ByteOrder)

/-- The bytes of the daemon's answer to a call. -/
def answerOf (r : Request) : List Byte := (respond t o (packRequest r)).getD []

/-- The bytes of a connection: the requests of the calls that returned and `sent` of the next, and
of the answers, those of these calls and `got` of the next. -/
structure Synced (c : Connection) (done : List Request) (sent got : List Byte) : Prop where
  hungUp : c.hungUp = false
  written : c.toDaemon.written = done.flatMap packRequest ++ sent
  read : c.toClient.read = done.flatMap (answerOf t o) ++ got

/-- The client's connection, beside the call it is in. -/
def InCall (c : Connection) (done : List Request) : ClientCall → Prop
  | .idle => Synced t o c done [] []
  | .sending r left => left ≠ [] ∧ ∃ sent, sent ++ left = packRequest r ∧ Synced t o c done sent []
  | .receiving r chunks => chunks.length < responseSize ∧ Synced t o c done (packRequest r) chunks

/-- What holds of the daemon and the client in every state reached. -/
structure Session.Ok (s : Session) : Prop where
  conns : s.server.ConnsOk t o
  own : ∀ id, s.client.sock = some id →
    ∃ c done, s.server.conns[id]? = some c ∧ InCall t o c done s.client.call
  noSock : s.client.sock = none → s.client.call = .idle

end

variable {t : Tables} {o : ByteOrder} {c : Connection} {done : List Request}

theorem length_answerOf_le (r : Request) : (answerOf t o r).length ≤ responseSize := by
  unfold answerOf
  cases h : respond t o (packRequest r) with
  | none => exact Nat.zero_le _
  | some resp => exact (length_of_respond h).le

/-- Requests that were packed one after the other are answered one after the other. -/
theorem answers_calls {sent : List Byte} (hsent : sent.length < requestSize) :
    answers t o (done.flatMap packRequest ++ sent) = done.flatMap (answerOf t o) := by
  have hcut : Pipe.cut requestSize ((done.map packRequest).flatten ++ sent) =
      (done.map packRequest, sent) := Pipe.cut_flatten_append (by simp) hsent
  rw [← List.flatMap_def] at hcut
  rw [answers, Pipe.blocks, hcut]
  simp only [List.flatMap_map]
  rfl

theorem answers_calls_request (r : Request) :
    answers t o (done.flatMap packRequest ++ packRequest r) =
      done.flatMap (answerOf t o) ++ answerOf t o r := by
  have h : answers t o ((done ++ [r]).flatMap packRequest ++ []) =
      (done ++ [r]).flatMap (answerOf t o) := answers_calls (by decide)
  simpa using h

namespace Synced

/-- Before the request is complete, nothing of its answer is there. -/
theorem nothing_yet {sent got : List Byte} (h : Synced t o c done sent got) (hok : c.Ok t o)
    (hsent : sent.length < requestSize) : got ++ c.toClient.unread = [] := by
  have hprefix := hok.written_answers
  rw [h.written, answers_calls hsent, Pipe.written, h.read, List.append_assoc] at hprefix
  have hlen := hprefix.length_le
  rw [List.length_append] at hlen
  exact List.eq_nil_of_length_eq_zero (by omega)

/-- **What the client has read or may read of an answer is of the answer to its own call.** -/
theorem own_answer {r : Request} {got : List Byte} (h : Synced t o c done (packRequest r) got)
    (hok : c.Ok t o) : got ++ c.toClient.unread <+: answerOf t o r := by
  have hprefix := hok.written_answers
  rwa [h.written, answers_calls_request, Pipe.written, h.read, List.append_assoc,
    List.prefix_append_right_inj] at hprefix

theorem congr {sent got : List Byte} (h : Synced t o c done sent got) {c' : Connection}
    (hhungUp : c'.hungUp = c.hungUp) (hwritten : c'.toDaemon.written = c.toDaemon.written)
    (hread : c'.toClient.read = c.toClient.read) : Synced t o c' done sent got :=
  ⟨hhungUp.trans h.hungUp, hwritten.trans h.written, hread.trans h.read⟩

end Synced

namespace InCall

variable {call : ClientCall}

theorem congr (h : InCall t o c done call) {c' : Connection} (hhungUp : c'.hungUp = c.hungUp)
    (hwritten : c'.toDaemon.written = c.toDaemon.written)
    (hread : c'.toClient.read = c.toClient.read) : InCall t o c' done call := by
  cases call with
  | idle => exact Synced.congr h hhungUp hwritten hread
  | sending r left =>
    obtain ⟨hleft, sent, hsent, hsynced⟩ := h
    exact ⟨hleft, sent, hsent, hsynced.congr hhungUp hwritten hread⟩
  | receiving r chunks => exact ⟨h.1, h.2.congr hhungUp hwritten hread⟩

theorem hungUp (h : InCall t o c done call) : c.hungUp = false := by
  cases call with
  | idle => exact Synced.hungUp h
  | sending r left =>
    obtain ⟨-, sent, -, hsynced⟩ := h
    exact hsynced.hungUp
  | receiving r chunks => exact h.2.hungUp

end InCall

/-- The bytes of a part of a request are fewer than its own. -/
theorem length_lt_of_append {r : Request} {sent left : List Byte} (hleft : left ≠ [])
    (h : sent ++ left = packRequest r) : sent.length < requestSize := by
  have hlen := congrArg List.length h
  rw [List.length_append, length_packRequest] at hlen
  have := List.length_pos_iff.mpr hleft
  omega

/-! ## What others do to the client's connection -/

theorem read_eq (n : ℕ) : (c.read t o n).toClient = c.toClient ∧
    (c.read t o n).hungUp = c.hungUp ∧
    (c.read t o n).toDaemon.written = c.toDaemon.written := by
  by_cases heq : c.read t o n = c
  · rw [heq]
    exact ⟨rfl, rfl, rfl⟩
  · obtain ⟨_, _, hclient, hhungUp, hwritten, _⟩ := read_changed heq
    exact ⟨hclient, hhungUp, hwritten⟩

theorem write_eq (n : ℕ) : (c.write n).toDaemon = c.toDaemon ∧ (c.write n).hungUp = c.hungUp ∧
    (c.write n).toClient.read = c.toClient.read := by
  unfold Connection.write
  split
  · split
    · exact ⟨rfl, rfl, rfl⟩
    · exact ⟨rfl, rfl, rfl⟩
  · exact ⟨rfl, rfl, rfl⟩

theorem readEnds_eq : c.readEnds.toDaemon = c.toDaemon ∧ c.readEnds.toClient = c.toClient ∧
    c.readEnds.hungUp = c.hungUp := by
  unfold Connection.readEnds
  split
  · split
    · exact ⟨rfl, rfl, rfl⟩
    · exact ⟨rfl, rfl, rfl⟩
  · exact ⟨rfl, rfl, rfl⟩

/-- **The daemon and the other clients leave alone what the client wrote and read**, and its end of
the connection. -/
theorem onConn_of_clientOf {e : ServerEvent} {id : ℕ} (he : e.clientOf ≠ some id) :
    (e.onConn t o id c).hungUp = c.hungUp ∧
      (e.onConn t o id c).toDaemon.written = c.toDaemon.written ∧
      (e.onConn t o id c).toClient.read = c.toClient.read := by
  have hite : ∀ i (c' : Connection), (i = id → c'.hungUp = c.hungUp ∧
      c'.toDaemon.written = c.toDaemon.written ∧ c'.toClient.read = c.toClient.read) →
      (if i = id then c' else c).hungUp = c.hungUp ∧
        (if i = id then c' else c).toDaemon.written = c.toDaemon.written ∧
        (if i = id then c' else c).toClient.read = c.toClient.read := by
    intro i c' hc'
    split
    · rename_i hi
      exact hc' hi
    · exact ⟨rfl, rfl, rfl⟩
  cases e with
  | connect | interrupt => exact ⟨rfl, rfl, rfl⟩
  | send i more | receive i n | hangUp i =>
    apply hite
    rintro rfl
    exact absurd rfl he
  | read i n =>
    apply hite
    intro _
    obtain ⟨hclient, hhungUp, hwritten⟩ := read_eq (t := t) (o := o) (c := c) n
    exact ⟨hhungUp, hwritten, by rw [hclient]⟩
  | write i n =>
    apply hite
    intro _
    obtain ⟨hdaemon, hhungUp, hread⟩ := write_eq (c := c) n
    exact ⟨hhungUp, by rw [hdaemon], hread⟩
  | readEnds i =>
    apply hite
    intro _
    obtain ⟨hdaemon, hclient, hhungUp⟩ := readEnds_eq (c := c)
    exact ⟨hhungUp, by rw [hdaemon], by rw [hclient]⟩

/-- A step of the daemon or of another client keeps the client's connection in step with its
call. -/
theorem InCall.step {s : Server} {id : ℕ} {call : ClientCall} {e : ServerEvent}
    (h : InCall t o c done call) (hc : s.conns[id]? = some c) (he : e.clientOf ≠ some id) :
    ∃ c', (s.step t o e).conns[id]? = some c' ∧ InCall t o c' done call := by
  rcases Server.conn_step (t := t) (o := o) hc e with hstep | hstep
  · exact ⟨_, hstep, h.congr rfl rfl rfl⟩
  · obtain ⟨hhungUp, hwritten, hread⟩ := onConn_of_clientOf (t := t) (o := o) (c := c) he
    exact ⟨_, hstep, h.congr hhungUp hwritten hread⟩

theorem Server.ConnsOk.update {s : Server} (h : s.ConnsOk t o) (id : ℕ)
    {f : Connection → Connection} (hf : ∀ c : Connection, c.Ok t o → (f c).Ok t o) :
    (s.update id f).ConnsOk t o := by
  intro c' hmem
  obtain ⟨i, hc'⟩ := List.mem_iff_getElem?.mp hmem
  rw [Server.getElem?_conns_update, Option.map_eq_some_iff] at hc'
  obtain ⟨c, hc, rfl⟩ := hc'
  have hok := h c (List.mem_of_getElem? hc)
  split
  · exact hf c hok
  · exact hok

/-! ## The calls of a run -/

/-- A call read nothing but bytes of the daemon's answer to its own request, and returned, if it
did, what that answer says. -/
def CallEnd.Own (t : Tables) (x : CallEnd) : Prop :=
  ∃ verdict ruleId, daemonAnswer t x.request.srcIp x.request.dstIp x.request.protocol =
      some (verdict, ruleId) ∧ x.received <+: [verdict, ruleId] ∧
    (x.result = none ∨
      x.received = [verdict, ruleId] ∧ x.result = some (decide (verdict = 1), ruleId))

theorem exists_answerOf (hdef : Defined t o) (r : Request) :
    ∃ verdict ruleId, daemonAnswer t r.srcIp r.dstIp r.protocol = some (verdict, ruleId) ∧
      answerOf t o r = [verdict, ruleId] := by
  have hresp := respond_packRequest t o r
  cases hanswer : daemonAnswer t r.srcIp r.dstIp r.protocol with
  | none =>
    rw [hanswer] at hresp
    exact absurd hresp (hdef _)
  | some resp =>
    rw [hanswer] at hresp
    exact ⟨resp.1, resp.2, rfl, by rw [answerOf, hresp]; rfl⟩

namespace CallEnd

/-- A call that raised has read part of its own answer. -/
theorem own_of_raised (hdef : Defined t o) {r : Request} {sock : Option ℕ} {got : List Byte}
    (h : got <+: answerOf t o r) : (⟨r, sock, got, none⟩ : CallEnd).Own t := by
  obtain ⟨verdict, ruleId, hanswer, hbytes⟩ := exists_answerOf hdef r
  exact ⟨verdict, ruleId, hanswer, hbytes ▸ h, .inl rfl⟩

/-- A call that returned has read its whole answer. -/
theorem own_of_returned (hdef : Defined t o) {r : Request} {sock : Option ℕ} {got : List Byte}
    (h : got = answerOf t o r) : (⟨r, sock, got, unpackResponse got⟩ : CallEnd).Own t := by
  obtain ⟨verdict, ruleId, hanswer, hbytes⟩ := exists_answerOf hdef r
  rw [hbytes] at h
  subst h
  exact ⟨verdict, ruleId, hanswer, List.prefix_refl _, .inr ⟨rfl, rfl⟩⟩

end CallEnd

namespace Session

variable {s : Session}

theorem ok_init : Session.init.Ok t o where
  conns := Server.ok_init.conns
  own := by simp [init]
  noSock := fun _ => rfl

/-- The socket is set while the client is in a call. -/
theorem Ok.exists_sock (h : s.Ok t o) (hcall : s.client.call ≠ .idle) :
    ∃ id, s.client.sock = some id := by
  cases hsock : s.client.sock with
  | none => exact absurd (h.noSock hsock) hcall
  | some id => exact ⟨id, rfl⟩

theorem Ok.isAllowed (h : s.Ok t o) (r : Request) (connects : Bool) :
    (s.isAllowed r connects).1.Ok t o := by
  have hstart : ∀ c done, Synced t o c done [] [] →
      InCall t o c done (.sending r (packRequest r)) := by
    intro c done hc
    have hne : packRequest r ≠ [] := by
      intro hnil
      have hlen := length_packRequest r
      rw [hnil] at hlen
      cases hlen
    exact ⟨hne, [], rfl, hc⟩
  unfold Session.isAllowed
  split
  · rename_i id hidle hsock
    obtain ⟨c, done, hc, hincall⟩ := h.own id hsock
    rw [hidle] at hincall
    refine ⟨h.conns, ?_, by simp⟩
    intro id' hid'
    obtain rfl := Option.some.inj hid'
    exact ⟨c, done, hc, hstart c done hincall⟩
  · rename_i hidle hsock
    split
    · rename_i hconnects
      refine ⟨h.conns.step .connect, ?_, by simp⟩
      intro id' hid'
      obtain rfl := Option.some.inj hid'
      refine ⟨.new, [], ?_, ?_⟩
      · simp [Server.accept, hconnects.2]
      · exact hstart _ [] ⟨rfl, rfl, rfl⟩
    · exact h
  · exact h

theorem Ok.sends (h : s.Ok t o) (n : ℕ) : (s.sends n).Ok t o := by
  unfold Session.sends
  split
  · rename_i r left id hcall hsock
    refine ⟨h.conns.update id fun c hc => hc.send _, ?_, by simp⟩
    intro id' hid'
    obtain rfl := Option.some.inj hid'
    obtain ⟨c, done, hc, hincall⟩ := h.own id hsock
    rw [hcall] at hincall
    obtain ⟨-, sent, hsent, hsynced⟩ := hincall
    refine ⟨c.send (left.take n), done, by simp [Server.getElem?_conns_update, hc], ?_⟩
    have hmore : Synced t o (c.send (left.take n)) done (sent ++ left.take n) [] := by
      rw [Connection.send, if_neg (by simp [hsynced.hungUp])]
      exact ⟨hsynced.hungUp, by simp [hsynced.written], hsynced.read⟩
    have hall : (sent ++ left.take n) ++ left.drop n = packRequest r := by
      rw [List.append_assoc, List.take_append_drop, hsent]
    split
    · rename_i hdone
      rw [hdone, List.append_nil] at hall
      exact ⟨by decide, hall ▸ hmore⟩
    · rename_i hleft
      exact ⟨hleft, _, hall, hmore⟩
  · exact h

/-- `recv` within a call: what was read is of the answer to this call, and a complete answer is
that answer. -/
theorem Ok.receives (h : s.Ok t o) (n : ℕ) : (s.receives n).1.Ok t o ∧
    (Defined t o → ∀ x ∈ (s.receives n).2, x.Own t) := by
  unfold Session.receives
  split
  · rename_i r chunks id c₀ hcall hsock hown
    simp only
    split
    · exact ⟨h, by simp⟩
    · generalize hcount : min n (responseSize - chunks.length) = count
      obtain ⟨c, done, hc, hincall⟩ := h.own id hsock
      obtain rfl : c = c₀ := by
        rw [Session.own, hsock] at hown
        exact Option.some.inj (hc.symm.trans hown)
      rw [hcall] at hincall
      obtain ⟨hshort, hsynced⟩ := hincall
      have hok := h.conns c (List.mem_of_getElem? hc)
      have hconns := h.conns.update id fun c hc => hc.receive count
      have hmore : Synced t o (c.receive count) done (packRequest r)
          (chunks ++ c.toClient.unread.take count) := by
        rw [Connection.receive, if_neg (by simp [hsynced.hungUp])]
        exact ⟨hsynced.hungUp, hsynced.written, by simp [hsynced.read]⟩
      have hat : (s.server.update id fun c => c.receive count).conns[id]? =
          some (c.receive count) := by
        simp [Server.getElem?_conns_update, hc]
      split
      · rename_i hlt
        refine ⟨⟨hconns, ?_, by simp⟩, by simp⟩
        intro id' hid'
        obtain rfl := Option.some.inj hid'
        exact ⟨_, done, hat, hlt, hmore⟩
      · rename_i hfull
        have hwhole : chunks ++ c.toClient.unread.take count = answerOf t o r := by
          have hprefix : chunks ++ c.toClient.unread.take count <+: answerOf t o r :=
            ((List.prefix_append_right_inj chunks).mpr (List.take_prefix _ _)).trans
              (hsynced.own_answer hok)
          have hle := length_answerOf_le (t := t) (o := o) r
          exact hprefix.eq_of_length_le (by omega)
        refine ⟨⟨hconns, ?_, by simp⟩, ?_⟩
        · intro id' hid'
          obtain rfl := Option.some.inj hid'
          refine ⟨_, done ++ [r], hat, hmore.hungUp, ?_, ?_⟩
          · rw [hmore.written]
            simp
          · rw [hmore.read, hwhole]
            simp
        · intro hdef x hx
          obtain rfl := List.mem_singleton.mp hx
          exact CallEnd.own_of_returned hdef hwhole
  · exact ⟨h, by simp⟩

/-- A call that raises has read nothing but a part of its own answer. -/
theorem Ok.fails (h : s.Ok t o) : s.fails.1.Ok t o ∧
    (Defined t o → ∀ x ∈ s.fails.2, x.Own t) := by
  unfold Session.fails
  split
  · exact ⟨h, by simp⟩
  · refine ⟨⟨h.conns, by simp, by simp⟩, ?_⟩
    intro hdef x hx
    obtain rfl := List.mem_singleton.mp hx
    exact CallEnd.own_of_raised hdef (List.nil_prefix)
  · rename_i r chunks hcall
    refine ⟨⟨h.conns, by simp, by simp⟩, ?_⟩
    intro hdef x hx
    obtain rfl := List.mem_singleton.mp hx
    obtain ⟨id, hsock⟩ := h.exists_sock (by simp [hcall])
    obtain ⟨c, done, hc, hincall⟩ := h.own id hsock
    rw [hcall] at hincall
    exact CallEnd.own_of_raised hdef ((List.prefix_append ..).trans
      (hincall.2.own_answer (h.conns c (List.mem_of_getElem? hc))))

theorem Ok.close (h : s.Ok t o) : s.close.Ok t o := by
  unfold Session.close
  split
  · exact ⟨h.conns.update _ fun c hc => hc.hangUp, by simp, by simp⟩
  · exact h

/-- A step of the daemon, or of another client. -/
theorem Ok.daemon (h : s.Ok t o) {e : ServerEvent}
    (he : ¬ (e.clientOf.isSome ∧ e.clientOf = s.client.sock)) :
    (⟨s.server.step t o e, s.client⟩ : Session).Ok t o := by
  refine ⟨h.conns.step e, ?_, h.noSock⟩
  intro id hsock
  obtain ⟨c, done, hc, hincall⟩ := h.own id hsock
  have hother : e.clientOf ≠ some id := by
    intro hid
    exact he ⟨by rw [hid]; rfl, by rw [hid]; exact hsock.symm⟩
  obtain ⟨c', hc', hincall'⟩ := hincall.step hc hother
  exact ⟨c', done, hc', hincall'⟩

theorem Ok.breaks (h : s.Ok t o) (id : ℕ) :
    (⟨s.server.update id fun c => { c with thread := .closed }, s.client⟩ : Session).Ok t o := by
  refine ⟨h.conns.update id fun c hc => hc.close, ?_, h.noSock⟩
  intro id' hsock
  obtain ⟨c, done, hc, hincall⟩ := h.own id' hsock
  simp only [Server.getElem?_conns_update, hc, Option.map_some]
  refine ⟨_, done, rfl, ?_⟩
  split
  · exact hincall.congr rfl rfl rfl
  · exact hincall

/-- **Every event keeps the client in step with the daemon**, and a call that ends has read nothing
but its own answer. -/
theorem Ok.step (h : s.Ok t o) (e : SessionEvent) : (s.step t o e).1.Ok t o ∧
    (Defined t o → ∀ x ∈ (s.step t o e).2, x.Own t) := by
  cases e with
  | daemon e =>
    unfold Session.step
    simp only
    split
    · exact ⟨h, by simp⟩
    · rename_i he
      exact ⟨h.daemon he, by simp⟩
  | restart =>
    unfold Session.step
    simp only
    split
    · exact ⟨h, by simp⟩
    · exact ⟨⟨h.conns, h.own, h.noSock⟩, by simp⟩
  | breaks id => exact ⟨h.breaks id, by simp [Session.step]⟩
  | call r connects =>
    refine ⟨h.isAllowed r connects, ?_⟩
    intro hdef x hx
    change x ∈ (s.isAllowed r connects).2 at hx
    unfold Session.isAllowed at hx
    split at hx
    · cases hx
    · split at hx
      · cases hx
      · obtain rfl := List.mem_singleton.mp hx
        exact CallEnd.own_of_raised hdef (List.nil_prefix)
    · cases hx
  | sends n => exact ⟨h.sends n, by simp [Session.step]⟩
  | receives n => exact h.receives n
  | fails => exact h.fails
  | close => exact ⟨h.close, by simp [Session.step]⟩

end Session

/-! ## The order of the calls -/

namespace Session

variable {s : Session} {e : SessionEvent}

/-- A call is in progress or has ended once it was made. -/
theorem request_step (s : Session) (e : SessionEvent) :
    (s.step t o e).2.map CallEnd.request ++ (s.step t o e).1.client.call.request?.toList =
      s.client.call.request?.toList ++ s.called e := by
  cases e with
  | daemon e =>
    simp only [step, called]
    split <;> simp
  | restart =>
    simp only [step, called]
    split <;> simp
  | breaks id => simp [step, called]
  | call r connects =>
    simp only [step, called, isAllowed]
    split
    · rename_i hidle _
      simp [hidle, ClientCall.request?]
    · rename_i hidle _
      split <;> simp [hidle, ClientCall.request?]
    · rename_i hnot₁ hnot₂
      have hbusy : s.client.call ≠ .idle := by
        intro hidle
        cases hsock : s.client.sock with
        | none => exact hnot₂ hidle hsock
        | some id => exact hnot₁ id hidle hsock
      simp [hbusy]
  | sends n =>
    simp only [step, called, sends]
    split
    · rename_i hcall _
      rw [hcall]
      simp only
      split <;> simp [ClientCall.request?]
    · simp
  | receives n =>
    simp only [step, called, receives]
    split
    · rename_i hcall _ _
      split
      · simp
      · split <;> simp [hcall, ClientCall.request?]
    · simp
  | fails =>
    simp only [step, called, fails]
    split
    · simp
    · rename_i hcall
      simp [hcall, ClientCall.request?]
    · rename_i hcall
      simp [hcall, ClientCall.request?]
  | close =>
    simp only [step, called, close]
    split
    · rename_i hidle _
      simp [hidle, ClientCall.request?]
    · simp

/-- A response is complete when `recv` has filled it: no chunk is longer than what is missing. -/
theorem exists_answer_of_full {chunks unread : List Byte} {n : ℕ}
    (hsome : unread.take (min n (responseSize - chunks.length)) ≠ [])
    (hfull : ¬ (chunks ++ unread.take (min n (responseSize - chunks.length))).length <
      responseSize) : ∃ verdict ruleId,
      chunks ++ unread.take (min n (responseSize - chunks.length)) = [verdict, ruleId] := by
  apply List.length_eq_two.mp
  have htake := List.length_take_le (min n (responseSize - chunks.length)) unread
  have hmin := min_le_right n (responseSize - chunks.length)
  have hpos := List.length_pos_iff.mpr hsome
  rw [List.length_append] at hfull ⊢
  change _ = responseSize
  omega

/-- At most one call ends at a step. It used the client's socket, and after an error this is
dropped. -/
theorem ends_step (s : Session) (e : SessionEvent) : (s.step t o e).2 = [] ∨
    ∃ x, (s.step t o e).2 = [x] ∧ x.sock = s.client.sock ∧
      (x.result = none → (s.step t o e).1.client.sock = none) := by
  cases e with
  | daemon e =>
    left
    simp only [step]
    split <;> rfl
  | restart =>
    left
    simp only [step]
    split <;> rfl
  | breaks id => exact .inl rfl
  | sends n => exact .inl rfl
  | close => exact .inl rfl
  | call r connects =>
    simp only [step, isAllowed]
    split
    · exact .inl rfl
    · rename_i hsock
      split
      · exact .inl rfl
      · exact .inr ⟨_, rfl, hsock.symm, fun _ => hsock⟩
    · exact .inl rfl
  | receives n =>
    simp only [step, receives]
    split
    · rename_i r chunks id c hcall hsock hown
      split
      · exact .inl rfl
      · split
        · exact .inl rfl
        · rename_i hsome hfull
          refine .inr ⟨_, rfl, hsock.symm, ?_⟩
          intro hnone
          obtain ⟨verdict, ruleId, heq⟩ := exists_answer_of_full hsome hfull
          rw [heq] at hnone
          cases hnone
    · exact .inl rfl
  | fails =>
    simp only [step, fails]
    split
    · exact .inl rfl
    · exact .inr ⟨_, rfl, rfl, fun _ => rfl⟩
    · exact .inr ⟨_, rfl, rfl, fun _ => rfl⟩

/-- The client keeps its socket, drops it, or makes a new connection; connections stay. -/
theorem sock_step (s : Session) (e : SessionEvent) :
    ((s.step t o e).1.client.sock = s.client.sock ∨ (s.step t o e).1.client.sock = none ∨
      s.client.sock = none ∧ (s.step t o e).1.client.sock = some s.server.conns.length ∧
        (s.step t o e).1.server.conns.length = s.server.conns.length + 1) ∧
    s.server.conns.length ≤ (s.step t o e).1.server.conns.length := by
  have hupdate : ∀ id f, (s.server.update id f).conns.length = s.server.conns.length := by
    intro id f
    simp [Server.update]
  cases e with
  | daemon e =>
    simp only [step]
    split
    · exact ⟨.inl rfl, le_refl _⟩
    · exact ⟨.inl rfl, Server.length_conns_le_step s.server e⟩
  | restart =>
    simp only [step]
    split <;> exact ⟨.inl rfl, le_refl _⟩
  | breaks id => exact ⟨.inl rfl, (hupdate ..).ge⟩
  | call r connects =>
    simp only [step, isAllowed]
    split
    · rename_i hsock
      exact ⟨.inl hsock.symm, le_refl _⟩
    · rename_i hsock
      split
      · rename_i hconnects
        have hlen : s.server.accept.conns.length = s.server.conns.length + 1 := by
          simp [Server.accept, hconnects.2]
        exact ⟨.inr (.inr ⟨hsock, rfl, hlen⟩), hlen ▸ Nat.le_succ _⟩
      · exact ⟨.inl rfl, le_refl _⟩
    · exact ⟨.inl rfl, le_refl _⟩
  | sends n =>
    simp only [step, sends]
    split
    · rename_i hsock
      exact ⟨.inl hsock.symm, (hupdate ..).ge⟩
    · exact ⟨.inl rfl, le_refl _⟩
  | receives n =>
    simp only [step, receives]
    split
    · rename_i hsock _
      split
      · exact ⟨.inl rfl, le_refl _⟩
      · split <;> exact ⟨.inl hsock.symm, (hupdate ..).ge⟩
    · exact ⟨.inl rfl, le_refl _⟩
  | fails =>
    simp only [step, fails]
    split
    · exact ⟨.inl rfl, le_refl _⟩
    · exact ⟨.inr (.inl rfl), le_refl _⟩
    · exact ⟨.inr (.inl rfl), le_refl _⟩
  | close =>
    simp only [step, close]
    split
    · exact ⟨.inr (.inl rfl), (hupdate ..).ge⟩
    · exact ⟨.inl rfl, le_refl _⟩

end Session

/-- A connection on which a call has raised is not used again. -/
def CallEnd.Fresh (x y : CallEnd) : Prop :=
  x.result = none → ∀ id, x.sock = some id → y.sock ≠ some id

/-- The sockets that calls have used: none is new, and none on which a call has raised is the
client's. -/
structure Session.Used (s : Session) (ends : List CallEnd) : Prop where
  fresh : ends.Pairwise CallEnd.Fresh
  old : ∀ x ∈ ends, ∀ id, x.sock = some id → id < s.server.conns.length
  dropped : ∀ x ∈ ends, x.result = none → ∀ id, x.sock = some id → s.client.sock ≠ some id
  own : ∀ id, s.client.sock = some id → id < s.server.conns.length

/-- **After a call has raised, the next connection is a new one.** -/
theorem Session.Used.step {s : Session} {ends : List CallEnd} (h : s.Used ends) (e : SessionEvent) :
    (s.step t o e).1.Used (ends ++ (s.step t o e).2) := by
  obtain ⟨hsock, hlen⟩ := sock_step (t := t) (o := o) s e
  have hold : ∀ x ∈ ends ++ (s.step t o e).2, ∀ id, x.sock = some id →
      id < s.server.conns.length := by
    intro x hx id hid
    rcases List.mem_append.mp hx with hx | hx
    · exact h.old x hx id hid
    · rcases ends_step (t := t) (o := o) s e with hnil | ⟨y, hy, hown, -⟩
      · simp [hnil] at hx
      · rw [hy, List.mem_singleton] at hx
        subst hx
        exact h.own id (hown ▸ hid)
  -- a socket on which a call raised is dropped then, and a new one has a new number
  have hdropped : ∀ x ∈ ends ++ (s.step t o e).2, x.result = none → ∀ id, x.sock = some id →
      (s.step t o e).1.client.sock ≠ some id := by
    intro x hx hraised id hid hcontra
    have hlt := hold x hx id hid
    rcases hsock with hsame | hnone | ⟨-, hnew, -⟩
    · rw [hsame] at hcontra
      rcases List.mem_append.mp hx with hx | hx
      · exact h.dropped x hx hraised id hid hcontra
      · rcases ends_step (t := t) (o := o) s e with hnil | ⟨y, hy, -, hdrop⟩
        · simp [hnil] at hx
        · rw [hy, List.mem_singleton] at hx
          subst hx
          rw [← hsame, hdrop hraised] at hcontra
          cases hcontra
    · rw [hnone] at hcontra
      cases hcontra
    · obtain rfl := Option.some.inj (hnew.symm.trans hcontra)
      exact lt_irrefl _ hlt
  refine ⟨?_, fun x hx id hid => (hold x hx id hid).trans_le hlen, hdropped, ?_⟩
  · rcases ends_step (t := t) (o := o) s e with hnil | ⟨y, hy, hown, -⟩
    · rw [hnil, List.append_nil]
      exact h.fresh
    · rw [hy, List.pairwise_append]
      refine ⟨h.fresh, List.pairwise_singleton .., ?_⟩
      intro x hx y' hy' hraised id hid
      obtain rfl := List.mem_singleton.mp hy'
      rw [hown]
      exact h.dropped x hx hraised id hid
  · intro id hid
    rcases hsock with hsame | hnone | ⟨-, hnew, hnext⟩
    · exact (h.own id (hsame ▸ hid)).trans_le hlen
    · rw [hnone] at hid
      cases hid
    · obtain rfl := Option.some.inj (hnew.symm.trans hid)
      omega

/-! ## How long a call takes -/

/-- What is left of the request of a call. -/
def ClientCall.left : ClientCall → List Byte
  | .sending _ left => left
  | _ => []

/-- What a call has of its response. -/
def ClientCall.chunks : ClientCall → List Byte
  | .receiving _ chunks => chunks
  | _ => []

/-- The moves that a call still needs on its connection: the bytes that the client has to send and
the thread to read, and those that the thread has to write and the client to receive. -/
def Connection.work (c : Connection) (call : ClientCall) : ℕ :=
  2 * call.left.length + c.toDaemon.unread.length +
    (responseSize - (call.chunks.length + c.toClient.unread.length)) +
    (responseSize - call.chunks.length)

namespace Session

/-- The moves that the call of the client still needs. -/
def work (s : Session) : ℕ :=
  match s.own with
  | some c => c.work s.client.call
  | none => 0

/-- A step of the client within a call, or of the thread that serves it. -/
def isMove (s : Session) : SessionEvent → Bool
  | .sends _ | .receives _ => true
  | .daemon e => e.threadOf.isSome && e.threadOf = s.client.sock
  | _ => false

/-- The client or its thread moves something. -/
def takesTurn (t : Tables) (o : ByteOrder) (s : Session) (e : SessionEvent) : Bool :=
  s.isMove e && (s.step t o e).1.own ≠ s.own

/-- The turns of the client and its thread in a run. -/
def turns (t : Tables) (o : ByteOrder) (s : Session) (es : List SessionEvent) : ℕ :=
  (Run.observed (step t o) (fun s e => if s.takesTurn t o e then [e] else []) s es).length

end Session

theorem work_read {call : ClientCall} {n : ℕ} (hne : c.read t o n ≠ c) :
    (c.read t o n).work call + 1 ≤ c.work call := by
  obtain ⟨_, _, hclient, _, hwritten, _, hlt⟩ := read_changed hne
  have hlen := congrArg List.length hwritten
  rw [Pipe.written, Pipe.written, List.length_append, List.length_append] at hlen
  unfold Connection.work
  rw [hclient]
  omega

theorem work_write {call : ClientCall} {n : ℕ} (hne : c.write n ≠ c)
    (hle : call.chunks.length + (c.write n).toClient.unread.length ≤ responseSize) :
    (c.write n).work call + 1 ≤ c.work call := by
  obtain ⟨_, _, hdaemon, _, _, hlt⟩ := write_changed hne
  obtain ⟨-, -, hread⟩ := write_eq (c := c) n
  rw [Pipe.written, Pipe.written, List.length_append, List.length_append, hread] at hlt
  unfold Connection.work
  rw [hdaemon]
  omega

theorem work_send {r : Request} {left : List Byte} (hhungUp : c.hungUp = false) (n : ℕ) :
    (c.send (left.take n)).work
        (if left.drop n = [] then .receiving r [] else .sending r (left.drop n)) +
      (if left.take n = [] then 0 else 1) ≤ c.work (.sending r left) := by
  have hsend : c.send (left.take n) = { c with toDaemon := c.toDaemon.push (left.take n) } :=
    if_neg (by simp [hhungUp])
  have hlen := congrArg List.length (List.take_append_drop n left)
  rw [List.length_append] at hlen
  -- a byte that is handed over counts once instead of twice: the thread still has to read it
  rw [hsend]
  split
  · rename_i hdone
    rw [hdone, List.length_nil] at hlen
    simp only [Connection.work, ClientCall.left, ClientCall.chunks, Pipe.unread_push,
      List.length_append, List.length_nil]
    split
    · omega
    · rename_i hsome
      have := List.length_pos_iff.mpr hsome
      omega
  · simp only [Connection.work, ClientCall.left, ClientCall.chunks, Pipe.unread_push,
      List.length_append, List.length_nil]
    split
    · omega
    · rename_i hsome
      have := List.length_pos_iff.mpr hsome
      omega

theorem work_receive {r : Request} {chunks : List Byte} {count : ℕ} (hhungUp : c.hungUp = false)
    (hchunk : c.toClient.unread.take count ≠ [])
    (hlt : (chunks ++ c.toClient.unread.take count).length < responseSize) :
    (c.receive count).work (.receiving r (chunks ++ c.toClient.unread.take count)) + 1 ≤
      c.work (.receiving r chunks) := by
  have hreceive : c.receive count = { c with toClient := c.toClient.take count } :=
    if_neg (by simp [hhungUp])
  have hlen := congrArg List.length (List.take_append_drop count c.toClient.unread)
  have hpos := List.length_pos_iff.mpr hchunk
  rw [List.length_append] at hlen hlt
  rw [hreceive]
  simp only [Connection.work, ClientCall.left, ClientCall.chunks, Pipe.take, List.length_append]
  omega

namespace InCall

variable {call : ClientCall}

/-- What the client has and may read of the answer is no more than an answer. -/
theorem answer_le (h : InCall t o c done call) (hok : c.Ok t o) :
    call.chunks.length + c.toClient.unread.length ≤ responseSize := by
  cases call with
  | idle =>
    have hnil := Synced.nothing_yet h hok (by decide)
    rw [List.nil_append] at hnil
    simp [ClientCall.chunks, hnil]
  | sending r left =>
    obtain ⟨hleft, sent, hsent, hsynced⟩ := h
    have hnil := hsynced.nothing_yet hok (length_lt_of_append hleft hsent)
    rw [List.nil_append] at hnil
    simp [ClientCall.chunks, hnil]
  | receiving r chunks =>
    have hle := (h.2.own_answer hok).length_le
    rw [List.length_append] at hle
    exact hle.trans (length_answerOf_le r)

/-- The thread has read what the client sent in earlier calls. -/
theorem unread_le (hdef : Defined t o) {sent got : List Byte} (h : Synced t o c done sent got)
    (hok : c.Ok t o) : c.toDaemon.unread.length ≤ sent.length := by
  have htwo : ∀ bufs : List (List Byte),
      (bufs.flatMap fun buf => (respond t o buf).getD []).length = responseSize * bufs.length := by
    intro bufs
    induction bufs with
    | nil => rfl
    | cons buf bufs ih =>
      rw [List.flatMap_cons, List.length_append, ih, List.length_cons, Nat.mul_succ]
      cases hresp : respond t o buf with
      | none => exact absurd hresp (hdef buf)
      | some resp =>
        rw [Option.getD_some, length_of_respond hresp, Nat.add_comm]
  have hanswers := hok.written_answers_read.length_le
  rw [answers, htwo, Pipe.written, h.read, List.length_append, List.length_append] at hanswers
  have hdone : (done.flatMap (answerOf t o)).length = responseSize * done.length := by
    have h := htwo (done.map packRequest)
    rwa [List.flatMap_map, List.length_map] at h
  have hpacked : (done.flatMap packRequest).length = requestSize * done.length := by
    simp [List.length_flatMap, Nat.mul_comm]
  have hsize := Pipe.length_blocks_add requestSize c.toDaemon.read
  have hlen := congrArg List.length h.written
  rw [Pipe.written, List.length_append, List.length_append, hpacked] at hlen
  have hle : done.length ≤ (Pipe.blocks requestSize c.toDaemon.read).length := by
    rw [hdone] at hanswers
    simp only [responseSize] at hanswers
    omega
  have hmul := Nat.mul_le_mul_left requestSize hle
  omega

/-- **A call needs at most 30 moves.** -/
theorem work_le (hdef : Defined t o) (h : InCall t o c done call) (hok : c.Ok t o) :
    c.work call ≤ 30 := by
  have hresp : responseSize = 2 := rfl
  unfold Connection.work
  cases call with
  | idle =>
    have hunread := unread_le hdef h hok
    simp only [ClientCall.left, ClientCall.chunks, List.length_nil] at hunread ⊢
    omega
  | sending r left =>
    obtain ⟨-, sent, hsent, hsynced⟩ := h
    have hunread := unread_le hdef hsynced hok
    have hlen := congrArg List.length hsent
    rw [List.length_append, length_packRequest, requestSize] at hlen
    simp only [ClientCall.left, ClientCall.chunks, List.length_nil]
    omega
  | receiving r chunks =>
    have hunread := unread_le hdef h.2 hok
    rw [length_packRequest, requestSize] at hunread
    simp only [ClientCall.left, ClientCall.chunks, List.length_nil]
    omega

end InCall

/-- What neither the client of a connection nor its thread does leaves its bytes alone. -/
theorem pipes_onConn {e : ServerEvent} {id : ℕ} (hclient : e.clientOf ≠ some id)
    (hthread : e.threadOf ≠ some id) : (e.onConn t o id c).toDaemon = c.toDaemon ∧
      (e.onConn t o id c).toClient = c.toClient := by
  cases e with
  | connect | interrupt => exact ⟨rfl, rfl⟩
  | send i more | receive i n | hangUp i =>
    have hi : i ≠ id := by
      rintro rfl
      exact hclient rfl
    simp [ServerEvent.onConn, hi]
  | read i n | write i n =>
    have hi : i ≠ id := by
      rintro rfl
      exact hthread rfl
    simp [ServerEvent.onConn, hi]
  | readEnds i =>
    obtain ⟨hdaemon, htoClient, -⟩ := readEnds_eq (c := c)
    simp only [ServerEvent.onConn]
    split
    · exact ⟨hdaemon, htoClient⟩
    · exact ⟨rfl, rfl⟩

namespace Session

variable {s : Session} {id : ℕ}

theorem own_of_sock (hsock : s.client.sock = some id) : s.own = s.server.conns[id]? := by
  rw [own, hsock]
  rfl

theorem work_of_own (hown : s.own = some c) : s.work = c.work s.client.call := by
  rw [work, hown]

/-- The client's end of the connection is its own. -/
theorem clientOf_ne {e : ServerEvent} (hsock : s.client.sock = some id)
    (he : ¬ (e.clientOf.isSome ∧ e.clientOf = s.client.sock)) : e.clientOf ≠ some id := by
  intro hid
  exact he ⟨by rw [hid]; rfl, by rw [hid]; exact hsock.symm⟩

/-- A step that does not move the call away from its end: what it moves on the connection, it need
not move again. -/
structure Pays (s s' : Session) : Prop where
  le : s'.work ≤ s.work
  lt : s'.own ≠ s.own → s'.work + 1 ≤ s.work

theorem Pays.refl (s : Session) : Pays s s := ⟨le_refl _, fun hne => absurd rfl hne⟩

theorem Pays.of_own {s s' : Session} {c c' : Connection} (hown : s.own = some c)
    (hown' : s'.own = some c') (hle : c'.work s'.client.call ≤ c.work s.client.call)
    (hlt : c' ≠ c → c'.work s'.client.call + 1 ≤ c.work s.client.call) : Pays s s' := by
  refine ⟨?_, ?_⟩
  · rwa [work_of_own hown, work_of_own hown']
  · intro hne
    rw [work_of_own hown, work_of_own hown']
    apply hlt
    rintro rfl
    exact hne (hown'.trans hown.symm)

/-- What the thread of a connection reads or writes during a call brings the call closer to its
end. -/
theorem work_onConn {id : ℕ} {call : ClientCall} {e : ServerEvent} (hthread : e.threadOf = some id)
    (hok : (e.onConn t o id c).Ok t o) (h : InCall t o (e.onConn t o id c) done call)
    (hne : e.onConn t o id c ≠ c) : (e.onConn t o id c).work call + 1 ≤ c.work call := by
  cases e with
  | read i n =>
    obtain rfl := Option.some.inj hthread
    simp only [ServerEvent.onConn, if_true] at hne ⊢
    exact work_read hne
  | write i n =>
    -- the thread writes no more than the answer that the client waits for
    obtain rfl := Option.some.inj hthread
    have hle := h.answer_le hok
    simp only [ServerEvent.onConn, if_true] at hne hle ⊢
    exact work_write hne hle
  | _ => cases hthread

/-- A step of the daemon, or of another client, during a call. -/
theorem pays_daemon (h : s.Ok t o) (hcall : s.client.call ≠ .idle) {e : ServerEvent}
    (he : ¬ (e.clientOf.isSome ∧ e.clientOf = s.client.sock)) :
    (⟨s.server.step t o e, s.client⟩ : Session).work ≤ s.work ∧
      (e.threadOf = s.client.sock → Pays s ⟨s.server.step t o e, s.client⟩) := by
  obtain ⟨id, hsock⟩ := h.exists_sock hcall
  obtain ⟨c, done, hc, hincall⟩ := h.own id hsock
  have hown : s.own = some c := (own_of_sock hsock).trans hc
  have hclient := clientOf_ne hsock he
  obtain ⟨c₁, done₁, hc₁, hincall₁⟩ := (h.daemon he).own id hsock
  have hown₁ : (⟨s.server.step t o e, s.client⟩ : Session).own = some c₁ :=
    (own_of_sock (s := ⟨s.server.step t o e, s.client⟩) hsock).trans hc₁
  have hok₁ := (h.daemon he).conns c₁ (List.mem_of_getElem? hc₁)
  by_cases hthread : e.threadOf = some id
  · have hkills : ¬ s.server.Kills e := by
      rintro ⟨i, n, c', rfl, hc', -, hhungUp⟩
      obtain rfl := Option.some.inj hthread
      obtain rfl := Option.some.inj (hc.symm.trans hc')
      rw [hincall.hungUp] at hhungUp
      cases hhungUp
    have hinterrupt : e ≠ .interrupt := by
      rintro rfl
      cases hthread
    obtain rfl := Option.some.inj
      ((Server.conn_step_of_not_kills (t := t) (o := o) hc hkills hinterrupt).symm.trans hc₁)
    have hlt := work_onConn hthread hok₁ hincall₁
    have hpays : Pays s ⟨s.server.step t o e, s.client⟩ := by
      apply Pays.of_own hown hown₁ _ hlt
      by_cases heq : e.onConn t o id c = c
      · rw [heq]
      · exact Nat.le_of_succ_le (hlt heq)
    exact ⟨hpays.le, fun _ => hpays⟩
  · have hpipes : c₁.toDaemon = c.toDaemon ∧ c₁.toClient = c.toClient := by
      rcases Server.conn_step (t := t) (o := o) hc e with hstep | hstep
      · obtain rfl := Option.some.inj (hstep.symm.trans hc₁)
        exact ⟨rfl, rfl⟩
      · obtain rfl := Option.some.inj (hstep.symm.trans hc₁)
        exact pipes_onConn hclient hthread
    refine ⟨?_, fun hcontra => absurd (hcontra.trans hsock) hthread⟩
    rw [work_of_own hown, work_of_own hown₁, Connection.work, hpipes.1, hpipes.2, Connection.work]

/-- `sendall`, during a call. -/
theorem pays_sends (h : s.Ok t o) (n : ℕ) : Pays s (s.sends n) := by
  unfold sends
  split
  · rename_i r left id hcall hsock
    obtain ⟨c, done, hc, hincall⟩ := h.own id hsock
    have hown : s.own = some c := (own_of_sock hsock).trans hc
    have hnext : (s.server.update id fun c => c.send (left.take n)).conns[id]? =
        some (c.send (left.take n)) := by simp [Server.getElem?_conns_update, hc]
    have hpaid := @work_send c r left hincall.hungUp n
    refine @Pays.of_own s ⟨_, ⟨some id, _⟩⟩ _ _ hown hnext ?_ ?_
    · rw [hcall]
      exact (Nat.le_add_right ..).trans hpaid
    · intro hne
      rw [hcall]
      have hsome : left.take n ≠ [] := by
        intro hnil
        apply hne
        rw [hnil, Connection.send, if_neg (by simp [hincall.hungUp])]
        simp [Pipe.push]
      rwa [if_neg hsome] at hpaid
  · exact Pays.refl s

/-- `recv`, during a call that goes on. -/
theorem pays_receives (h : s.Ok t o) (n : ℕ) (hnone : (s.receives n).2 = []) :
    Pays s (s.receives n).1 := by
  unfold receives at hnone ⊢
  split
  · rename_i r chunks id c hcall hsock hown
    have hc : s.server.conns[id]? = some c := (own_of_sock hsock).symm.trans hown
    have hhungUp : c.hungUp = false := by
      obtain ⟨c', done, hc', hincall⟩ := h.own id hsock
      obtain rfl := Option.some.inj (hc.symm.trans hc')
      exact hincall.hungUp
    simp only [hcall, hsock, hown] at hnone
    dsimp only
    split
    · exact Pays.refl s
    · rename_i hchunk
      rw [if_neg hchunk] at hnone
      split
      · rename_i hlt
        have hnext : (s.server.update id fun c => c.receive (min n (responseSize - chunks.length))
            ).conns[id]? = some (c.receive (min n (responseSize - chunks.length))) := by
          simp [Server.getElem?_conns_update, hc]
        have hpaid := work_receive (r := r) hhungUp hchunk hlt
        refine @Pays.of_own s ⟨_, ⟨some id, _⟩⟩ _ _ hown hnext ?_ ?_
        · rw [hcall]
          exact Nat.le_of_succ_le hpaid
        · intro _
          rwa [hcall]
      · rename_i hfull
        rw [if_neg hfull] at hnone
        cases hnone
  · exact Pays.refl s

/-- A call goes on until it ends. -/
theorem call_ne_idle_of_step (hcall : s.client.call ≠ .idle) {e : SessionEvent}
    (hnone : (s.step t o e).2 = []) : (s.step t o e).1.client.call ≠ .idle := by
  have hrequest := request_step (t := t) (o := o) s e
  rw [hnone, List.map_nil, List.nil_append] at hrequest
  intro hidle
  rw [hidle] at hrequest
  cases hnow : s.client.call with
  | idle => exact hcall hnow
  | sending r left => simp [hnow, ClientCall.request?] at hrequest
  | receiving r chunks => simp [hnow, ClientCall.request?] at hrequest

/-- A connection that breaks leaves the call what it had to do. -/
theorem work_breaks (h : s.Ok t o) (hcall : s.client.call ≠ .idle) (id : ℕ) :
    (s.step t o (.breaks id)).1.work ≤ s.work := by
  obtain ⟨id', hsock⟩ := h.exists_sock hcall
  obtain ⟨c, done, hc, -⟩ := h.own id' hsock
  have hown : s.own = some c := (own_of_sock hsock).trans hc
  change (⟨s.server.update id fun c => { c with thread := .closed }, s.client⟩ : Session).work ≤ _
  rw [work, own, hsock, Option.bind_some, Server.getElem?_conns_update, hc, Option.map_some,
    work_of_own hown]
  simp only
  split <;> exact le_refl _

/-- **Whatever happens during a call that goes on does not lengthen it, and every turn brings it
closer to its end.** -/
theorem work_step (h : s.Ok t o) (hcall : s.client.call ≠ .idle) {e : SessionEvent}
    (hnone : (s.step t o e).2 = []) : (s.step t o e).1.client.call ≠ .idle ∧
      (s.step t o e).1.work + (if s.takesTurn t o e then 1 else 0) ≤ s.work := by
  refine ⟨call_ne_idle_of_step hcall hnone, ?_⟩
  -- a step that moves something on the connection only counts if it is a turn
  have hcount : (s.step t o e).1.work ≤ s.work →
      (s.isMove e = true → Pays s (s.step t o e).1) →
      (s.step t o e).1.work + (if s.takesTurn t o e then 1 else 0) ≤ s.work := by
    intro hle hpays
    split
    · rename_i hturn
      rw [takesTurn, Bool.and_eq_true, decide_eq_true_eq] at hturn
      exact (hpays hturn.1).lt hturn.2
    · exact hle
  have hpaid : Pays s (s.step t o e).1 →
      (s.step t o e).1.work + (if s.takesTurn t o e then 1 else 0) ≤ s.work :=
    fun hpays => hcount hpays.le fun _ => hpays
  cases e with
  | daemon e =>
    by_cases he : e.clientOf.isSome ∧ e.clientOf = s.client.sock
    · have hstep : s.step t o (.daemon e) = (s, []) := if_pos he
      rw [hstep] at hpaid
      rw [hstep]
      exact hpaid (Pays.refl s)
    · have hstep : s.step t o (.daemon e) = (⟨s.server.step t o e, s.client⟩, []) := if_neg he
      rw [hstep] at hcount
      rw [hstep]
      obtain ⟨hle, hpays⟩ := pays_daemon h hcall he
      apply hcount hle
      intro hmove
      rw [isMove, Bool.and_eq_true, decide_eq_true_eq] at hmove
      exact hpays hmove.2
  | restart =>
    apply hpaid
    simp only [step]
    split
    · exact Pays.refl s
    · exact ⟨le_refl _, fun hne => absurd rfl hne⟩
  | breaks id =>
    exact hcount (work_breaks h hcall id) (by simp [isMove])
  | call r connects =>
    apply hpaid
    simp only [step, isAllowed]
    split
    · rename_i hidle _
      exact absurd hidle hcall
    · rename_i hidle _
      exact absurd hidle hcall
    · exact Pays.refl s
  | sends n => exact hpaid (pays_sends h n)
  | receives n => exact hpaid (pays_receives h n hnone)
  | fails =>
    exfalso
    simp only [step, fails] at hnone
    split at hnone
    · rename_i hidle
      exact hcall hidle
    · cases hnone
    · cases hnone
  | close =>
    apply hpaid
    simp only [step, close]
    split
    · rename_i hidle _
      exact absurd hidle hcall
    · exact Pays.refl s

/-- A call ends within 30 turns: as long as it goes on, the turns that were taken and the moves that
are left are no more than the moves there were. -/
theorem turns_add_work_le (h : s.Ok t o) (hcall : s.client.call ≠ .idle) (es : List SessionEvent)
    (hnone : Run.trace (step t o) s es = []) :
    s.turns t o es + (Run.final (step t o) s es).work ≤ s.work := by
  induction es generalizing s with
  | nil =>
    change 0 + s.work ≤ s.work
    omega
  | cons e es ih =>
    rw [Run.trace_cons, List.append_eq_nil_iff] at hnone
    obtain ⟨hbusy, hle⟩ := work_step h hcall hnone.1
    have hrest := ih (h.step e).1 hbusy hnone.2
    have hturns : s.turns t o (e :: es) =
        (if s.takesTurn t o e then 1 else 0) + (s.step t o e).1.turns t o es := by
      rw [turns, Run.observed, List.length_append]
      split <;> rfl
    rw [hturns, Run.final_cons]
    omega

/-- While something of the request is left, `sendall` can send a byte of it. -/
theorem takesTurn_sends {id : ℕ} {r : Request} {left : List Byte}
    (hnow : s.client.call = .sending r left) (hsock : s.client.sock = some id)
    (hc : s.server.conns[id]? = some c) (hhungUp : c.hungUp = false) (hleft : left ≠ []) :
    s.takesTurn t o (.sends 1) = true := by
  have hnext : (s.sends 1).own = some (c.send (left.take 1)) := by
    simp [sends, hnow, hsock, own, Server.getElem?_conns_update, hc]
  rw [takesTurn, Bool.and_eq_true, decide_eq_true_eq]
  refine ⟨rfl, ?_⟩
  change (s.sends 1).own ≠ s.own
  rw [hnext, own_of_sock hsock, hc]
  intro heq
  have hunread := congrArg (fun d => d.toDaemon.unread.length) (Option.some.inj heq)
  simp only [Connection.send, hhungUp, Bool.false_eq_true, if_false, Pipe.unread_push,
    List.length_append, List.length_take] at hunread
  have := List.length_pos_iff.mpr hleft
  omega

/-- While bytes of the response have come in, `recv` can take one. -/
theorem takesTurn_receives {id : ℕ} {r : Request} {chunks : List Byte}
    (hnow : s.client.call = .receiving r chunks) (hsock : s.client.sock = some id)
    (hc : s.server.conns[id]? = some c) (hhungUp : c.hungUp = false)
    (hshort : chunks.length < responseSize) (hunread : c.toClient.unread ≠ []) :
    s.takesTurn t o (.receives 1) = true := by
  have hown : s.own = some c := (own_of_sock hsock).trans hc
  have hcount : min 1 (responseSize - chunks.length) = 1 := by omega
  have hchunk : c.toClient.unread.take 1 ≠ [] := by simpa using hunread
  have hnext : (s.receives 1).1.own = some (c.receive 1) := by
    unfold receives
    simp only [hnow, hsock, hown, hcount, if_neg hchunk]
    split <;> simp [own, Server.getElem?_conns_update, hc]
  rw [takesTurn, Bool.and_eq_true, decide_eq_true_eq]
  refine ⟨rfl, ?_⟩
  change (s.receives 1).1.own ≠ s.own
  rw [hnext, hown]
  intro heq
  have hread := congrArg (fun d => d.toClient.read.length) (Option.some.inj heq)
  simp only [Connection.receive, hhungUp, Bool.false_eq_true, if_false, Pipe.read_take,
    List.length_append] at hread
  have := List.length_pos_iff.mpr hchunk
  omega

/-- A turn of the thread that serves the client is one of the session. -/
theorem takesTurn_daemon {id : ℕ} (hsock : s.client.sock = some id) {e : ServerEvent}
    (hturn : ZoneSegmentation.takesTurn t o id s.server e = true) :
    s.takesTurn t o (.daemon e) = true := by
  rw [ZoneSegmentation.takesTurn, Bool.and_eq_true, decide_eq_true_eq, decide_eq_true_eq] at hturn
  have hother : ¬ (e.clientOf.isSome ∧ e.clientOf = s.client.sock) := by
    rintro ⟨hsome, -⟩
    cases e with
    | read | write => cases hsome
    | _ => cases hturn.1
  have hstep : s.step t o (.daemon e) = (⟨s.server.step t o e, s.client⟩, []) := if_neg hother
  rw [takesTurn, Bool.and_eq_true, decide_eq_true_eq, hstep]
  refine ⟨by simp [isMove, hturn.1, hsock], ?_⟩
  rw [own_of_sock (s := ⟨s.server.step t o e, s.client⟩) hsock, own_of_sock hsock]
  exact hturn.2

/-- A client that has sent its request and read all there is still waits for its answer. -/
theorem owed_ne_zero_of_receiving {r : Request} {chunks : List Byte} {done : List Request}
    (hdef : Defined t o) (hok : c.Ok t o)
    (hsynced : Synced t o c done (packRequest r) chunks)
    (hshort : chunks.length < responseSize) (hunread : c.toClient.unread = []) :
    owed t o c.toDaemon.written c ≠ 0 := by
  intro hzero
  have hanswers := (answers_prefix_of_owed hok (List.prefix_refl _) hzero).length_le
  obtain ⟨verdict, ruleId, -, hbytes⟩ := exists_answerOf hdef r
  rw [hsynced.written, answers_calls_request, Pipe.written, hunread, List.append_nil,
    hsynced.read, List.length_append, List.length_append, hbytes] at hanswers
  simp only [List.length_cons, List.length_nil] at hanswers
  rw [responseSize] at hshort
  omega

/-- **The two ends do not wait for each other**: while its thread lives, a call can be brought
closer to its end. -/
theorem exists_takesTurn (hdef : Defined t o) (h : s.Ok t o) (hcall : s.client.call ≠ .idle)
    (hown : s.own = some c) (hthread : c.thread ≠ .closed) :
    ∃ e, s.takesTurn t o e = true := by
  obtain ⟨id, hsock⟩ := h.exists_sock hcall
  obtain ⟨c₀, done, hc, hincall⟩ := h.own id hsock
  obtain rfl : c₀ = c := Option.some.inj (((own_of_sock hsock).trans hc).symm.trans hown)
  have hok := h.conns c₀ (List.mem_of_getElem? hc)
  cases hnow : s.client.call with
  | idle => exact absurd hnow hcall
  | sending r left =>
    rw [hnow] at hincall
    obtain ⟨hleft, sent, -, hsynced⟩ := hincall
    exact ⟨.sends 1, takesTurn_sends hnow hsock hc hsynced.hungUp hleft⟩
  | receiving r chunks =>
    rw [hnow] at hincall
    obtain ⟨hshort, hsynced⟩ := hincall
    by_cases hunread : c₀.toClient.unread = []
    · have howed := owed_ne_zero_of_receiving hdef hok hsynced hshort hunread
      obtain ⟨e, hturn, -⟩ := exists_turn hdef h.conns hc ⟨hsynced.hungUp, hthread⟩ howed
      exact ⟨.daemon e, takesTurn_daemon hsock hturn⟩
    · exact ⟨.receives 1, takesTurn_receives hnow hsock hc hsynced.hungUp hshort hunread⟩

end Session

/-! ## Runs -/

/-- The calls and the answers of a run are paired. -/
structure Paired (t : Tables) (o : ByteOrder) (s : Session) (ends : List CallEnd)
    (calls : List Request) : Prop where
  /-- Calls end in the order in which they were made. -/
  in_order : ends.map CallEnd.request ++ s.client.call.request?.toList = calls
  /-- Each read nothing but its own answer, and returned what this says, or raised. -/
  own : ∀ x ∈ ends, x.Own t
  /-- No call reads from a connection on which an earlier one has raised. -/
  fresh : ends.Pairwise CallEnd.Fresh
  dropped : ∀ x ∈ ends, x.result = none → ∀ id, x.sock = some id → s.client.sock ≠ some id
  /-- A call ends within 30 turns of the client and its thread, and one of them can be taken while
  the thread lives. -/
  ends_soon : s.client.call ≠ .idle → ∀ es, Run.trace (Session.step t o) s es = [] →
    s.turns t o es ≤ 30
  goes_on : ∀ c, s.client.call ≠ .idle → s.own = some c → c.thread ≠ .closed →
    ∃ e, s.takesTurn t o e = true

/-- After a run the client and the daemon are in step, and what ended was paired. -/
theorem Session.ok_final (hdef : Defined t o) (es : List SessionEvent) :
    (Run.final (Session.step t o) .init es).Ok t o ∧
      (∀ x ∈ Run.trace (Session.step t o) .init es, x.Own t) ∧
      (Run.final (Session.step t o) .init es).Used (Run.trace (Session.step t o) .init es) := by
  induction es using List.reverseRecOn with
  | nil =>
    refine ⟨Session.ok_init, by simp, ?_⟩
    exact ⟨.nil, by simp, by simp, by simp [Session.init]⟩
  | append_singleton es e ih =>
    obtain ⟨hok, howns, hused⟩ := ih
    obtain ⟨hok', hown⟩ := hok.step e
    rw [Run.final_snoc, Run.trace_snoc]
    refine ⟨hok', ?_, hused.step e⟩
    intro x hx
    rcases List.mem_append.mp hx with hx | hx
    · exact howns x hx
    · exact hown hdef x hx

/-- The calls that ended and the one in progress are those that were made. -/
theorem Session.requests_final (es : List SessionEvent) :
    (Run.trace (Session.step t o) .init es).map CallEnd.request ++
        (Run.final (Session.step t o) .init es).client.call.request?.toList =
      Run.observed (Session.step t o) Session.called .init es := by
  induction es using List.reverseRecOn with
  | nil => rfl
  | append_singleton es e ih =>
    rw [Run.final_snoc, Run.trace_snoc, Run.observed_snoc, List.map_append, List.append_assoc,
      Session.request_step, ← List.append_assoc, ih]

/-- **Request and answer stay paired on the wire**: whatever the sequence of calls, however the
bytes are cut, whatever other clients do, and wherever connections and the daemon fail, each call
raises or returns the decision on its own request. What is packed is what arrives. -/
theorem request_answer_paired {P : Policy} {t : Tables} (ht : BuiltFor P t) (o : ByteOrder)
    (es : List SessionEvent) :
    Paired t o (Run.final (Session.step t o) .init es) (Run.trace (Session.step t o) .init es)
        (Run.observed (Session.step t o) Session.called .init es) ∧
      ∀ r, (packRequest r).length = requestSize ∧
        ntohl o (FilterRequest.ofBytes o (packRequest r)).srcIp = r.srcIp ∧
        ntohl o (FilterRequest.ofBytes o (packRequest r)).dstIp = r.dstIp ∧
        (FilterRequest.ofBytes o (packRequest r)).protocol = r.protocol := by
  have hdef : Defined t o := ht.defined
  obtain ⟨hok, howns, hused⟩ := Session.ok_final hdef es
  refine ⟨⟨Session.requests_final es, howns, hused.fresh, hused.dropped, ?_, ?_⟩, ?_⟩
  · intro hcall more hnone
    obtain ⟨id, hsock⟩ := hok.exists_sock hcall
    obtain ⟨c, done, hc, hincall⟩ := hok.own id hsock
    have hwork := hincall.work_le hdef (hok.conns c (List.mem_of_getElem? hc))
    have hturns := Session.turns_add_work_le hok hcall more hnone
    rw [Session.work_of_own ((Session.own_of_sock hsock).trans hc)] at hturns
    omega
  · intro c hcall hown hthread
    exact Session.exists_takesTurn hdef hok hcall hown hthread
  · intro r
    exact ⟨length_packRequest r, ntohl_ofBytes_packRequest o r⟩

/-- A call whose connection fails after half of its answer, and another call, to the daemon that was
started again. -/
def interruptedCalls : List SessionEvent :=
  [.call ⟨0x0A010165, 0x0A01010A, 4000, 80, 6⟩ true, .sends 5, .sends 13, .daemon (.read 0 7),
    .daemon (.read 0 7), .daemon (.write 0 1), .receives 2, .daemon .interrupt, .fails, .restart,
    .call ⟨0x6C231871, 0x0A010165, 0, 0, 1⟩ true, .sends 13, .daemon (.read 1 13),
    .daemon (.write 1 2), .receives 1, .receives 1]

theorem request_answer_paired_interrupted :
    Paired policyTables .little
        (Run.final (Session.step policyTables .little) .init interruptedCalls)
        (Run.trace (Session.step policyTables .little) .init interruptedCalls)
        (Run.observed (Session.step policyTables .little) Session.called .init interruptedCalls) ∧
      (Run.trace (Session.step policyTables .little) .init interruptedCalls).map
        (fun x => (x.sock, x.received, x.result)) =
          [(some 0, [1], none), (some 1, [0, 2], some (false, 2))] :=
  ⟨(request_answer_paired builtFor_policyTables .little interruptedCalls).1, by decide +kernel⟩

end ZoneSegmentation
