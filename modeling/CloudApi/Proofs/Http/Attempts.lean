import CloudApi.Http.Client
import CloudApi.Proofs.Session

/-! Sending a request again.

What a reply comes to is told without the mapping of statuses (`Told`): which replies are failures
that may pass, which are values, and which errors stand apart. A request that can be sent at all is
the same at every attempt, so that the replies to it are one sequence (`Peer.deliveryAt`). The
attempts stop with the first reply that is no failure that may pass, with the last one the retry
policy allows, or at once if the request may not be sent twice (`Stops`); when each of them is
issued and what they leave behind is told by `Sent`. Unless an alarm calls a request off, its last
reply decides (`LastReply`). -/
namespace CloudApi

namespace Peer
variable {σ : Type} (peer : Peer σ)

/-- The state of a peer after a request was sent to it a number of times. -/
def again (r : Request) (state : σ) : Nat → σ
  | 0 => state
  | n + 1 => (peer (again r state n) r).2

/-- What comes of a request that was sent a number of times before. -/
def deliveryAt (r : Request) (state : σ) (n : Nat) : Delivery :=
  (peer (peer.again r state n) r).1

/-- A peer with a fixed sequence of deliveries, whatever it is asked. -/
def inOrder (deliveries : Nat → Delivery) : Peer Nat :=
  fun n _ => (deliveries n, n + 1)

/-- Every sequence of deliveries is the one of a peer. -/
theorem deliveryAt_inOrder (deliveries : Nat → Delivery) (r : Request) (n : Nat) :
    (inOrder deliveries).deliveryAt r 0 n = deliveries n := by
  have hagain : (inOrder deliveries).again r 0 n = n := by
    induction n with
    | zero => rfl
    | succ n ih => exact congrArg (· + 1) ih
  rw [deliveryAt, hagain]
  rfl

end Peer

/-- Whether a reply is a failure that may pass: no connection, no answer in time, or a response
that says so. -/
def Reply.mayPass : Reply → Bool
  | refused | stalled => true
  | dropped | truncated => false
  | answered status _ => status = 429 || (500 ≤ status && status < 600)

namespace Client

/-! ### What a reply comes to -/

/-- What a reply to the request for a URL comes to. -/
structure Told (reply : Reply) (result : Except Error Json) : Prop where
  transient_iff : (∃ e, result = .error e ∧ e.isTransient) ↔ reply.mayPass
  ok_iff : ∀ v, result = .ok v ↔ ∃ status body, reply = .answered status body ∧
    200 ≤ status ∧ status < 300 ∧
    if status = 204 ∨ body = [] then v = .null else Json.Parser.parse body = .ok v
  /-- Only a success with a body that is no JSON fails to decode. -/
  decode_iff : (∃ reason, result = .error (.decode reason)) ↔
    ∃ status body, reply = .answered status body ∧ 200 ≤ status ∧ status < 300 ∧
      status ≠ 204 ∧ body ≠ [] ∧ ∃ e, Json.Parser.parse body = .error e
  notFound_iff : (∃ reason, result = .error (.notFound reason)) ↔
    ∃ body, reply = .answered 404 body
  /-- Any other status stands for its error, with the text of the body. -/
  failure : ∀ status body, reply = .answered status body → ¬ (200 ≤ status ∧ status < 300) →
    result = .error (Http.statusError status (String.ofList (Text.Utf8.decode body)))

theorem isSuccess_iff (status : Nat) :
    Http.isSuccess status = true ↔ 200 ≤ status ∧ status < 300 := by
  simp [Http.isSuccess]

/-- The statuses of failures that may pass. -/
theorem isTransient_statusError (status : Nat) (text : String) :
    (Http.statusError status text).isTransient =
      (status = 429 || (500 ≤ status && status < 600)) := by
  unfold Http.statusError
  grind [Error.isTransient]

theorem statusError_eq_notFound_iff {status : Nat} {text reason : String} :
    Http.statusError status text = .notFound reason ↔ status = 404 ∧ text = reason := by
  unfold Http.statusError
  grind

theorem statusError_ne_decode (status : Nat) (text reason : String) :
    Http.statusError status text ≠ .decode reason := by
  unfold Http.statusError
  grind

/-- What a response comes to, by its status and its body. -/
theorem readResponse_eq (url : Url) (status : Nat) (body : List UInt8) :
    readResponse url status body =
      if 200 ≤ status ∧ status < 300 then readBody url status body
      else .error (Http.statusError status (String.ofList (Text.Utf8.decode body))) := by
  simp only [readResponse, isSuccess_iff]

theorem readBody_eq_ok_iff {url : Url} {status : Nat} {body : List UInt8} {v : Json} :
    readBody url status body = .ok v ↔
      if status = 204 ∨ body = [] then v = .null else Json.Parser.parse body = .ok v := by
  unfold readBody
  split
  · rw [Except.ok.injEq, eq_comm]
  · cases Json.Parser.parse body <;> simp

/-- A success never fails but for a body that is no JSON. -/
theorem readBody_eq_error {url : Url} {status : Nat} {body : List UInt8} {e : Error}
    (h : readBody url status body = .error e) :
    status ≠ 204 ∧ body ≠ [] ∧ (∃ e', Json.Parser.parse body = .error e') ∧
      ∃ reason, e = .decode reason := by
  unfold readBody at h
  split at h
  · cases h
  · next hfull =>
    cases hparse : Json.Parser.parse body with
    | ok v =>
      rw [hparse] at h
      cases h
    | error e' =>
      rw [hparse] at h
      cases h
      exact ⟨fun h => hfull (.inl h), fun h => hfull (.inr h), ⟨e', rfl⟩, _, rfl⟩

theorem told_of_success {status : Nat} (h : 200 ≤ status ∧ status < 300) (url : Url)
    (body : List UInt8) : Told (.answered status body) (readBody url status body) where
  transient_iff := by
    constructor
    · rintro ⟨e, he, htransient⟩
      obtain ⟨-, -, -, _, rfl⟩ := readBody_eq_error he
      cases htransient
    · intro hpass
      simp only [Reply.mayPass, Bool.or_eq_true, decide_eq_true_eq, Bool.and_eq_true] at hpass
      omega
  ok_iff v := by
    rw [readBody_eq_ok_iff]
    exact ⟨fun hv => ⟨status, body, rfl, h.1, h.2, hv⟩, fun ⟨_, _, rfl, _, _, hv⟩ => hv⟩
  decode_iff := by
    constructor
    · rintro ⟨reason, he⟩
      obtain ⟨hcontent, hbody, hparse, -⟩ := readBody_eq_error he
      exact ⟨status, body, rfl, h.1, h.2, hcontent, hbody, hparse⟩
    · rintro ⟨_, _, ⟨rfl, rfl⟩, -, -, hcontent, hbody, e, hparse⟩
      cases hread : readBody url status body with
      | error e =>
        obtain ⟨-, -, -, reason, rfl⟩ := readBody_eq_error hread
        exact ⟨reason, rfl⟩
      | ok v =>
        rw [readBody_eq_ok_iff, if_neg (not_or.mpr ⟨hcontent, hbody⟩), hparse] at hread
        cases hread
  notFound_iff := by
    constructor
    · rintro ⟨reason, he⟩
      obtain ⟨-, -, -, _, ⟨⟩⟩ := readBody_eq_error he
    · rintro ⟨_, ⟨⟩⟩
      omega
  failure _ _ heq hfailure := by
    cases heq
    exact absurd h hfailure

theorem told_of_failure {status : Nat} (h : ¬ (200 ≤ status ∧ status < 300))
    (body : List UInt8) :
    Told (.answered status body)
      (.error (Http.statusError status (String.ofList (Text.Utf8.decode body)))) where
  transient_iff := by
    simp only [Except.error.injEq, exists_eq_left', isTransient_statusError, Reply.mayPass]
  ok_iff v := by
    constructor
    · rintro ⟨⟩
    · rintro ⟨_, _, ⟨rfl, rfl⟩, hge, hlt, -⟩
      exact absurd ⟨hge, hlt⟩ h
  decode_iff := by
    constructor
    · rintro ⟨reason, he⟩
      exact absurd (Except.error.inj he) (statusError_ne_decode _ _ _)
    · rintro ⟨_, _, ⟨rfl, rfl⟩, hge, hlt, -⟩
      exact absurd ⟨hge, hlt⟩ h
  notFound_iff := by
    simp only [Except.error.injEq, statusError_eq_notFound_iff, Reply.answered.injEq]
    constructor
    · rintro ⟨_, rfl, -⟩
      exact ⟨body, rfl, rfl⟩
    · rintro ⟨_, rfl, rfl⟩
      exact ⟨_, rfl, rfl⟩
  failure _ _ heq _ := by
    cases heq
    rfl

/-- **What a reply comes to.** -/
theorem told_outcome (url : Url) (reply : Reply) : Told reply (outcome url reply) := by
  cases reply with
  | answered status body =>
    have hresponse : outcome url (.answered status body) = _ := readResponse_eq url status body
    rw [hresponse]
    split
    · next h => exact told_of_success h url body
    · next h => exact told_of_failure h body
  | _ => exact ⟨by simp [outcome, Reply.mayPass, Error.isTransient], by simp [outcome],
      by simp [outcome], by simp [outcome], fun _ _ h => by cases h⟩

/-! ### The timeline of the attempts -/

section Attempts
variable {σ : Type} (c : Client) (peer : Peer σ) (method : Method) (url : Url) (body : Option Json)
  (w : World σ)

/-- A request that can be sent is recorded, and then its reply is awaited, unless an alarm goes off
before. -/
theorem run_attempt {c : Client} {url : Url} (hsendable : c.obstacle? url = none) (peer : Peer σ)
    (method : Method) (body : Option Json) (w : World σ) :
    let request := c.request method url body
    let delivery := c.awaited (peer w.peer request).1
    let asked : World σ :=
      { w with sent := w.sent ++ [(w.now, request)], peer := (peer w.peer request).2 }
    Session.run (c.attempt peer method url body) w =
      match Alarm.first? w.alarms (w.now + delivery.latency) with
      | none =>
        .ok (.ok (outcome url delivery.reply), { asked with now := w.now + delivery.latency })
      | some a => .ok (.error a.error, { asked with now := max w.now a.time }) := by
  intro request delivery asked
  have hsend : Session.run (Session.send peer request) w =
      .ok (.ok (peer w.peer request).1, asked) := rfl
  have hpass := Session.run_pass delivery.latency asked
  unfold attempt
  rw [hsendable]
  dsimp only
  rw [Session.run_bind_ok hsend, Session.run_bind]
  change (Session.run (Session.pass delivery.latency) asked).bind _ = _
  rw [hpass]
  change Except.bind (match Alarm.first? w.alarms (w.now + delivery.latency) with
    | none => _
    | some a => _) _ = _
  cases Alarm.first? w.alarms (w.now + delivery.latency) <;> rfl

/-- Whether the result of an attempt lets another one follow. -/
def Again (method : Method) (result : Except Error Json) : Prop :=
  method.isIdempotent ∧ ∃ e, result = .error e ∧ e.isTransient

section Follow
variable {c : Client} {peer : Peer σ} {method : Method} {url : Url} {body : Option Json}
  {w after : World σ} {result : Except Error Json}
  (h : Session.run (c.attempt peer method url body) w = .ok (.ok result, after))

include h in
/-- The last attempt decides. -/
theorem run_attempts_last {left : Nat} (done : UInt32)
    (hlast : left = 0 ∨ ¬ Again method result) :
    Session.run (c.attempts peer method url body left done) w = .ok (result, after) := by
  rw [attempts, Session.run_bind_ok h]
  cases result with
  | ok v => rfl
  | error e =>
    cases left with
    | zero => rfl
    | succ left =>
      have hstop : (e.isTransient && method.isIdempotent) = false := by
        rcases hlast with hleft | hagain
        · exact absurd hleft (Nat.succ_ne_zero left)
        · rw [Bool.and_eq_false_iff]
          by_contra hboth
          rw [not_or, Bool.not_eq_false, Bool.not_eq_false] at hboth
          exact hagain ⟨hboth.2, e, rfl, hboth.1⟩
      simp only [hstop, Bool.false_eq_true, if_false]
      rfl

include h in
/-- Before another attempt its delay passes. -/
theorem run_attempts_again {left : Nat} (done : UInt32) (hagain : Again method result) :
    Session.run (c.attempts peer method url body (left + 1) done) w =
      Session.run (Session.pass (c.http.retry.delay (done + 1)).toNanos >>= fun _ =>
        c.attempts peer method url body left (done + 1)) after := by
  obtain ⟨hidempotent, e, rfl, htransient⟩ := hagain
  rw [attempts, Session.run_bind_ok h]
  simp only [htransient, hidempotent, Bool.and_self, if_true]

end Follow

/-- What sending a request leaves behind under any alarms: time, and copies of the request in the
log. -/
structure Repeated (request : Request) (copies : Nat) (w after : World σ) : Prop where
  elapsed : Elapsed w after
  sent : after.sent.map Prod.snd = w.sent.map Prod.snd ++ List.replicate copies request

theorem Repeated.trans {request : Request} {n m : Nat} {w mid after : World σ}
    (h : Repeated request n w mid) (h' : Repeated request m mid after) :
    Repeated request (n + m) w after :=
  ⟨h.elapsed.trans h'.elapsed, by
    rw [h'.sent, h.sent, List.append_assoc, List.replicate_append_replicate]⟩

/-- An attempt at a request that can be sent puts it into the log once, also if an alarm goes off
before the reply. -/
theorem exists_run_attempt {c : Client} {url : Url} (hsendable : c.obstacle? url = none)
    (peer : Peer σ) (method : Method) (body : Option Json) (w : World σ) :
    ∃ outcome after, Session.run (c.attempt peer method url body) w = .ok (outcome, after) ∧
      Repeated (c.request method url body) 1 w after := by
  rw [run_attempt hsendable]
  dsimp only
  split
  · next hnone =>
    refine ⟨_, _, rfl, ?_, List.map_append⟩
    exact .of_first?_eq_none hnone (Nat.le_add_right _ _) rfl rfl
  · next hsome =>
    refine ⟨_, _, rfl, ?_, List.map_append⟩
    exact .of_first?_eq_some hsome rfl rfl

/-- Letting time pass puts nothing into the log. -/
theorem repeated_of_run_pass {span : Nat} {request : Request} {w after : World σ}
    {outcome : Except Error Unit} (h : Session.run (Session.pass span) w = .ok (outcome, after)) :
    Repeated request 0 w after := by
  rw [Session.run_pass] at h
  split at h
  · next hnone =>
    cases h
    exact ⟨.of_first?_eq_none hnone (Nat.le_add_right _ _) rfl rfl, (List.append_nil _).symm⟩
  · next hsome =>
    cases h
    exact ⟨.of_first?_eq_some hsome rfl rfl, (List.append_nil _).symm⟩

/-- Whatever goes off, the attempts come to something, and all they send is the request: once at
least, as often as the retries allow, and a single time if it may not be sent twice. -/
theorem exists_run_attempts {c : Client} {url : Url} (hsendable : c.obstacle? url = none)
    (peer : Peer σ) (method : Method) (body : Option Json) (left : Nat) (done : UInt32)
    (w : World σ) :
    ∃ result after copies,
      Session.run (c.attempts peer method url body left done) w = .ok (result, after) ∧
      Repeated (c.request method url body) (copies + 1) w after ∧ copies ≤ left ∧
      (method.isIdempotent = false → copies = 0) := by
  induction left generalizing done w with
  | zero =>
    obtain ⟨tried, after, hattempt, hrepeated⟩ :=
      exists_run_attempt hsendable peer method body w
    cases tried with
    | error e =>
      rw [attempts]
      exact ⟨_, _, 0, Session.run_bind_error hattempt, hrepeated, le_rfl, fun _ => rfl⟩
    | ok result =>
      exact ⟨_, _, 0, run_attempts_last hattempt done (.inl rfl), hrepeated, le_rfl, fun _ => rfl⟩
  | succ left ih =>
    obtain ⟨tried, mid, hattempt, hrepeated⟩ := exists_run_attempt hsendable peer method body w
    cases tried with
    | error e =>
      rw [attempts]
      exact ⟨_, _, 0, Session.run_bind_error hattempt, hrepeated, Nat.zero_le _, fun _ => rfl⟩
    | ok result =>
      by_cases hagain : Again method result
      · have honce : method.isIdempotent ≠ false := by rw [hagain.1]; exact nofun
        obtain ⟨passed, now, hpass, -⟩ :=
          Session.exists_run_pass (c.http.retry.delay (done + 1)).toNanos mid
        have hwaited := hrepeated.trans (repeated_of_run_pass hpass)
        rw [run_attempts_again hattempt done hagain]
        cases passed with
        | error e =>
          exact ⟨_, _, 0, Session.run_bind_error hpass, hwaited, Nat.zero_le _, fun _ => rfl⟩
        | ok =>
          rw [Session.run_bind_ok hpass]
          obtain ⟨last, after, copies, hrun, hmore, hle, -⟩ := ih (done + 1) { mid with now }
          have hall := hwaited.trans hmore
          rw [show 1 + 0 + (copies + 1) = copies + 1 + 1 by omega] at hall
          exact ⟨last, after, copies + 1, hrun, hall, by omega, fun h => absurd h honce⟩
      · exact ⟨_, _, 0, run_attempts_last hattempt done (.inr hagain), hrepeated, Nat.zero_le _,
          fun _ => rfl⟩

/-- What the client gets at an attempt, if the request is the only one that is sent. -/
def deliveryAt (i : Nat) : Delivery :=
  c.awaited (peer.deliveryAt (c.request method url body) w.peer i)

/-- When an attempt is issued: the delay of its number after the one before came to something. -/
def issuedAt : Nat → Nat
  | 0 => w.now
  | i + 1 => issuedAt i + (c.deliveryAt peer method url body w i).latency +
      (c.http.retry.delay (i + 1).toUInt32).toNanos

/-- Whether an attempt is followed by another, as far as its reply decides. -/
def GoesOn (i : Nat) : Prop :=
  method.isIdempotent ∧ (c.deliveryAt peer method url body w i).reply.mayPass

/-- Whether an attempt, counted from zero, is the last one. -/
structure Stops (n : Nat) : Prop where
  allowed : n ≤ c.http.retry.maxRetries.toNat
  before : ∀ i < n, c.GoesOn peer method url body w i
  last : n = c.http.retry.maxRetries.toNat ∨ ¬ c.GoesOn peer method url body w n

/-- The world after a number of attempts were issued, at some time. -/
def worldAt (issued time : Nat) : World σ :=
  { w with
    now := time
    sent := w.sent ++ (List.range issued).map fun i =>
      (c.issuedAt peer method url body w i, c.request method url body)
    peer := peer.again (c.request method url body) w.peer issued }

variable {w}

/-- A part of a session that begins under the alarms of a world is ended by one of them. -/
def CalledOff {α : Type} (w : World σ) (run : Except Halt (Except Error α × World σ)) : Prop :=
  ∃ a ∈ w.alarms, ∃ after, run = .ok (.error a.error, after)

theorem not_calledOff {α : Type} {run : Except Halt (Except Error α × World σ)}
    (hquiet : w.alarms = []) : ¬ CalledOff w run := by
  rintro ⟨a, hmem, -⟩
  rw [hquiet] at hmem
  exact List.not_mem_nil hmem

/-- What the first alarm before a moment calls off. -/
theorem eq_or_calledOff {α : Type} {run : Except Halt (Except Error α × World σ)} {moment : Nat}
    {result : α} {after : World σ} {last : Alarm → World σ}
    (h : run = match Alarm.first? w.alarms moment with
      | none => .ok (.ok result, after)
      | some a => .ok (.error a.error, last a)) :
    run = .ok (.ok result, after) ∨ CalledOff w run := by
  rcases Alarm.first?_cases w.alarms moment with ⟨hnone, -⟩ | ⟨a, hmem, hsome, -⟩
  · rw [hnone] at h
    exact .inl h
  · rw [hsome] at h
    exact .inr ⟨a, hmem, last a, h⟩

/-- An attempt comes to what its reply says, unless it is called off. -/
theorem run_attempt_at (hsendable : c.obstacle? url = none) (i : Nat) :
    let run := Session.run (c.attempt peer method url body)
      (c.worldAt peer method url body w i (c.issuedAt peer method url body w i))
    run = .ok (.ok (outcome url (c.deliveryAt peer method url body w i).reply),
        c.worldAt peer method url body w (i + 1) (c.issuedAt peer method url body w i +
          (c.deliveryAt peer method url body w i).latency)) ∨ CalledOff w run := by
  intro run
  have hrun : run = _ := run_attempt hsendable peer method body _
  rw [worldAt, List.range_succ, List.map_append, ← List.append_assoc]
  exact eq_or_calledOff hrun

/-- The delay after an attempt leads to the next one, unless it is called off. -/
theorem run_delay_at (i : Nat) :
    let run := Session.run (Session.pass (c.http.retry.delay (i + 1).toUInt32).toNanos)
      (c.worldAt peer method url body w (i + 1) (c.issuedAt peer method url body w i +
        (c.deliveryAt peer method url body w i).latency))
    run = .ok (.ok (), c.worldAt peer method url body w (i + 1)
        (c.issuedAt peer method url body w (i + 1))) ∨ CalledOff w run :=
  eq_or_calledOff (Session.run_pass _ _)

/-- From an attempt on, the attempts go on up to the first one that is the last, unless they are
called off. -/
theorem run_attempts_at (hsendable : c.obstacle? url = none) (left i : Nat)
    (hleft : i + left = c.http.retry.maxRetries.toNat)
    (hbefore : ∀ k < i, c.GoesOn peer method url body w k) :
    let run := Session.run (c.attempts peer method url body left i.toUInt32)
      (c.worldAt peer method url body w i (c.issuedAt peer method url body w i))
    (∃ n, c.Stops peer method url body w n ∧
      run = .ok (outcome url (c.deliveryAt peer method url body w n).reply,
        c.worldAt peer method url body w (n + 1) (c.issuedAt peer method url body w n +
          (c.deliveryAt peer method url body w n).latency))) ∨ CalledOff w run := by
  have hagain (k : Nat) : Again method (outcome url (c.deliveryAt peer method url body w k).reply) ↔
      c.GoesOn peer method url body w k :=
    and_congr_right fun _ => (told_outcome url _).transient_iff
  induction left generalizing i with
  | zero =>
    rcases c.run_attempt_at peer method url body hsendable i with
      hattempt | ⟨a, hmem, after, hattempt⟩
    · exact .inl ⟨i, ⟨by omega, hbefore, .inl (by omega)⟩, run_attempts_last hattempt _ (.inl rfl)⟩
    · right
      refine ⟨a, hmem, after, ?_⟩
      rw [attempts]
      exact Session.run_bind_error hattempt
  | succ left ih =>
    rcases c.run_attempt_at peer method url body hsendable i with
      hattempt | ⟨a, hmem, after, hattempt⟩
    · by_cases hgoes : c.GoesOn peer method url body w i
      · have hnumber : i.toUInt32 + 1 = (i + 1).toUInt32 := by
          simp only [Nat.toUInt32_eq, UInt32.ofNat_add, UInt32.ofNat_one]
        rw [run_attempts_again hattempt _ ((hagain i).mpr hgoes), hnumber]
        rcases c.run_delay_at peer method url body i with
          hdelay | ⟨a, hmem, after, hdelay⟩
        · rw [Session.run_bind_ok hdelay]
          exact ih (i + 1) (by omega) fun k hk =>
            (Nat.lt_succ_iff_lt_or_eq.mp hk).elim (hbefore k) fun h => h ▸ hgoes
        · exact .inr ⟨a, hmem, after, Session.run_bind_error hdelay⟩
      · exact .inl ⟨i, ⟨by omega, hbefore, .inr hgoes⟩,
          run_attempts_last hattempt _ (.inr (mt (hagain i).mp hgoes))⟩
    · right
      refine ⟨a, hmem, after, ?_⟩
      rw [attempts]
      exact Session.run_bind_error hattempt

/-- A request that can be sent comes to what its last reply says, unless it is called off. -/
theorem run_send_at (hsendable : c.obstacle? url = none) :
    let run := Session.run ((c.transport peer).send method url body) w
    (∃ n, c.Stops peer method url body w n ∧
      run = .ok (outcome url (c.deliveryAt peer method url body w n).reply,
        c.worldAt peer method url body w (n + 1) (c.issuedAt peer method url body w n +
          (c.deliveryAt peer method url body w n).latency))) ∨ CalledOff w run := by
  have hbegin : w = c.worldAt peer method url body w 0 (c.issuedAt peer method url body w 0) := by
    simp only [worldAt, issuedAt, Peer.again, List.range_zero, List.map_nil, List.append_nil]
  have hrun := c.run_attempts_at peer method url body (w := w) hsendable
    c.http.retry.maxRetries.toNat 0 (Nat.zero_add _) fun k hk => absurd hk (Nat.not_lt_zero k)
  rwa [← hbegin] at hrun

theorem Stops.eq {c : Client} {peer : Peer σ} {method : Method} {url : Url} {body : Option Json}
    {n m : Nat} (h : c.Stops peer method url body w n) (h' : c.Stops peer method url body w m) :
    n = m := by
  have hle {i j : Nat} (hi : c.Stops peer method url body w i)
      (hj : c.Stops peer method url body w j) : i ≤ j := by
    by_contra hlt
    rcases hj.last with hlast | hlast
    · have hallowed := hi.allowed
      omega
    · exact hlast (hi.before j (by omega))
  exact le_antisymm (hle h h') (hle h' h)

variable (w)

/-- What a request that can be sent leaves behind, by the number of its attempts and the moments
they are issued at. -/
structure Sent (after : World σ) (n : Nat) (issued : Nat → Nat) : Prop where
  /-- A request that may not be sent twice is sent once. -/
  once : method.isIdempotent = false → n = 1
  /-- Any other is sent up to its first reply that is no failure that may pass. -/
  settled : method.isIdempotent → ∀ first,
    (c.deliveryAt peer method url body w first).reply.mayPass = false →
    (∀ i < first, (c.deliveryAt peer method url body w i).reply.mayPass) →
    n = min (first + 1) (c.http.retry.maxRetries.toNat + 1)
  exhausted : method.isIdempotent →
    (∀ i, (c.deliveryAt peer method url body w i).reply.mayPass) →
    n = c.http.retry.maxRetries.toNat + 1
  sent : after.sent = w.sent ++
    (List.range n).map fun i => (issued i, c.request method url body)
  begins : issued 0 = w.now
  waits : ∀ i, i + 1 < n → issued (i + 1) =
    issued i + (c.deliveryAt peer method url body w i).latency +
      (c.http.retry.delay (i + 1).toUInt32).toNanos
  /-- Nothing is waited for after the last attempt. -/
  ends : after.now = issued (n - 1) + (c.deliveryAt peer method url body w (n - 1)).latency

theorem Stops.sent {n : Nat} (h : c.Stops peer method url body w n) :
    c.Sent peer method url body w (c.worldAt peer method url body w (n + 1)
      (c.issuedAt peer method url body w n + (c.deliveryAt peer method url body w n).latency))
      (n + 1) (c.issuedAt peer method url body w) where
  once honce := by
    rcases Nat.eq_zero_or_pos n with rfl | hpos
    · rfl
    · exact absurd (h.before 0 hpos).1 (by rw [honce]; decide)
  settled hidempotent first hsettled hbefore := by
    have hle : n ≤ first := by
      by_contra hlt
      have hgoes := (h.before first (by omega)).2
      rw [hsettled] at hgoes
      cases hgoes
    have hallowed := h.allowed
    rcases h.last with hlast | hlast
    · omega
    · have hge : first ≤ n := by
        by_contra hlt
        exact hlast ⟨hidempotent, hbefore n (by omega)⟩
      omega
  exhausted hidempotent hall :=
    h.last.elim (congrArg (· + 1)) fun hlast => absurd ⟨hidempotent, hall n⟩ hlast
  sent := rfl
  begins := rfl
  waits _ _ := rfl
  ends := rfl

end Attempts

/-- No delay is longer than the longest one of the policy. -/
theorem delay_le (p : RetryPolicy) (retry : UInt32) :
    (p.delay retry).toNanos ≤ p.maxDelay.toNanos := by
  unfold RetryPolicy.delay Duration.shorter
  split
  · exact Nat.zero_le _
  · dsimp only
    split
    · assumption
    · exact le_rfl

/-- What keeps a request from being sent is a failure of the protocol. -/
theorem eq_http_of_obstacle {c : Client} {url : Url} {e : Error} (h : c.obstacle? url = some e) :
    ∃ reason, e = .http reason := by
  unfold obstacle? at h
  grind

theorem isTransient_obstacle {c : Client} {url : Url} {e : Error} (h : c.obstacle? url = some e) :
    e.isTransient = false := by
  obtain ⟨_, rfl⟩ := eq_http_of_obstacle h
  rfl

theorem run_attempts_of_obstacle {σ : Type} {c : Client} {url : Url} {e : Error}
    (h : c.obstacle? url = some e) (peer : Peer σ) (method : Method) (body : Option Json)
    (left : Nat) (done : UInt32) (w : World σ) :
    Session.run (c.attempts peer method url body left done) w = .ok (.error e, w) := by
  have hattempt : Session.run (c.attempt peer method url body) w = .ok (.ok (.error e), w) := by
    unfold attempt
    rw [h]
    rfl
  refine run_attempts_last hattempt done (.inr fun hagain => ?_)
  obtain ⟨-, _, ⟨rfl⟩, htransient⟩ := hagain
  rw [isTransient_obstacle h] at htransient
  cases htransient

/-- Sending a request comes to something, whatever goes off. Unless it cannot be sent at all, it is
sent once at least, as often as the retries allow, and a single time if it may not be sent twice. -/
theorem exists_run_send {σ : Type} (c : Client) (peer : Peer σ) (method : Method) (url : Url)
    (body : Option Json) (w : World σ) :
    ∃ result after copies,
      Session.run ((c.transport peer).send method url body) w = .ok (result, after) ∧
      Repeated (c.request method url body) copies w after ∧
      copies ≤ c.http.retry.maxRetries.toNat + 1 ∧ (method.isIdempotent = false → copies ≤ 1) ∧
      (copies = 0 ↔ c.obstacle? url ≠ none) ∧
      ∀ e, c.obstacle? url = some e → result = .error e ∧ after = w := by
  cases hsendable : c.obstacle? url with
  | some e =>
    refine ⟨_, w, 0, run_attempts_of_obstacle hsendable peer method body _ 0 w,
      ⟨.refl w, (List.append_nil _).symm⟩, Nat.zero_le _, fun _ => Nat.zero_le _,
      ⟨fun _ => nofun, fun _ => rfl⟩, fun e' he' => ?_⟩
    exact ⟨congrArg _ (Option.some.inj he'), rfl⟩
  | none =>
    obtain ⟨result, after, copies, hrun, hrepeated, hle, honce⟩ :=
      exists_run_attempts hsendable peer method body c.http.retry.maxRetries.toNat 0 w
    refine ⟨result, after, copies + 1, hrun, hrepeated, by omega, fun h => by rw [honce h], ?_,
      nofun⟩
    exact ⟨nofun, fun h => absurd rfl h⟩

/-- **Sending a request.** A request that cannot be sent fails at once. Any other is sent one time
after the other, always the same, until a reply settles it or no retry is left, with the delays of
the policy between; the last reply decides. -/
theorem send_attempts {σ : Type} (c : Client) (peer : Peer σ) (method : Method) (url : Url)
    (body : Option Json) (w : World σ) (hquiet : w.alarms = []) :
    (∀ reply, Told reply (outcome url reply)) ∧
    (∀ retry, (c.http.retry.delay retry).toNanos ≤ c.http.retry.maxDelay.toNanos) ∧
    (∀ e, c.obstacle? url = some e → e.isTransient = false ∧
      Session.run ((c.transport peer).send method url body) w = .ok (.error e, w)) ∧
    (c.obstacle? url = none → ∃ n issued after,
      Session.run ((c.transport peer).send method url body) w =
        .ok (outcome url (c.deliveryAt peer method url body w (n - 1)).reply, after) ∧
      c.Sent peer method url body w after n issued) := by
  refine ⟨told_outcome url, delay_le c.http.retry, fun e he => ⟨isTransient_obstacle he,
    run_attempts_of_obstacle he peer method body _ 0 w⟩, fun hsendable => ?_⟩
  rcases c.run_send_at peer method url body hsendable with ⟨n, hstops, hrun⟩ | hcalled
  · exact ⟨n + 1, _, _, hrun, hstops.sent⟩
  · exact absurd hcalled (not_calledOff hquiet)

/-! ### The last reply -/

section Last
variable {σ : Type} {c : Client} {peer : Peer σ} {method : Method} {url : Url}
  {body : Option Json} {w after : World σ}

variable (c peer method url body w) in
/-- The reply to the last attempt at a request that nothing calls off, and the world after it. -/
inductive LastReply : Reply → World σ → Prop where
  | intro {n : Nat} (sendable : c.obstacle? url = none) (stops : c.Stops peer method url body w n) :
    LastReply (c.deliveryAt peer method url body w n).reply
      (c.worldAt peer method url body w (n + 1) (c.issuedAt peer method url body w n +
        (c.deliveryAt peer method url body w n).latency))

/-- Which reply is the last one does not depend on alarms. -/
theorem LastReply.exists_under {reply : Reply} (h : c.LastReply peer method url body w reply after)
    (alarms : List Alarm) :
    ∃ later, c.LastReply peer method url body { w with alarms } reply later := by
  cases h with
  | intro sendable stops => exact ⟨_, .intro sendable ⟨stops.allowed, stops.before, stops.last⟩⟩

/-- The last reply decides, unless the request is called off before. -/
theorem LastReply.run_send {reply : Reply}
    (h : c.LastReply peer method url body w reply after) :
    let run := Session.run ((c.transport peer).send method url body) w
    run = .ok (outcome url reply, after) ∨ CalledOff w run := by
  cases h with
  | intro sendable stops =>
    rcases c.run_send_at peer method url body (w := w) sendable with ⟨n, hstops, hrun⟩ | hcalled
    · obtain rfl := stops.eq hstops
      exact .inl hrun
    · exact .inr hcalled

/-- **A request that nothing calls off cannot be sent or comes to what its last reply says.** -/
theorem run_send_iff (hquiet : w.alarms = []) {result : Except Error Json} :
    Session.run ((c.transport peer).send method url body) w = .ok (result, after) ↔
      (∃ e, c.obstacle? url = some e ∧ result = .error e ∧ after = w) ∨
        ∃ reply, c.LastReply peer method url body w reply after ∧ result = outcome url reply := by
  constructor
  · intro h
    cases hsendable : c.obstacle? url with
    | some e =>
      have hrun := run_attempts_of_obstacle hsendable peer method body
        c.http.retry.maxRetries.toNat 0 w
      obtain ⟨rfl, rfl⟩ := Prod.mk.inj (Except.ok.inj (h.symm.trans hrun))
      exact .inl ⟨e, rfl, rfl, rfl⟩
    | none =>
      rcases c.run_send_at peer method url body (w := w) hsendable with ⟨n, hstops, hrun⟩ | hcalled
      · obtain ⟨rfl, rfl⟩ := Prod.mk.inj (Except.ok.inj (h.symm.trans hrun))
        exact .inr ⟨_, .intro hsendable hstops, rfl⟩
      · exact absurd hcalled (not_calledOff hquiet)
  · rintro (⟨e, hsome, rfl, rfl⟩ | ⟨reply, hlast, rfl⟩)
    · exact run_attempts_of_obstacle hsome peer method body _ 0 _
    · exact hlast.run_send.resolve_right (not_calledOff hquiet)

theorem obstacle_ne_notFound (c : Client) (url : Url) (reason : String) :
    c.obstacle? url ≠ some (.notFound reason) := by
  intro h
  obtain ⟨_, ⟨⟩⟩ := eq_http_of_obstacle h

/-- **A request is not found exactly if its last reply is a 404.** -/
theorem run_send_notFound_iff (hquiet : w.alarms = []) {reason : String} :
    Session.run ((c.transport peer).send method url body) w =
        .ok (.error (.notFound reason), after) ↔
      ∃ text, c.LastReply peer method url body w (.answered 404 text) after ∧
        reason = String.ofList (Text.Utf8.decode text) := by
  have hstatus (text : List UInt8) : outcome url (.answered 404 text) =
      .error (.notFound (String.ofList (Text.Utf8.decode text))) :=
    (told_outcome url _).failure 404 text rfl (by omega)
  rw [run_send_iff hquiet]
  constructor
  · rintro (⟨e, hsome, he, -⟩ | ⟨reply, hlast, hresult⟩)
    · obtain rfl := Except.error.inj he
      exact absurd hsome (obstacle_ne_notFound c url reason)
    · obtain ⟨text, rfl⟩ := (told_outcome url reply).notFound_iff.mp ⟨reason, hresult.symm⟩
      rw [hstatus] at hresult
      exact ⟨text, hlast, Error.notFound.inj (Except.error.inj hresult)⟩
  · rintro ⟨text, hlast, rfl⟩
    exact .inr ⟨_, hlast, (hstatus text).symm⟩

end Last

/-! ### A service that is busy at first -/

/-- A client of the service with standard settings and a token. -/
def standardClient : Client :=
  ⟨serviceUrl [""], .standard, some "key", "agent"⟩

/-- Too busy at first, then silent, then well. -/
def recovering : Peer Nat :=
  .inOrder fun
    | 0 => ⟨5, .answered 503 []⟩
    | 1 => ⟨0, .stalled⟩
    | _ => ⟨7, .answered 200 "true".toUTF8.toList⟩

/-- The third attempt succeeds, half a second and then a second after the failures before it. -/
theorem send_attempts_recovering :
    let url := serviceUrl ["v1", "things"]
    let request := standardClient.request .get url none
    ∃ after, Session.run ((standardClient.transport recovering).send .get url none)
        ⟨0, [], [], 0⟩ = .ok (.ok (.bool true), after) ∧
      after.sent = [(0, request), (500000005, request), (31500000005, request)] ∧
      after.now = 31500000012 := by
  intro url request
  obtain ⟨-, -, -, hsend⟩ :=
    send_attempts standardClient recovering .get url none ⟨0, [], [], 0⟩ rfl
  obtain ⟨n, issued, after, hrun, hsent⟩ := hsend (by decide)
  obtain rfl : n = 3 := hsent.settled rfl 2 (by decide) (by decide)
  have hfirst : issued 1 = 500000005 := by
    rw [hsent.waits 0 (by decide), hsent.begins]
    decide +kernel
  have hsecond : issued 2 = 31500000005 := by
    rw [hsent.waits 1 (by decide), hfirst]
    decide +kernel
  have hthird : outcome url
      (standardClient.deliveryAt recovering .get url none ⟨0, [], [], 0⟩ 2).reply =
        .ok (.bool true) := by
    decide +kernel
  refine ⟨after, hrun.trans (by rw [hthird]), ?_, ?_⟩
  · rw [hsent.sent]
    show [(issued 0, request), (issued 1, request), (issued 2, request)] = _
    rw [hsent.begins, hfirst, hsecond]
  · rw [hsent.ends, hsecond]
    decide +kernel

end Client

end CloudApi
