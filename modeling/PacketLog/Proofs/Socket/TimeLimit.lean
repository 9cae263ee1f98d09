import Mathlib
import PacketLog.Proofs.Socket.History

set_option autoImplicit false

/-! # The time limit of receives

A socket records how long a receive may wait, and the kernel is told in microseconds. Only a change
that the kernel accepts is recorded, so the recorded limit is the one in force
(`Socket.inForce_run`), whatever else happens to the socket in between. A limit below one
microsecond comes down to zero, which sets no limit at all (`recorded_limit_in_force`). -/

namespace PacketLog

/-- Shorter than a microsecond. -/
def Duration.IsBrief (d : Duration) : Prop := d.sec = 0 ∧ d.nanos < 1000

namespace TimeVal

/-- The time value that the kernel is told for a limit. -/
def ofLimit (limit : Option Duration) : TimeVal := (limit.map ofDuration).getD .unlimited

theorem ofDuration_eq_unlimited_iff (d : Duration) : ofDuration d = .unlimited ↔ d.IsBrief := by
  have hsec : d.sec = 0 ↔ d.sec.toNat = 0 := UInt64.toNat_inj.symm
  have hnanos : d.nanos < 1000 ↔ d.nanos.toNat < 1000 := UInt32.lt_iff_toNat_lt
  rw [ofDuration, unlimited, TimeVal.mk.injEq, Duration.IsBrief, hsec, hnanos]
  unfold maxSec
  omega

/-- Only a limit below one microsecond gets lost. -/
theorem ofLimit_eq_unlimited_iff (limit : Option Duration) :
    ofLimit limit = .unlimited ↔ limit = none ∨ ∃ d, limit = some d ∧ d.IsBrief := by
  cases limit with
  | none => simp [ofLimit]
  | some d =>
      have hd := ofDuration_eq_unlimited_iff d
      simpa [ofLimit] using hd

/-- Seconds beyond the range of the kernel's signed number count as the greatest; the others are
kept. -/
theorem sec_ofDuration (d : Duration) :
    (Int64.ofNat (ofDuration d).sec).toInt = (ofDuration d).sec ∧
      ((ofDuration d).sec = d.sec.toNat ∨
        (ofDuration d).sec = 2 ^ 63 - 1 ∧ 2 ^ 63 - 1 < d.sec.toNat) := by
  have hsec : (ofDuration d).sec = min d.sec.toNat (2 ^ 63 - 1) := rfl
  refine ⟨Int64.toInt_ofNat_of_lt (by omega), by omega⟩

end TimeVal

/-- The kernel takes a time value, or fails and keeps the one that it has. -/
theorem Kernel.setTimeout_cases (time : TimeVal) (k : Kernel) :
    (∃ e, k.timeoutError = some e ∧ (k.setTimeout time).result = .error e ∧
        (k.setTimeout time).state = k) ∨
      (k.timeoutError = none ∧ (k.setTimeout time).result = .ok () ∧
        (k.setTimeout time).state = { k with timeout := time }) := by
  unfold setTimeout attempt
  split
  · rename_i e herror
    exact Or.inl ⟨e, herror, rfl, rfl⟩
  · rename_i herror
    exact Or.inr ⟨herror, rfl, rfl⟩

namespace Socket

/-! ## What leaves the limit alone -/

/-- The limit that is in force at the kernel, and the one that is recorded. -/
def limits (s : Socket) : TimeVal × Option Duration := (s.kernel.timeout, s.config.readTimeout)

theorem limits_setReceiveBufferSize (size : Nat) (s : Socket) :
    (s.setReceiveBufferSize size).state.limits = s.limits := by
  have hset (force : Bool) (n : Nat) (k : Kernel) :
      (k.setBufferSize force n).state.timeout = k.timeout := by
    unfold Kernel.setBufferSize Kernel.attempt
    split <;> rfl
  refine Outcome.andThen_keeps limits ?_ fun _ t => ?_
  · split
    · exact congrArg (·, s.config.readTimeout) (hset _ _ _)
    · exact congrArg (·, s.config.readTimeout) ((hset _ _ _).trans (hset _ _ _))
  · dsimp only
    split <;> rfl

theorem limits_receiveDatagram (s : Socket) : s.receiveDatagram.state.limits = s.limits := by
  rw [s.receiveDatagram_eq.2.1]
  rfl

theorem limits_keep (datagram : Bytes) (s : Socket) :
    (s.keep datagram).state.limits = s.limits := by
  unfold keep
  split <;> rfl

theorem limits_awaitVerdict (seq : UInt32) (s : Socket) :
    (s.awaitVerdict seq).state.limits = s.limits := by
  -- along the datagrams that are read: the first four cases end the wait, the others go on
  fun_induction awaitVerdict seq s with
  | case1 s o e h => exact s.limits_receiveDatagram
  | case2 s o d h e hfound => exact s.limits_receiveDatagram
  | case3 s o d h hfound => exact s.limits_receiveDatagram
  | case4 s o d h code hfound => exact s.limits_receiveDatagram
  | case5 s o d h got hfound ih => exact ih.trans s.limits_receiveDatagram
  | case6 s o d h hfound kept ih =>
      exact (ih.trans (limits_keep d o.state)).trans s.limits_receiveDatagram

theorem timeout_sendMessage (bytes : Bytes) (k : Kernel) :
    (sendMessage bytes k).state.timeout = k.timeout := by
  have hsend (k : Kernel) : (k.send bytes).state.timeout = k.timeout := by
    unfold Kernel.send
    split <;> rfl
  fun_induction sendMessage bytes k with
  | case1 k o u h => exact hsend k
  | case2 k o h ih => exact ih.trans (hsend k)
  | case3 k o e h hne => exact hsend k

theorem limits_request (message : Bytes) (s : Socket) :
    (s.request message).state.limits = s.limits := by
  cases hstamp : MessageHeader.stamp message s.nextSeq with
  | error e =>
      rw [request_of_unstamped hstamp]
      rfl
  | ok bytes =>
      have hsent := congrArg (·, s.config.readTimeout) (timeout_sendMessage bytes s.kernel)
      cases hsend : (sendMessage bytes s.kernel).result with
      | error e =>
          rw [request_of_unsent hstamp hsend]
          exact hsent
      | ok u =>
          rw [request_of_sent hstamp hsend]
          exact (limits_awaitVerdict s.nextSeq _).trans hsent

theorem limits_receive (s : Socket) : s.receive.state.limits = s.limits := by
  unfold receive
  split
  · rfl
  · exact s.limits_receiveDatagram

/-! ## Setting the limit -/

/-- The same socket, when the kernel is going to answer so to a change of the limit. -/
def answering (failure : Option OsError) (s : Socket) : Socket :=
  { s with kernel := { s.kernel with timeoutError := failure } }

/-- **A change of the limit is made at the kernel and recorded, or nothing changes.** -/
theorem setReadTimeout_cases (timeout : Option Duration) (s : Socket) :
    (∃ e, s.kernel.timeoutError = some e ∧ (s.setReadTimeout timeout).result = .error (.io e) ∧
        (s.setReadTimeout timeout).state = s) ∨
      (s.kernel.timeoutError = none ∧ (s.setReadTimeout timeout).result = .ok () ∧
        (s.setReadTimeout timeout).state = { s with
          kernel := { s.kernel with timeout := TimeVal.ofLimit timeout }
          config := { s.config with readTimeout := timeout } }) := by
  have hcalled := s.kernel.setTimeout_cases (TimeVal.ofLimit timeout)
  rw [setReadTimeout, ← TimeVal.ofLimit]
  generalize s.kernel.setTimeout (TimeVal.ofLimit timeout) = o at hcalled ⊢
  rcases hcalled with ⟨e, herror, hresult, hstate⟩ | ⟨herror, hresult, hstate⟩
  · have hset : (s.onKernel o).result = .error (.io e) := by
      rw [onKernel, Outcome.result_within, Outcome.result_mapResult, hresult]
      rfl
    rw [Outcome.andThen_of_error hset]
    exact Or.inl ⟨e, herror, rfl, congrArg (fun k => { s with kernel := k }) hstate⟩
  · have hset : (s.onKernel o).result = .ok () := by
      rw [onKernel, Outcome.result_within, Outcome.result_mapResult, hresult]
      rfl
    rw [Outcome.andThen_of_ok hset]
    exact Or.inr ⟨herror, rfl, congrArg (fun k => ({ s with
      kernel := k, config := { s.config with readTimeout := timeout } } : Socket)) hstate⟩

/-- The recorded limit is the one that the kernel was told last. -/
def InForce (s : Socket) : Prop := s.kernel.timeout = TimeVal.ofLimit s.config.readTimeout

theorem InForce.of_limits {s t : Socket} (h : InForce s) (hlimits : t.limits = s.limits) :
    InForce t := by
  obtain ⟨htimeout, hrecorded⟩ := Prod.mk.inj hlimits
  rw [InForce, htimeout, hrecorded]
  exact h

theorem InForce.setReadTimeout {s : Socket} (h : InForce s) (timeout : Option Duration) :
    InForce (s.setReadTimeout timeout).state := by
  rcases s.setReadTimeout_cases timeout with ⟨e, -, -, hstate⟩ | ⟨-, -, hstate⟩
  · rw [hstate]
    exact h
  · rw [hstate]
    rfl

/-- **The options of a configuration** put its limit in force. -/
theorem inForce_configure {s : Socket} (hinitial : s.kernel.timeout = .unlimited)
    (h : s.configure.result = .ok ()) : InForce s.configure.state := by
  obtain ⟨-, resized, -, hset, hresized, hstate⟩ := Outcome.exists_of_andThen h
  have hlimits : resized.limits = s.limits := by
    rw [← hresized]
    split
    · rfl
    · exact limits_setReceiveBufferSize _ s
  rw [configure, hstate]
  cases hrecorded : resized.config.readTimeout with
  | none =>
      show resized.kernel.timeout = TimeVal.ofLimit resized.config.readTimeout
      have htimeout : resized.kernel.timeout = s.kernel.timeout := congrArg Prod.fst hlimits
      rw [hrecorded, htimeout]
      exact hinitial
  | some d =>
      simp only [hrecorded] at hset ⊢
      rcases resized.setReadTimeout_cases (some d) with ⟨e, -, herror, -⟩ | ⟨-, -, hset⟩
      · cases hset.symm.trans herror
      · rw [hset]
        rfl

theorem state_attempt_self (k : Kernel) (call : KernelCall) (error : Option OsError) :
    (k.attempt call error k).state = k := by
  unfold Kernel.attempt
  split <;> rfl

/-- A socket opens only if the limit of its configuration could be set. -/
theorem inForce_of_open {kernel : Kernel} {config : SocketConfig} {seed : UInt32} {s : Socket}
    (hinitial : kernel.timeout = .unlimited)
    (h : (Socket.open kernel config seed).result = .ok s) : InForce s := by
  obtain ⟨-, created, -, h, hcreated, -⟩ := Outcome.exists_of_andThen h
  obtain ⟨-, bound, -, h, hbound, -⟩ := Outcome.exists_of_andThen h
  obtain rfl : kernel = created := (state_attempt_self kernel _ _).symm.trans hcreated
  obtain rfl : kernel = bound := (state_attempt_self kernel _ _).symm.trans hbound
  dsimp only at h
  split at h
  · cases h
  · rename_i hconfigured
    cases h
    exact inForce_configure hinitial hconfigured

/-! ## Runs -/

/-- What can happen to a socket whose kernel does not always answer alike. -/
inductive TimedStep where
  /-- From now on the kernel answers so to a change of the limit. -/
  | answer (failure : Option OsError)
  | step (x : Step)

/-- One step of a run in which the kernel's answers change. -/
def History.timed (h : History) : TimedStep → History
  | .answer failure => { h with socket := h.socket.answering failure }
  | .step x => h.step x

/-- **No step parts the limits.** -/
theorem InForce.timed {h : History} (hforce : InForce h.socket) (x : TimedStep) :
    InForce (h.timed x).socket := by
  cases x with
  | answer failure => exact hforce
  | step x =>
      cases x with
      | request message => exact hforce.of_limits (limits_request message h.socket)
      | receive => exact hforce.of_limits (limits_receive h.socket)
      | reserve size => exact hforce
      | resize size => exact hforce.of_limits (limits_setReceiveBufferSize size h.socket)
      | setTimeout timeout => exact hforce.setReadTimeout timeout
      | arrive a => exact hforce
      | fail e => exact hforce

theorem inForce_run {h : History} (hforce : InForce h.socket) (steps : List TimedStep) :
    InForce (steps.foldl History.timed h).socket := by
  induction steps generalizing h with
  | nil => exact hforce
  | cons x steps ih => exact ih (hforce.timed x)

end Socket

open Socket in
/-- **The recorded limit is the one in force**, after a socket was opened with any configuration and
whatever happened to it then, while the kernel refused some changes of the limit and took others. It
is told to the kernel in whole microseconds. So a receive waits forever if no limit is recorded, and
also if the recorded one is below a microsecond, but under no other limit. Seconds beyond the
kernel's range count as its greatest number, and no others are altered. A change that the kernel
refuses leaves the socket as it was, and one that it takes is recorded. -/
theorem recorded_limit_in_force {kernel : Kernel} {config : SocketConfig} {seed : UInt32}
    {s : Socket} (hinitial : kernel.timeout = .unlimited)
    (hopen : (Socket.open kernel config seed).result = .ok s) (steps : List TimedStep) :
    let t := (steps.foldl History.timed (History.start s)).socket
    let recorded := t.config.readTimeout
    t.kernel.timeout = TimeVal.ofLimit recorded ∧
      (t.kernel.timeout = .unlimited ↔ recorded = none ∨ ∃ d, recorded = some d ∧ d.IsBrief) ∧
      (∀ d, recorded = some d →
        t.kernel.timeout.usec = d.nanos.toNat / 1000 ∧
        (Int64.ofNat t.kernel.timeout.sec).toInt = t.kernel.timeout.sec ∧
        (t.kernel.timeout.sec = d.sec.toNat ∨
          t.kernel.timeout.sec = 2 ^ 63 - 1 ∧ 2 ^ 63 - 1 < d.sec.toNat)) ∧
      ∀ timeout, (∀ e, ((t.answering (some e)).setReadTimeout timeout).result = .error (.io e) ∧
          ((t.answering (some e)).setReadTimeout timeout).state = t.answering (some e)) ∧
        ((t.answering none).setReadTimeout timeout).result = .ok () ∧
          ((t.answering none).setReadTimeout timeout).state.limits =
            (TimeVal.ofLimit timeout, timeout) := by
  intro t recorded
  have hforce : t.kernel.timeout = TimeVal.ofLimit recorded :=
    inForce_run (h := History.start s) (inForce_of_open hinitial hopen) steps
  refine ⟨hforce, ?_, fun d hd => ?_, fun timeout => ⟨fun e => ?_, ?_⟩⟩
  · rw [hforce]
    exact TimeVal.ofLimit_eq_unlimited_iff recorded
  · rw [hforce, hd]
    exact ⟨rfl, TimeVal.sec_ofDuration d⟩
  · rcases (t.answering (some e)).setReadTimeout_cases timeout with
      ⟨e', he, hresult, hstate⟩ | ⟨hnone, -⟩
    · obtain rfl : e = e' := Option.some.inj he
      exact ⟨hresult, hstate⟩
    · cases hnone
  · rcases (t.answering none).setReadTimeout_cases timeout with
      ⟨e, he, -⟩ | ⟨-, hresult, hstate⟩
    · cases he
    · rw [hstate]
      exact ⟨hresult, rfl⟩

open Socket in
/-- A refused change leaves the limit of the configuration in place. The longest limit then comes
down to the greatest number of seconds. -/
theorem recorded_limit_past_refusal :
    let kernel : Kernel := {}
    let config : SocketConfig := { readTimeout := some { sec := 5, nanos := 1500 } }
    let s : Socket := { kernel := { timeout := { sec := 5, usec := 1 } }, address := 4242
                        nextSeq := 7, config }
    let longest : Duration := { sec := 0xffffffffffffffff, nanos := 999999999 }
    let refused : List TimedStep := [.answer (some .notPermitted), .step (.setTimeout none)]
    let accepted : List TimedStep := [.answer none, .step (.setTimeout (some longest))]
    let after (steps : List TimedStep) := (steps.foldl History.timed (History.start s)).socket
    (Socket.open kernel config 7).result = .ok s ∧
      (after refused).limits = ({ sec := 5, usec := 1 }, some { sec := 5, nanos := 1500 }) ∧
      (after (refused ++ accepted)).limits =
        ({ sec := 2 ^ 63 - 1, usec := 999999 }, some longest) := by
  intro kernel config s longest refused accepted after
  have hopen : (Socket.open kernel config 7).result = .ok s := rfl
  have hforce := fun steps => (recorded_limit_in_force (s := s) rfl hopen steps).1
  have hlongest : TimeVal.ofLimit (some longest) = { sec := 2 ^ 63 - 1, usec := 999999 } := by
    decide +zetaReduce
  refine ⟨hopen, ?_, ?_⟩
  · exact Prod.ext (hforce refused) rfl
  · exact Prod.ext ((hforce (refused ++ accepted)).trans hlongest) rfl

/-- A limit of half a microsecond is recorded, and a receive waits forever. -/
theorem brief_limit_waits_forever :
    let config : SocketConfig := { readTimeout := some { sec := 0, nanos := 500 } }
    ∃ s, (Socket.open {} config 7).result = .ok s ∧
      s.config.readTimeout = some { sec := 0, nanos := 500 } ∧
      s.kernel.timeout = .unlimited :=
  ⟨_, rfl, rfl, rfl⟩

end PacketLog
