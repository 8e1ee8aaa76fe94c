/-
Module: LibRasta/Transport/Sending.lean
source: src/c/redundancy/rasta_red_multiplexer.c, src/c/transport/tcp_base.c, src/c/transport/tcp.c, src/c/transport/bsd_utils.c
digest: What a message goes out on: every channel that is connected once it has been sent, each once; and what it costs a client to send while a channel does not come up: a descriptor for each attempt, until there are none left.
-/

import LibRasta.Transport.Hangup

set_option autoImplicit false
set_option relaxedAutoImplicit false

namespace LibRasta.Transport

open LibRasta.Lib
open LibRasta.Util
open LibRasta.Retransmission (RastaRole)

section FanOut

variable {mux : RedundancyMux} {c : ℕ}

/-- Only channel `c` has changed. -/
structure OnlyChannel (c : ℕ) (mux mux' : RedundancyMux) : Prop where
  length_eq : mux'.channels.length = mux.channels.length
  role : mux'.role = mux.role
  others : ∀ d, d ≠ c → mux'.channels[d]? = mux.channels[d]?

theorem transportConnect_only (mux : RedundancyMux) (i c : ℕ) (dial : Dial) :
    Outcome (OnlyChannel c mux) (fun _ => True) (transportConnect mux i c dial) := by
  cases hsocket : mux.sockets[i]? with
  | none =>
    unfold transportConnect
    rw [hsocket]
    trivial
  | some socket =>
    cases hchannel : mux.channels[c]? with
    | none =>
      unfold transportConnect
      rw [hsocket, hchannel]
      trivial
    | some channel =>
      refine (transportConnect_cases hsocket hchannel dial).mono ?_ fun _ _ => trivial
      rintro mux' (rfl | ⟨-, -, rfl⟩)
      · exact ⟨List.length_set, rfl, fun d hd => List.getElem?_set_ne hd.symm⟩
      · exact ⟨List.length_set, rfl, fun d hd => List.getElem?_set_ne hd.symm⟩

theorem transportRedial_only (mux : RedundancyMux) (c : ℕ) (dial : Dial) :
    Outcome (OnlyChannel c mux) (fun _ => True) (transportRedial mux c dial) := by
  unfold transportRedial
  split
  · trivial
  · next i _ =>
    split
    · trivial
    · next socket _ =>
      refine ((bsdCreateSocket_opens mux.kernel).mono (fun _ h => h) fun _ _ => trivial).bind ?_
      rintro ⟨kernel, fd⟩ -
      refine (transportConnect_only _ i c dial).bind ?_
      rintro mux' ⟨hlength, hrole, hothers⟩
      cases mux'.isConnected c with
      | false => exact ⟨hlength, hrole, hothers⟩
      | true => exact ⟨hlength, hrole, hothers⟩

theorem reconnect_only (mux : RedundancyMux) (dials : ℕ → Dial) (c : ℕ) :
    Outcome
      (fun mux' => OnlyChannel c mux mux' ∧ (mux.isConnected c = true → mux' = mux) ∧
        (mux.role = .server → mux' = mux))
      (fun _ => True) (reconnect dials mux c) := by
  unfold reconnect
  split
  · exact ⟨⟨rfl, rfl, fun _ _ => rfl⟩, fun _ => rfl, fun _ => rfl⟩
  · next hoff =>
    split
    · next hclient =>
      refine (transportRedial_only mux c (dials c)).mono ?_ fun _ _ => trivial
      intro mux' hmux'
      refine ⟨hmux', fun hon => absurd hon hoff, fun hserver => ?_⟩
      cases hserver.symm.trans hclient
    · exact ⟨⟨rfl, rfl, fun _ _ => rfl⟩, fun _ => rfl, fun _ => rfl⟩

/-- What the loop over the channels has done before channel `k`. -/
structure SentUpTo (mux : RedundancyMux) (k : ℕ) (s : RedundancyMux × List ℕ) : Prop where
  length_eq : s.1.channels.length = mux.channels.length
  sent : s.2 = (List.range k).filter s.1.isConnected
  kept : ∀ d, mux.isConnected d = true → s.1.isConnected d = true
  server : mux.role = .server → s.1 = mux

theorem isConnected_congr {mux' : RedundancyMux} {d : ℕ}
    (h : mux'.channels[d]? = mux.channels[d]?) : mux'.isConnected d = mux.isConnected d := by
  rw [RedundancyMux.isConnected, RedundancyMux.isConnected, h]

theorem SentUpTo.reconnected {start : RedundancyMux} {list : List ℕ} {mux' : RedundancyMux}
    (h : SentUpTo start c (mux, list)) (honly : OnlyChannel c mux mux')
    (hon : mux.isConnected c = true → mux' = mux) (hserver : mux.role = .server → mux' = mux) :
    mux'.channels.length = start.channels.length ∧
      list = (List.range c).filter mux'.isConnected ∧
      (∀ d, start.isConnected d = true → mux'.isConnected d = true) ∧
      (start.role = .server → mux' = start) := by
  obtain ⟨h1, h2, h3, h4⟩ := h
  refine ⟨honly.length_eq.trans h1, ?_, ?_, ?_⟩
  · refine h2.trans (List.filter_congr fun d hd => ?_)
    have hne : d ≠ c := by
      have := List.mem_range.mp hd
      omega
    exact (isConnected_congr (honly.others d hne)).symm
  · intro d hd
    by_cases heq : d = c
    · subst heq
      rw [hon (h3 d hd)]
      exact h3 d hd
    · rw [isConnected_congr (honly.others d heq)]
      exact h3 d hd
  · intro hrole
    have heq : mux = start := h4 hrole
    rw [hserver (by rw [heq]; exact hrole), heq]

theorem SentUpTo.next {start : RedundancyMux} {list : List ℕ} (h : SentUpTo start c (mux, list))
    (dials : ℕ → Dial) (sent : ℕ → Bool) :
    Outcome (SentUpTo start (c + 1)) (fun _ => True) (sendOnChannel dials sent (mux, list) c) := by
  unfold sendOnChannel
  refine (reconnect_only mux dials c).bind ?_
  rintro mux' ⟨honly, hon, hserver⟩
  obtain ⟨hlength, hlist, hkept, hstart⟩ := h.reconnected honly hon hserver
  have hskip : mux'.isConnected c = false → SentUpTo start (c + 1) (mux', list) := by
    intro hoff
    refine ⟨hlength, ?_, hkept, hstart⟩
    rw [List.range_succ, List.filter_append, ← hlist]
    simp [hoff]
  split
  · next hnone =>
    refine hskip ?_
    rw [RedundancyMux.isConnected, hnone]
    rfl
  · next channel hchannel =>
    have hc := isConnected_eq hchannel
    split
    · next hconnected =>
      refine Outcome.bind (p := fun _ => True) ?_ fun _ _ => ⟨hlength, ?_, hkept, hstart⟩
      · cases tcpSend mux'.kernel channel (sent c) with
        | ok _ => trivial
        | error _ => trivial
      · rw [List.range_succ, List.filter_append, ← hlist]
        simp [hc, hconnected]
    · next hoff =>
      exact hskip (hc.trans (Bool.eq_false_iff.mpr hoff))

theorem sendOnChannels_spec (mux : RedundancyMux) (dials : ℕ → Dial) (sent : ℕ → Bool) :
    Outcome (SentUpTo mux mux.channels.length) (fun _ => True) (sendOnChannels mux dials sent) := by
  refine Outcome.foldlM_range (p := SentUpTo mux) (fun c s _ hs => hs.next dials sent) ?_
  exact ⟨rfl, rfl, fun _ hd => hd, fun _ => rfl⟩

/-- In every orderly run a message goes out once on each channel that is connected when it has been
sent, those that were before among them, on descriptors of their own that have a peer. -/
theorem fan_out {part : RastaRole} {kernel : Kernel} {portCount : ℕ}
    {remote : List (Bytes × UInt16)}
    (halloc : redundancyMuxAllocateChannels kernel portCount remote = .ok mux) {calls : List Call}
    (hcalls : RunOk processStep (OrderlyCall part) (.ok mux) calls) {reached : RedundancyMux}
    (hreached : run processStep (.ok mux) calls = .ok reached) (hrole : reached.role = part)
    (dials : ℕ → Dial) (sent : ℕ → Bool) :
    Outcome
      (fun s =>
        s.2 = (List.range reached.channels.length).filter s.1.isConnected ∧
        (∀ c, reached.isConnected c = true → c ∈ s.2) ∧
        ∀ c ∈ s.2, ∃ channel, s.1.channels[c]? = some channel ∧
          s.1.kernel.descriptor channel.fileDescriptor = some .connected ∧
          ∀ d ∈ s.2, ∀ other, s.1.channels[d]? = some other →
            channel.fileDescriptor = other.fileDescriptor → c = d)
      Fault.External (sendOnChannels reached dials sent) := by
  have hstart : Outcome (Sound part) Fault.External (Except.ok mux) := allocated_sound part halloc
  have hsound : Sound part reached := (run_sound hstart hcalls).of_ok hreached
  have hall := hsound.sendAll hrole dials sent
  have hspec := sendOnChannels_spec reached dials sent
  cases hresult : sendOnChannels reached dials sent with
  | error fault => exact hall.of_error hresult
  | ok s =>
    obtain ⟨hlength, hsent, hkept, -⟩ := hspec.of_ok hresult
    have hafter := (hall.of_ok hresult).1
    have hon : ∀ c ∈ s.2, ∃ channel, s.1.channels[c]? = some channel ∧
        channel.connected = true := by
      intro c hc
      rw [hsent, List.mem_filter, List.mem_range] at hc
      have hlt : c < s.1.channels.length := by
        rw [hlength]
        exact hc.1
      refine ⟨s.1.channels[c], List.getElem?_eq_getElem hlt, ?_⟩
      rw [← isConnected_eq (List.getElem?_eq_getElem hlt)]
      exact hc.2
    refine ⟨hsent, ?_, ?_⟩
    · intro c hc
      rw [hsent, List.mem_filter, List.mem_range]
      refine ⟨?_, hkept c hc⟩
      by_contra hout
      rw [RedundancyMux.isConnected, List.getElem?_eq_none (Nat.le_of_not_lt hout)] at hc
      cases hc
    · intro c hc
      obtain ⟨channel, hchannel, hchannelOn⟩ := hon c hc
      refine ⟨channel, hchannel, (hafter.channels c channel hchannel).held hchannelOn, ?_⟩
      intro d hd other hother heq
      obtain ⟨other', hother', hotherOn⟩ := hon d hd
      rw [hother] at hother'
      cases hother'
      exact hafter.distinct c d channel other hchannel hother hchannelOn hotherOn heq

/-- The second channel does not come up. -/
def exampleOutage : List Call :=
  [.connect fun c => if c = 0 then .established else .refused, .initConnection .client]

/-- A message reaches the channel that is connected, and the other one again. -/
theorem fan_out_redial :
    (exampleAfter exampleOutage).isConnected 1 = false ∧
      (sendOnChannels (exampleAfter exampleOutage) (fun _ => .established) fun _ => true).map
          Prod.snd = .ok [0, 1] ∧
      Outcome
        (fun s =>
          s.2 = (List.range (exampleAfter exampleOutage).channels.length).filter s.1.isConnected ∧
          (∀ c, (exampleAfter exampleOutage).isConnected c = true → c ∈ s.2) ∧
          ∀ c ∈ s.2, ∃ channel, s.1.channels[c]? = some channel ∧
            s.1.kernel.descriptor channel.fileDescriptor = some .connected ∧
            ∀ d ∈ s.2, ∀ other, s.1.channels[d]? = some other →
              channel.fileDescriptor = other.fileDescriptor → c = d)
        Fault.External
        (sendOnChannels (exampleAfter exampleOutage) (fun _ => .established) fun _ => true) :=
  have halloc : redundancyMuxAllocateChannels exampleKernel 2 exampleRemote = .ok exampleMux := by
    decide +kernel
  have hcalls : RunOk processStep (OrderlyCall .client) (.ok exampleMux) exampleOutage := by
    decide +kernel
  have hreached : run processStep (.ok exampleMux) exampleOutage =
      .ok (exampleAfter exampleOutage) := by decide +kernel
  ⟨by decide +kernel, by decide +kernel,
    fan_out halloc hcalls hreached (by decide +kernel) (fun _ => .established) fun _ => true⟩

end FanOut

section Association

variable {mux : RedundancyMux} {c : ℕ}

/-- What is associated with the socket of its own place stays so. -/
structure Settles (mux mux' : RedundancyMux) : Prop where
  length_eq : mux'.channels.length = mux.channels.length
  own : ∀ c, mux.association c = some c → mux'.association c = some c

theorem Settles.refl (mux : RedundancyMux) : Settles mux mux := ⟨rfl, fun _ h => h⟩

theorem Settles.trans {mux' mux'' : RedundancyMux} (h : Settles mux mux')
    (h' : Settles mux' mux'') : Settles mux mux'' :=
  ⟨h'.length_eq.trans h.length_eq, fun c hc => h'.own c (h.own c hc)⟩

theorem transportConnect_associates (mux : RedundancyMux) (i c : ℕ) (dial : Dial) :
    Outcome (fun mux' => mux'.association c = some i) (fun _ => True)
      (transportConnect mux i c dial) := by
  cases hsocket : mux.sockets[i]? with
  | none =>
    unfold transportConnect
    rw [hsocket]
    trivial
  | some socket =>
    cases hchannel : mux.channels[c]? with
    | none =>
      unfold transportConnect
      rw [hsocket, hchannel]
      trivial
    | some channel =>
      have hc := (List.getElem?_eq_some_iff.mp hchannel).1
      refine (transportConnect_cases hsocket hchannel dial).mono ?_ fun _ _ => trivial
      rintro mux' (rfl | ⟨-, -, rfl⟩)
      · simp [RedundancyMux.association, List.getElem?_set_self hc]
      · simp [RedundancyMux.association, List.getElem?_set_self hc]

theorem OnlyChannel.settles {mux' : RedundancyMux} (h : OnlyChannel c mux mux')
    (hown : mux.association c = some c → mux'.association c = some c) : Settles mux mux' := by
  refine ⟨h.length_eq, fun d hd => ?_⟩
  by_cases heq : d = c
  · subst heq
    exact hown hd
  · rw [RedundancyMux.association, h.others d heq]
    exact hd

theorem connect_settles (mux : RedundancyMux) (dials : ℕ → Dial) :
    Outcome
      (fun mux' => Settles mux mux' ∧ ∀ c < mux.channels.length, mux'.association c = some c)
      (fun _ => True) (redundancyChannelConnect mux dials) := by
  refine Outcome.foldlM_range (p := fun k mux' =>
    Settles mux mux' ∧ ∀ c < k, mux'.association c = some c) ?_
    ⟨.refl mux, fun _ hc => absurd hc (Nat.not_lt_zero _)⟩
  rintro k mux' - ⟨hsettles, hown⟩
  have honly := transportConnect_only mux' k k (dials k)
  have hassociates := transportConnect_associates mux' k k (dials k)
  cases hresult : transportConnect mux' k k (dials k) with
  | error fault => trivial
  | ok next =>
    have hk : next.association k = some k := hassociates.of_ok hresult
    have hnext := (honly.of_ok hresult).settles fun _ => hk
    refine ⟨hsettles.trans hnext, fun c hc => ?_⟩
    by_cases heq : c = k
    · rw [heq]
      exact hk
    · exact hnext.own c (hown c (by omega))

theorem redial_settles (mux : RedundancyMux) (c : ℕ) (dial : Dial) :
    Outcome (Settles mux) (fun _ => True) (transportRedial mux c dial) := by
  have hown : Outcome (fun mux' => mux.association c = some c → mux'.association c = some c)
      (fun _ => True) (transportRedial mux c dial) := by
    unfold transportRedial
    split
    · trivial
    · next i hi =>
      split
      · trivial
      · next socket _ =>
        refine ((bsdCreateSocket_opens mux.kernel).mono (fun _ h => h) fun _ _ => trivial).bind ?_
        rintro ⟨kernel, fd⟩ -
        refine (transportConnect_associates _ i c dial).bind ?_
        intro mux' hmux'
        have hback : mux.association c = some c → mux'.association c = some c := by
          intro hc
          cases Option.some.inj (hi.symm.trans hc)
          exact hmux'
        cases mux'.isConnected c with
        | false => exact hback
        | true => exact hback
  have honly := transportRedial_only mux c dial
  cases hresult : transportRedial mux c dial with
  | error fault => trivial
  | ok mux' => exact (honly.of_ok hresult).settles (hown.of_ok hresult)

theorem reconnect_settles (mux : RedundancyMux) (dials : ℕ → Dial) (c : ℕ) :
    Outcome (Settles mux) (fun _ => True) (reconnect dials mux c) := by
  unfold reconnect
  split
  · exact .refl mux
  · split
    · exact redial_settles mux c (dials c)
    · exact .refl mux

theorem send_settles (mux : RedundancyMux) (dials : ℕ → Dial) (sent : ℕ → Bool) :
    Outcome (fun s => Settles mux s.1) (fun _ => True) (sendOnChannels mux dials sent) := by
  refine Outcome.foldlM (fun s c hs => ?_) _ (.refl mux)
  unfold sendOnChannel
  refine (reconnect_settles s.1 dials c).bind ?_
  intro mux' hmux'
  have hnext : Settles mux mux' := Settles.trans hs hmux'
  split
  · exact hnext
  · split
    · refine Outcome.bind (p := fun _ => True) ?_ fun _ _ => hnext
      cases tcpSend mux'.kernel _ (sent c) with
      | ok _ => trivial
      | error _ => trivial
    · exact hnext

theorem Sound.client_settles (h : Sound .client mux) {call : Call}
    (hcall : Orderly .client mux call) :
    Outcome (Settles mux) (fun _ => True) (transportStep mux call) := by
  have hclose : ∀ mux' : RedundancyMux, Sound .client mux' → Settles mux mux' →
      Outcome (Settles mux) (fun _ => True) (redundancyChannelClose mux') := by
    intro mux' hmux' hsettles
    refine hmux'.client_closed_spec.mono ?_ fun _ _ => trivial
    rintro mux'' ⟨-, -, hclosed⟩
    exact hsettles.trans ⟨hclosed.length_eq, fun c hc => (hclosed.associated c).trans hc⟩
  have hbroken : ∀ c, Settles mux (mux.withBroken c) := fun c =>
    ⟨List.length_modify _ _ _, fun d hd => (association_withBroken mux c d).trans hd⟩
  cases call with
  | listen => cases hcall
  | accept i peer => cases hcall
  | connect dials => exact (connect_settles mux dials).mono (fun _ h => h.1) fun _ _ => trivial
  | closed c =>
    rw [transportStep_closed]
    split
    · exact hclose (mux.withBroken c) h.channel_broken (hbroken c)
    · split
      · exact hbroken c
      · exact .refl mux
  | send dials sent =>
    have hsent := send_settles mux dials sent
    simp only [transportStep]
    cases hresult : sendOnChannels mux dials sent with
    | ok s => exact hsent.of_ok hresult
    | error fault => trivial
  | close => exact hclose mux h (.refl mux)
  | initConnection role => exact ⟨rfl, fun _ hc => hc⟩

end Association

section Exhaustion

variable {mux : RedundancyMux} {c : ℕ}

/-- How many of the first channels are not connected. -/
def RedundancyMux.unconnected (mux : RedundancyMux) (k : ℕ) : ℕ :=
  (List.range k).countP fun c => !mux.isConnected c

/-- A message that is sent while no attempt to connect succeeds. -/
def unanswered : Call := .send (fun _ => .refused) fun _ => true

/-- A client each of whose channels has been connected once, or at least tried. -/
structure Tried (mux : RedundancyMux) : Prop where
  sound : Sound .client mux
  own : ∀ c < mux.channels.length, mux.association c = some c

/-- A refused attempt costs a descriptor. -/
theorem Tried.redial_refused (h : Tried mux) (hc : c < mux.channels.length) :
    Outcome
      (fun mux' => OnlyChannel c mux mux' ∧ mux'.isConnected c = false ∧
        mux'.kernel.descriptors.inUse = mux.kernel.descriptors.inUse + 1 ∧
        mux'.kernel.limit = mux.kernel.limit)
      (fun fault => fault = .socket ∧ mux.kernel.limit ≤ mux.kernel.descriptors.inUse)
      (transportRedial mux c .refused) := by
  have hcount := hc
  rw [h.sound.counts] at hcount
  have hsocket : mux.sockets[c]? = some mux.sockets[c] := List.getElem?_eq_getElem hcount
  have hchannel : mux.channels[c]? = some mux.channels[c] := List.getElem?_eq_getElem hc
  have hown : mux.channels[c]?.bind TransportChannel.associatedSocket = some c := h.own c hc
  unfold transportRedial
  rw [hown]
  dsimp only
  rw [hsocket]
  dsimp only
  unfold bsdCreateSocket
  cases hopen : mux.kernel.open_ .created with
  | none => exact ⟨rfl, Kernel.open_eq_none_iff.mp hopen⟩
  | some opened =>
    obtain ⟨kernel, fd⟩ := opened
    obtain ⟨hinUse, hlimit⟩ := Kernel.open_inUse hopen
    let dialed : RedundancyMux := { mux with
      kernel := kernel
      sockets := mux.sockets.set c { mux.sockets[c] with fileDescriptor := fd } }
    have hdialed : dialed.sockets[c]? = some { mux.sockets[c] with fileDescriptor := fd } :=
      List.getElem?_set_self hcount
    refine Outcome.bind (p := fun mux' => OnlyChannel c mux mux' ∧ mux'.isConnected c = false ∧
      mux'.kernel = kernel) ?_ ?_
    · have hcases := @transportConnect_cases dialed c c _ _ hdialed hchannel .refused
      change Outcome _ _ (transportConnect dialed c c .refused)
      cases hresult : transportConnect dialed c c .refused with
      | error fault => cases (hcases.of_error hresult).2
      | ok mux' =>
        obtain rfl | ⟨-, hestablished, -⟩ := hcases.of_ok hresult
        · refine ⟨⟨List.length_set, rfl, fun d hd => List.getElem?_set_ne hd.symm⟩, ?_, rfl⟩
          simp [RedundancyMux.isConnected, dialed, List.getElem?_set_self hc]
        · cases hestablished
    · rintro mux' ⟨hmux', hstill, hkernel⟩
      rw [hstill]
      exact ⟨hmux', hstill, by rw [← hinUse, ← hkernel]; rfl, by rw [← hlimit, ← hkernel]; rfl⟩

theorem unconnected_succ (mux : RedundancyMux) (k : ℕ) :
    mux.unconnected (k + 1) = mux.unconnected k + if mux.isConnected k then 0 else 1 := by
  rw [RedundancyMux.unconnected, List.range_succ, List.countP_append, List.countP_singleton,
    RedundancyMux.unconnected]
  cases mux.isConnected k with
  | false => rfl
  | true => rfl

theorem unconnected_mono (mux : RedundancyMux) {k n : ℕ} (h : k ≤ n) :
    mux.unconnected k ≤ mux.unconnected n :=
  List.Sublist.countP_le (List.range_sublist.mpr h)

/-- What sending in vain has cost before channel `k`. -/
structure Spent (start : RedundancyMux) (k : ℕ) (mux : RedundancyMux) : Prop where
  tried : Tried mux
  length_eq : mux.channels.length = start.channels.length
  same : ∀ d, mux.isConnected d = start.isConnected d
  inUse : mux.kernel.descriptors.inUse = start.kernel.descriptors.inUse + start.unconnected k
  limit : mux.kernel.limit = start.kernel.limit

/-- The end of a process without descriptors. -/
def Fault.Starved (cost : ℕ) (start : RedundancyMux) (fault : Fault) : Prop :=
  fault = .socket ∧ start.kernel.limit < start.kernel.descriptors.inUse + cost

theorem Spent.reconnect_refused {start : RedundancyMux} (h : Spent start c mux)
    (hc : c < start.channels.length) :
    Outcome (Spent start (c + 1)) (Fault.Starved (start.unconnected (c + 1)) start)
      (reconnect (fun _ => .refused) mux c) := by
  obtain ⟨htried, hlength, hsame, hinUse, hlimit⟩ := h
  have hsucc := unconnected_succ start c
  rw [← hsame c] at hsucc
  unfold reconnect
  split
  · next hon =>
    rw [if_pos hon] at hsucc
    exact ⟨htried, hlength, hsame, by rw [hinUse, hsucc]; rfl, hlimit⟩
  · next hoff =>
    rw [if_neg hoff] at hsucc
    rw [if_pos (htried.sound.role rfl)]
    have hoff' : mux.isConnected c = false := Bool.eq_false_iff.mpr hoff
    have hredial := htried.redial_refused (by rw [hlength]; exact hc)
    have hsound := htried.sound.redial hoff' .refused
    have hsettles := redial_settles mux c .refused
    cases hresult : transportRedial mux c .refused with
    | error fault =>
      obtain ⟨hfault, hfull⟩ := hredial.of_error hresult
      refine ⟨hfault, ?_⟩
      omega
    | ok mux' =>
      obtain ⟨honly, hstill, hcost, hsameLimit⟩ := hredial.of_ok hresult
      have hsettled := hsettles.of_ok hresult
      refine ⟨⟨hsound.of_ok hresult, fun d hd => hsettled.own d (htried.own d ?_)⟩,
        honly.length_eq.trans hlength, fun d => ?_, ?_, hsameLimit.trans hlimit⟩
      · rwa [honly.length_eq] at hd
      · by_cases heq : d = c
        · rw [heq, hstill, ← hsame, hoff']
        · rw [isConnected_congr (honly.others d heq), hsame]
      · omega

theorem Tried.send_unanswered (h : Tried mux) :
    Outcome (fun s => Spent mux mux.channels.length s.1)
      (Fault.Starved (mux.unconnected mux.channels.length) mux)
      (sendOnChannels mux (fun _ => .refused) fun _ => true) := by
  refine Outcome.foldlM_range (p := fun k (s : RedundancyMux × List ℕ) => Spent mux k s.1) ?_
    ⟨h, rfl, fun _ => rfl, rfl, rfl⟩
  rintro k ⟨mux', list⟩ hk hspent
  unfold sendOnChannel
  refine ((hspent.reconnect_refused hk).mono (fun _ h => h) ?_).bind ?_
  · rintro fault ⟨hfault, hstarved⟩
    have hmono : mux.unconnected (k + 1) ≤ _ := unconnected_mono mux hk
    exact ⟨hfault, by omega⟩
  · intro next hnext
    split
    · exact hnext
    · next channel hchannel =>
      split
      · next hon =>
        have hheld := (hnext.tried.sound.channels k channel hchannel).held hon
        have hsend : tcpSend next.kernel channel true = .ok () := by
          unfold tcpSend
          rw [if_pos hheld]
          rfl
        rw [hsend]
        exact hnext
      · exact hnext

theorem unconnected_congr {start : RedundancyMux} (h : ∀ d, mux.isConnected d = start.isConnected d)
    (k : ℕ) : mux.unconnected k = start.unconnected k := by
  unfold RedundancyMux.unconnected
  exact List.countP_congr fun d _ => by rw [h d]

/-- Messages sent in vain cost as many descriptors as there are channels not connected, each. -/
theorem Tried.run_unanswered (h : Tried mux) (count : ℕ) :
    Outcome
      (fun mux' => Tried mux' ∧ mux'.channels.length = mux.channels.length ∧
        (∀ d, mux'.isConnected d = mux.isConnected d) ∧ mux'.kernel.limit = mux.kernel.limit ∧
        mux'.kernel.descriptors.inUse =
          mux.kernel.descriptors.inUse + count * mux.unconnected mux.channels.length)
      (Fault.Starved (count * mux.unconnected mux.channels.length) mux)
      (run processStep (.ok mux) (List.replicate count unanswered)) := by
  induction count with
  | zero => exact ⟨h, rfl, fun _ => rfl, rfl, by rw [Nat.zero_mul]; rfl⟩
  | succ count ih =>
    rw [List.replicate_succ', run_append]
    cases hrun : run processStep (.ok mux) (List.replicate count unanswered) with
    | error fault =>
      obtain ⟨hfault, hstarved⟩ := ih.of_error hrun
      refine ⟨hfault, ?_⟩
      rw [Nat.succ_mul]
      omega
    | ok mux' =>
      obtain ⟨htried, hlength, hsame, hlimit, hinUse⟩ := ih.of_ok hrun
      have hsend := htried.send_unanswered
      rw [unconnected_congr hsame, hlength] at hsend
      change Outcome _ _ (transportStep mux' unanswered)
      simp only [unanswered, transportStep]
      rw [Nat.succ_mul]
      cases hresult : sendOnChannels mux' (fun _ => .refused) fun _ => true with
      | error fault =>
        obtain ⟨hfault, hstarved⟩ := hsend.of_error hresult
        refine ⟨hfault, ?_⟩
        omega
      | ok s =>
        obtain ⟨htried', hlength', hsame', hinUse', hlimit'⟩ := hsend.of_ok hresult
        rw [unconnected_congr hsame] at hinUse'
        exact ⟨htried', hlength'.trans hlength, fun d => (hsame' d).trans (hsame d),
          hlimit'.trans hlimit, by omega⟩

theorem Tried.step (h : Tried mux) {call : Call} (hcall : Orderly .client mux call) :
    Outcome Tried (fun _ => True) (transportStep mux call) := by
  have hsound := h.sound.step hcall
  have hsettles := h.sound.client_settles hcall
  cases hresult : transportStep mux call with
  | error fault => trivial
  | ok mux' =>
    obtain ⟨hlength, hown⟩ := hsettles.of_ok hresult
    exact ⟨hsound.of_ok hresult, fun c hc => hown c (h.own c (by rwa [← hlength]))⟩

/-- After the first attempt to connect all channels have been tried. -/
theorem tried_run {front back : List Call} {dials : ℕ → Dial} {reached : RedundancyMux}
    (h : Sound .client mux)
    (hcalls : RunOk processStep (OrderlyCall .client) (.ok mux) (front ++ .connect dials :: back))
    (hreached : run processStep (.ok mux) (front ++ .connect dials :: back) = .ok reached) :
    Tried reached := by
  obtain ⟨hcallsFront, hcallsBack⟩ := (runOk_append processStep).mp hcalls
  have hstart : Outcome (Sound .client) Fault.External (Except.ok mux) := h
  have hfront := run_sound hstart hcallsFront
  rw [run_append, run_cons] at hreached
  obtain ⟨hconnect, hrest⟩ := (runOk_cons processStep).mp hcallsBack
  have hfirst : Outcome Tried (fun _ => True)
      (processStep (run processStep (.ok mux) front) (.connect dials)) := by
    cases hrun : run processStep (.ok mux) front with
    | error fault => trivial
    | ok before =>
      have hbefore := hfront.of_ok hrun
      have hsound := hbefore.step (hconnect before (by rw [hrun]; rfl))
      have hsettles := connect_settles before dials
      change Outcome _ _ (transportStep before (.connect dials))
      simp only [transportStep] at hsound ⊢
      cases hresult : redundancyChannelConnect before dials with
      | error fault => trivial
      | ok after =>
        obtain ⟨hsettled, hown⟩ := hsettles.of_ok hresult
        exact ⟨hsound.of_ok hresult, fun c hc => hown c (by rwa [← hsettled.length_eq])⟩
  have hall : Outcome Tried (fun _ => True)
      (run processStep (processStep (run processStep (.ok mux) front) (.connect dials)) back) := by
    refine run_invariant processStep ?_ hrest hfirst
    rintro (fault | mux') call hmux' horderly
    · trivial
    · exact Tried.step hmux' (horderly mux' rfl)
  exact hall.of_ok hreached

/-- A client that has tried to connect survives exactly as many messages as its descriptors last
while some channels do not come up. -/
theorem client_starves {kernel : Kernel} {portCount : ℕ} {remote : List (Bytes × UInt16)}
    (halloc : redundancyMuxAllocateChannels kernel portCount remote = .ok mux)
    {front back : List Call} {dials : ℕ → Dial} {reached : RedundancyMux}
    (hcalls : RunOk processStep (OrderlyCall .client) (.ok mux) (front ++ .connect dials :: back))
    (hreached : run processStep (.ok mux) (front ++ .connect dials :: back) = .ok reached)
    (count : ℕ) :
    (reached.kernel.descriptors.inUse + count * reached.unconnected reached.channels.length ≤
          reached.kernel.limit →
        ∃ mux', run processStep (.ok reached) (List.replicate count unanswered) = .ok mux') ∧
      (reached.kernel.limit <
          reached.kernel.descriptors.inUse + count * reached.unconnected reached.channels.length →
        run processStep (.ok reached) (List.replicate count unanswered) = .error .socket) := by
  have htried := tried_run (allocated_sound .client halloc) hcalls hreached
  have hrun := htried.run_unanswered count
  cases hresult : run processStep (.ok reached) (List.replicate count unanswered) with
  | ok mux' =>
    obtain ⟨-, -, -, hlimit, hinUse⟩ := hrun.of_ok hresult
    have hle : mux'.kernel.descriptors.inUse ≤ mux'.kernel.limit :=
      List.countP_le_length.trans mux'.kernel.fits
    refine ⟨fun _ => ⟨mux', rfl⟩, fun hstarved => ?_⟩
    omega
  | error fault =>
    obtain ⟨rfl, hstarved⟩ := hrun.of_error hresult
    refine ⟨fun hlasts => ?_, fun _ => rfl⟩
    omega

/-- Five of eight descriptors are in use, and the fourth message is one too many. -/
theorem client_starves_outage :
    (∃ mux', run processStep (.ok (exampleAfter exampleOutage)) (List.replicate 3 unanswered) =
        .ok mux') ∧
      run processStep (.ok (exampleAfter exampleOutage)) (List.replicate 4 unanswered) =
        .error .socket :=
  have halloc : redundancyMuxAllocateChannels exampleKernel 2 exampleRemote = .ok exampleMux := by
    decide +kernel
  have hreached : run processStep (.ok exampleMux) exampleOutage =
      .ok (exampleAfter exampleOutage) := by decide +kernel
  have hcalls : RunOk processStep (OrderlyCall .client) (.ok exampleMux) exampleOutage := by
    decide +kernel
  ⟨(@client_starves _ _ _ _ halloc [] _ _ _ hcalls hreached 3).1 (by decide +kernel),
    (@client_starves _ _ _ _ halloc [] _ _ _ hcalls hreached 4).2 (by decide +kernel)⟩

end Exhaustion

end LibRasta.Transport
