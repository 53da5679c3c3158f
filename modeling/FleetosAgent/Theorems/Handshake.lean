import FleetosAgent.VsockAttest.Handshake

/-! # Safety of the handshake

Whatever the guest sends, the agent speaks in order, answers only a proof it could read, accepts only a host-measured
quote that carries the nonce and the measurement of this very CID, and hands out a config only after it has accepted. -/

namespace FleetosAgent.VsockAttest
open Lib Identity Workloads

/-! ### Acceptance -/

/-- What a production build asks of a proof, given the measurement registered for the peer's CID. -/
structure Accepted (nonce : Bytes 32) (measurement : Option BootMeasurement) (proof : VsockAttestationProof) : Prop where
  hostMeasured : proof.quoteType = QUOTE_TYPE_HOST_MEASURED
  measured : ∃ m, measurement = some m ∧ 32 ≤ proof.rawQuote.length ∧ proof.rawQuote.take 32 = m.combinedHash.toList
  bound : nonce.toList <:+: proof.rawQuote

section Acceptance
variable {proof : VsockAttestationProof} {nonce : Bytes 32} {peerCid : UInt32} {measurement : Option BootMeasurement}

theorem verifyNonceBinding_cases (nonce : Bytes 32) (host : proof.quoteType = QUOTE_TYPE_HOST_MEASURED) :
    (nonce.toList <:+: proof.rawQuote ∧ verifyNonceBinding proof nonce = .ok ()) ∨
      (¬ nonce.toList <:+: proof.rawQuote ∧ ∃ e, verifyNonceBinding proof nonce = .error e) := by
  have found : (windows 32 proof.rawQuote).any (· = nonce.toList) = true ↔ nonce.toList <:+: proof.rawQuote := by
    simp [mem_windows]
  unfold verifyNonceBinding
  rw [if_pos (.inl host)]
  split
  · exact .inl ⟨found.mp ‹_›, rfl⟩
  · exact .inr ⟨mt found.mpr ‹_›, _, rfl⟩

theorem verifyHostMeasured_ok_iff (host : proof.quoteType = QUOTE_TYPE_HOST_MEASURED) :
    (∃ guest, verifyHostMeasured proof nonce peerCid measurement = .ok guest) ↔ Accepted nonce measurement proof := by
  unfold verifyHostMeasured
  obtain ⟨bound, ok⟩ | ⟨unbound, e, failed⟩ := verifyNonceBinding_cases nonce host
  · rw [ok]
    cases measurement with
    | none =>
      refine iff_of_false nofun fun accepted => ?_
      obtain ⟨_, registered, _⟩ := accepted.measured
      nomatch registered
    | some m =>
      simp only [bind, Except.bind]
      split
      · rename_i short
        refine iff_of_false nofun fun accepted => ?_
        obtain ⟨_, _, long, _⟩ := accepted.measured
        exact absurd long (Nat.not_le.mpr short)
      · rename_i long
        split
        · rename_i mismatch
          refine iff_of_false nofun fun accepted => ?_
          obtain ⟨_, same, _, hash⟩ := accepted.measured
          exact absurd (Option.some.inj same ▸ hash) mismatch
        · rename_i hash
          exact ⟨fun _ => ⟨host, ⟨m, rfl, Nat.not_lt.mp long, not_not.mp hash⟩, bound⟩, fun _ => ⟨_, rfl⟩⟩
  · rw [failed]
    exact iff_of_false nofun fun accepted => unbound accepted.bound

theorem verify_production_ok_iff :
    (∃ guest, verify proof nonce peerCid true measurement = .ok guest) ↔ Accepted nonce measurement proof := by
  by_cases host : proof.quoteType = QUOTE_TYPE_HOST_MEASURED
  · have dispatch : verify proof nonce peerCid true measurement = verifyHostMeasured proof nonce peerCid measurement := by
      unfold verify
      rw [if_neg (by rw [host]; decide), if_pos host]
    rw [dispatch, verifyHostMeasured_ok_iff host]
  · refine ⟨fun ⟨guest, ok⟩ => ?_, fun accepted => absurd accepted.hostMeasured host⟩
    -- every other quote type has a branch that fails
    unfold verify verifyDevSoftware at ok
    rw [if_neg host] at ok
    split at ok
    · nomatch ok
    · repeat' split at ok
      all_goals nomatch ok

end Acceptance

theorem attestResult_accepted_iff {verification : Except AgentError VerifiedGuest} :
    (attestResult verification).accepted = true ↔ ∃ guest, verification = .ok guest := by
  cases verification with
  | ok guest => exact iff_of_true rfl ⟨guest, rfl⟩
  | error e => exact iff_of_false nofun nofun

/-! ### Reading the proof -/

/-- The guest's bytes begin with a complete frame of an allowed size that decodes to the proof. -/
def FrameRead (codec : Codec) (input : List UInt8) (proof : VsockAttestationProof) : Prop :=
  ∃ payload, payload.length ≤ MAX_MESSAGE_BYTES ∧ withLength 4 payload <+: input ∧ codec.decodeProof payload = .ok proof

theorem frameRead_iff {codec : Codec} {input : List UInt8} {proof : VsockAttestationProof} :
    FrameRead codec input proof ↔
      4 ≤ input.length ∧ ofLeBytes (input.take 4) ≤ MAX_MESSAGE_BYTES ∧ ofLeBytes (input.take 4) ≤ (input.drop 4).length ∧
        codec.decodeProof ((input.drop 4).take (ofLeBytes (input.take 4))) = .ok proof := by
  have fits : MAX_MESSAGE_BYTES < 256 ^ 4 := by decide
  constructor
  · rintro ⟨payload, small, framed, decoded⟩
    obtain ⟨long, length, complete, taken⟩ := (withLength_prefix_iff (by omega)).mp framed
    rw [length, taken]
    exact ⟨long, small, complete, decoded⟩
  · rintro ⟨long, small, complete, decoded⟩
    have length := List.length_take_of_le complete
    refine ⟨_, length.le.trans small, (withLength_prefix_iff (by omega)).mpr ⟨long, length.symm, ?_, ?_⟩, decoded⟩
    · rw [length]
      exact complete
    · rw [length]

theorem FrameRead.unique {codec : Codec} {input : List UInt8} {proof proof' : VsockAttestationProof}
    (read : FrameRead codec input proof) (read' : FrameRead codec input proof') : proof = proof' := by
  obtain ⟨_, _, _, decoded⟩ := frameRead_iff.mp read
  obtain ⟨_, _, _, decoded'⟩ := frameRead_iff.mp read'
  exact Except.ok.inj (decoded.symm.trans decoded')

/-- A guest that frames its proof is understood, whatever it sends behind the frame. -/
theorem frameRead_framed {codec : Codec} {proof : VsockAttestationProof} {payload : List UInt8}
    (encoded : codec.encode (.proof proof) = .ok payload) (small : payload.length ≤ MAX_MESSAGE_BYTES) (rest : List UInt8) :
    FrameRead codec (withLength 4 payload ++ rest) proof :=
  ⟨payload, small, List.prefix_append _ _, codec.decode_encode encoded⟩

section Connection
variable {api : SpiffeApi} {ca : CaApi api} (codec : Codec) (env : ConnEnv api ca)

/-- `read_msg` touches nothing but the input, and returns exactly the proof of a complete frame. -/
theorem readMsg_spec (stream : Stream) :
    ∃ result input, readMsg codec env stream = (result, { stream with input := input }) ∧
      ∀ proof, result = .ok proof ↔ FrameRead codec stream.input proof := by
  simp only [frameRead_iff]
  unfold readMsg readExact
  by_cases short : stream.input.length < 4
  · rw [if_pos short]
    exact ⟨_, _, rfl, fun proof => iff_of_false nofun fun ⟨long, _⟩ => absurd short (Nat.not_lt.mpr long)⟩
  · rw [if_neg short]
    by_cases large : MAX_MESSAGE_BYTES < ofLeBytes (stream.input.take 4)
    · simp only [if_pos large]
      exact ⟨_, _, rfl, fun proof => iff_of_false nofun fun ⟨_, small, _⟩ => absurd large (Nat.not_lt.mpr small)⟩
    · simp only [if_neg large]
      by_cases cut : (stream.input.drop 4).length < ofLeBytes (stream.input.take 4)
      · simp only [if_pos cut]
        exact ⟨_, _, rfl, fun proof => iff_of_false nofun fun ⟨_, _, whole, _⟩ => absurd cut (Nat.not_lt.mpr whole)⟩
      · simp only [if_neg cut]
        refine ⟨_, _, rfl, fun proof => ?_⟩
        simp only [Nat.not_lt.mp short, Nat.not_lt.mp large, Nat.not_lt.mp cut, true_and]
        cases codec.decodeProof ((stream.input.drop 4).take (ofLeBytes (stream.input.take 4))) <;> simp [Except.mapError]

/-! ### Writing -/

/-- `frame_msg` succeeds on the message. -/
def Framable (msg : Message) : Prop := ∃ framed, frameMsg codec msg = .ok framed

/-- What one `write_msg` can do to the stream. -/
inductive WriteOutcome (stream : Stream) (msg : Message) : Except AgentError Unit × Stream → Prop
  | unframed (e : AgentError) (unframable : ¬ Framable codec msg) : WriteOutcome stream msg (.error e, stream)
  | lost (e : AgentError) (out : Nat) {framed : List UInt8} (frame : frameMsg codec msg = .ok framed)
      (fault : env.writeFault stream.written.length ≠ none) :
      WriteOutcome stream msg
        (.error e, { stream with written := stream.written ++ [msg], output := stream.output ++ framed.take out })
  | sent {framed : List UInt8} (frame : frameMsg codec msg = .ok framed)
      (healthy : env.writeFault stream.written.length = none) :
      WriteOutcome stream msg
        (.ok (), { stream with written := stream.written ++ [msg], output := stream.output ++ framed })

theorem writeMsg_outcome (stream : Stream) (msg : Message) :
    WriteOutcome codec env stream msg (writeMsg codec env stream msg) := by
  unfold writeMsg
  split
  · rename_i e failed
    exact .unframed _ fun ⟨_, framed⟩ => nomatch failed.symm.trans framed
  · rename_i framed frame
    split
    · rename_i e out fault
      exact .lost _ out frame (by rw [fault]; nofun)
    · exact .sent frame ‹_›

/-- The bytes that are out belong to the messages handed to the socket: all of them as long as no write failed, and the
    front of them in any case. -/
def Wire (stream : Stream) : Prop :=
  ∃ frames, List.Forall₂ (fun msg framed => frameMsg codec msg = .ok framed) stream.written frames ∧
    stream.output <+: frames.flatten ∧
    ((∀ i < stream.written.length, env.writeFault i = none) → stream.output = frames.flatten)

variable {codec env}

theorem WriteOutcome.wire {stream : Stream} {msg : Message} {after : Except AgentError Unit × Stream}
    (outcome : WriteOutcome codec env stream msg after) (wire : Wire codec env stream)
    (healthy : ∀ i < stream.written.length, env.writeFault i = none) : Wire codec env after.2 := by
  obtain ⟨frames, framed, _, whole⟩ := wire
  cases outcome with
  | unframed e _ => exact ⟨frames, framed, ‹_›, whole⟩
  | @lost e out bytes frame fault =>
    refine ⟨frames ++ [bytes], List.rel_append framed (.cons frame .nil), ?_, fun none => ?_⟩
    · simp only [whole healthy, List.flatten_append, List.flatten_singleton]
      exact List.prefix_append_right_inj _ |>.mpr (List.take_prefix out bytes)
    · exact absurd (none _ (by simp)) fault
  | @sent bytes frame _ =>
    refine ⟨frames ++ [bytes], List.rel_append framed (.cons frame .nil), ?_, fun _ => ?_⟩ <;>
      simp [whole healthy]

/-! ### The dialogue -/

variable (codec env) (server : VsockAttestServer) (peerCid : UInt32)

def challengeMsg : Message := .challenge ⟨PROTOCOL_VERSION, env.nonce⟩

/-- The production build's verdict on a proof. -/
def verdict (proof : VsockAttestationProof) : Except AgentError VerifiedGuest :=
  verify proof env.nonce peerCid true (server.bootMeasurements.get peerCid)

def resultMsg (proof : VsockAttestationProof) : Message := .result (attestResult (verdict env server peerCid proof))

/-- The config that the verdict on the proof entitles the guest to. -/
def Granted (proof : VsockAttestationProof) (config : WorkloadConfig) : Prop :=
  ∃ guest, verdict env server peerCid proof = .ok guest ∧ workloadConfig env server peerCid guest = .ok config

/-- How far the dialogue with a guest that sends `input` gets, and why not further. -/
inductive Dialogue (input : List UInt8) : List Message → Prop
  | silent (unframable : ¬ Framable codec (challengeMsg env)) : Dialogue input []
  | challenged (framable : Framable codec (challengeMsg env))
      (ended : env.writeFault 0 = none →
        ∀ proof, FrameRead codec input proof → ¬ Framable codec (resultMsg env server peerCid proof)) :
      Dialogue input [challengeMsg env]
  | answered {proof : VsockAttestationProof} (framable : Framable codec (challengeMsg env)) (sent : env.writeFault 0 = none)
      (read : FrameRead codec input proof) (answerable : Framable codec (resultMsg env server peerCid proof))
      (ended : env.writeFault 1 = none → ∀ config, Granted env server peerCid proof config →
        ¬ Framable codec (.config config)) :
      Dialogue input [challengeMsg env, resultMsg env server peerCid proof]
  | configured {proof : VsockAttestationProof} {config : WorkloadConfig} (framable : Framable codec (challengeMsg env))
      (sent : env.writeFault 0 = none) (read : FrameRead codec input proof)
      (answerable : Framable codec (resultMsg env server peerCid proof)) (answered : env.writeFault 1 = none)
      (granted : Granted env server peerCid proof config) (sendable : Framable codec (.config config)) :
      Dialogue input [challengeMsg env, resultMsg env server peerCid proof, .config config]

/-- Step 4 either sends the config the verdict entitles to, or there is none that can be framed. -/
theorem pushConfig_spec (stream : Stream) (proof : VsockAttestationProof) :
    let after := pushConfig codec env server stream peerCid (verdict env server peerCid proof)
    (after.2 = stream ∧ ∀ config, Granted env server peerCid proof config → ¬ Framable codec (.config config)) ∨
      ∃ config, Granted env server peerCid proof config ∧ Framable codec (.config config) ∧
        after.2.written = stream.written ++ [.config config] ∧ WriteOutcome codec env stream (.config config) after := by
  intro after
  unfold after
  cases ruling : verdict env server peerCid proof with
  | error e => exact .inl ⟨rfl, fun config ⟨guest, ok, _⟩ => nomatch ruling.symm.trans ok⟩
  | ok guest =>
    dsimp only [pushConfig]
    cases built : workloadConfig env server peerCid guest with
    | error e =>
      refine .inl ⟨rfl, fun config ⟨guest', ok, built'⟩ => ?_⟩
      cases ruling.symm.trans ok
      exact nomatch built.symm.trans built'
    | ok config =>
      have pushing := writeMsg_outcome codec env stream (.config config)
      dsimp only
      generalize writeMsg codec env stream (.config config) = pushed at pushing ⊢
      cases pushing with
      | unframed e unframable =>
        refine .inl ⟨rfl, fun config' ⟨guest', ok, built'⟩ => ?_⟩
        cases ruling.symm.trans ok
        cases built.symm.trans built'
        exact unframable
      | lost e out frame fault => exact .inr ⟨config, ⟨guest, ruling, built⟩, ⟨_, frame⟩, rfl, .lost e out frame fault⟩
      | sent frame healthy => exact .inr ⟨config, ⟨guest, ruling, built⟩, ⟨_, frame⟩, rfl, .sent frame healthy⟩

variable {codec env server peerCid}

/-- Steps 3 and 4, once the challenge is out and the proof is read. -/
theorem answerProof_dialogue {input : List UInt8} {stream : Stream} {proof : VsockAttestationProof}
    (asked : stream.written = [challengeMsg env]) (wire : Wire codec env stream)
    (framable : Framable codec (challengeMsg env)) (sent : env.writeFault 0 = none) (read : FrameRead codec input proof) :
    let after := (answerProof codec env server true stream peerCid proof).2
    Dialogue codec env server peerCid input after.written ∧ Wire codec env after := by
  intro after
  have answering := writeMsg_outcome codec env stream (resultMsg env server peerCid proof)
  have wireR := answering.wire wire (by simpa [asked] using sent)
  unfold after answerProof
  dsimp only
  rw [← verdict, ← resultMsg]
  generalize writeMsg codec env stream (resultMsg env server peerCid proof) = answer at answering wireR ⊢
  cases answering with
  | unframed e unframable =>
    refine ⟨?_, wire⟩
    rw [asked]
    refine .challenged framable fun _ proof' read' => ?_
    rwa [← read.unique read']
  | lost e out frame fault =>
    refine ⟨?_, wireR⟩
    rw [asked] at fault ⊢
    exact .answered framable sent read ⟨_, frame⟩ fun healthy => absurd healthy fault
  | sent frame healthy =>
    dsimp only at wireR ⊢
    rw [asked] at healthy wireR ⊢
    obtain ⟨kept, withheld⟩ | ⟨config, granted, sendable, pushed, outcome⟩ :=
      pushConfig_spec codec env server peerCid _ proof
    · rw [kept]
      exact ⟨.answered framable sent read ⟨_, frame⟩ fun _ => withheld, wireR⟩
    · rw [pushed]
      refine ⟨.configured framable sent read ⟨_, frame⟩ healthy granted sendable, outcome.wire wireR ?_⟩
      intro i inside
      match i, inside with
      | 0, _ => exact sent
      | 1, _ => exact healthy

variable (codec env server peerCid)

theorem handleConnection_dialogue (input : List UInt8) :
    let after := (handleConnection codec env server true { input := input } peerCid).2
    Dialogue codec env server peerCid input after.written ∧ Wire codec env after := by
  intro after
  have asking := writeMsg_outcome codec env { input := input } (challengeMsg env)
  have wire := asking.wire ⟨[], .nil, List.prefix_rfl, fun _ => rfl⟩ nofun
  unfold after handleConnection
  rw [← challengeMsg]
  generalize writeMsg codec env { input := input } (challengeMsg env) = asked at asking wire ⊢
  cases asking with
  | unframed e unframable => exact ⟨.silent unframable, wire⟩
  | lost e out frame fault => exact ⟨.challenged ⟨_, frame⟩ fun healthy => absurd healthy fault, wire⟩
  | sent frame healthy =>
    dsimp only at wire ⊢
    generalize stream_eq : Stream.mk input ([] ++ [challengeMsg env]) _ = stream at wire ⊢
    obtain ⟨received, rest, read, spec⟩ := readMsg_spec codec env stream
    rw [read]
    subst stream_eq
    cases received with
    | error e => exact ⟨.challenged ⟨_, frame⟩ (fun _ proof framed => nomatch (spec proof).mpr framed), wire⟩
    | ok proof => exact answerProof_dialogue rfl wire ⟨_, frame⟩ healthy ((spec proof).mp rfl)

/-! ### What the dialogue guarantees -/

section Guarantees
variable {codec env server peerCid} {input : List UInt8} {written : List Message}
  (dialogue : Dialogue codec env server peerCid input written)
include dialogue

theorem Dialogue.order :
    ∃ result config, written <+: [challengeMsg env, .result result, .config config] := by
  -- a message that was never reached may be any
  have unsent : WorkloadConfig := { dummyIpRoutes := [], trustDomain := "" }
  cases dialogue with
  | silent => exact ⟨⟨false, ""⟩, unsent, List.nil_prefix⟩
  | challenged => exact ⟨⟨false, ""⟩, unsent, _, rfl⟩
  | answered => exact ⟨_, unsent, [.config unsent], rfl⟩
  | configured => exact ⟨_, _, List.prefix_rfl⟩

theorem Dialogue.result_iff :
    (∃ result, .result result ∈ written) ↔
      (Framable codec (challengeMsg env) ∧ env.writeFault 0 = none) ∧
        ∃ proof, FrameRead codec input proof ∧ Framable codec (resultMsg env server peerCid proof) := by
  cases dialogue with
  | silent unframable => exact iff_of_false nofun fun ⟨⟨framable, _⟩, _⟩ => unframable framable
  | challenged framable ended =>
    refine iff_of_false (by simp [challengeMsg]) ?_
    rintro ⟨⟨_, healthy⟩, proof, read, answerable⟩
    exact ended healthy proof read answerable
  | answered framable sent read answerable ended =>
    exact iff_of_true ⟨_, .tail _ (.head _)⟩ ⟨⟨framable, sent⟩, _, read, answerable⟩
  | configured framable sent read answerable =>
    exact iff_of_true ⟨_, .tail _ (.head _)⟩ ⟨⟨framable, sent⟩, _, read, answerable⟩

/-- The result that was written is the verdict on the proof that was read. -/
theorem Dialogue.result_eq {result : AgentAttestResult} (mem : .result result ∈ written) :
    ∃ proof, FrameRead codec input proof ∧ result = attestResult (verdict env server peerCid proof) := by
  cases dialogue with
  | silent => nomatch mem
  | challenged => simp [challengeMsg] at mem
  | answered _ _ read => exact ⟨_, read, by simpa [challengeMsg, resultMsg] using mem⟩
  | configured _ _ read => exact ⟨_, read, by simpa [challengeMsg, resultMsg] using mem⟩

theorem Dialogue.config_granted {config : WorkloadConfig} (mem : .config config ∈ written) :
    ∃ proof, Granted env server peerCid proof config ∧ resultMsg env server peerCid proof ∈ written := by
  cases dialogue with
  | silent => nomatch mem
  | challenged => simp [challengeMsg] at mem
  | answered => simp [challengeMsg, resultMsg] at mem
  | @configured proof pushed _ _ _ _ _ granted =>
    have same : config = pushed := by simpa [challengeMsg, resultMsg] using mem
    exact ⟨proof, same ▸ granted, by simp⟩

end Guarantees

/-! ### The handshake as a whole -/

/-- What a guest that sends `input` can get out of a connection that ends as `stream`. -/
structure HandshakeSafe (input : List UInt8) (stream : Stream) : Prop where
  order : ∃ result config, stream.written <+: [challengeMsg env, .result result, .config config]
  wire : Wire codec env stream
  /-- A result goes out for a complete frame that decodes to a proof and for nothing else, as far as the agent's own side
      works: the challenge is out and the result can be framed. -/
  result_iff : (∃ result, .result result ∈ stream.written) ↔
    (Framable codec (challengeMsg env) ∧ env.writeFault 0 = none) ∧
      ∃ proof, FrameRead codec input proof ∧ Framable codec (resultMsg env server peerCid proof)
  accepted_iff : ∀ result proof, .result result ∈ stream.written → FrameRead codec input proof →
    (result.accepted = true ↔ Accepted env.nonce (server.bootMeasurements.get peerCid) proof)
  config_after : ∀ config, .config config ∈ stream.written → ∃ result, .result result ∈ stream.written ∧
    result.accepted = true
  config_built : ∀ config, .config config ∈ stream.written → ∃ guest,
    match server.workloadContexts.get peerCid with
    | some ctx => build ca server.configBuilder env.building guest ctx = .ok config
    | none => buildFallback server.configBuilder guest = .ok config ∧
        config.svidCertChainDer = [] ∧ config.svidPrivateKeyDer = []

theorem handshake_safe (input : List UInt8) :
    HandshakeSafe codec env server peerCid input (handleConnection codec env server true { input := input } peerCid).2 := by
  obtain ⟨dialogue, wire⟩ := handleConnection_dialogue codec env server peerCid input
  refine ⟨dialogue.order, wire, dialogue.result_iff, ?_, ?_, ?_⟩
  · intro result proof mem read
    obtain ⟨proof', read', rfl⟩ := dialogue.result_eq mem
    rw [read.unique read', attestResult_accepted_iff]
    exact verify_production_ok_iff
  · intro config mem
    obtain ⟨proof, ⟨guest, ok, _⟩, answered⟩ := dialogue.config_granted mem
    exact ⟨_, answered, attestResult_accepted_iff.mpr ⟨guest, ok⟩⟩
  · intro config mem
    obtain ⟨proof, ⟨guest, _, built⟩, _⟩ := dialogue.config_granted mem
    refine ⟨guest, ?_⟩
    unfold workloadConfig at built
    cases registered : server.workloadContexts.get peerCid with
    | some ctx =>
      rw [registered] at built
      exact built
    | none =>
      rw [registered] at built
      cases built
      exact ⟨rfl, rfl, rfl⟩

/-- A guest whose quote is its measurement and the nonce at once is given a config. -/
example (building : BuildEnv api ca) :
    let zeros : Bytes 32 := .replicate 32 0
    let proof : VsockAttestationProof := ⟨QUOTE_TYPE_HOST_MEASURED, zeros.toList, zeros⟩
    let codec : Codec :=
      { encode := fun | .proof _ => .error "" | _ => .ok [], decodeProof := fun _ => .ok proof, decode_encode := nofun }
    let server : VsockAttestServer :=
      { bootMeasurements := FinMap.insert ∅ 3 ⟨zeros, zeros, zeros, zeros⟩
        configBuilder := { trustDomain := "", svidTtlSecs := 60 } }
    (handleConnection codec { nonce := zeros, building := building } server true { input := [0, 0, 0, 0] }
      3).2.written.length = 3 :=
  rfl

end Connection

end FleetosAgent.VsockAttest
