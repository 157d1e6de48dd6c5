import Proc17.Native.ReportAgreement

/-!
# Finalisation of a report

The end of `native/proc17_qa_report.c`: the supervisor joins the controller's report with
what it saw of the namespace and writes the one public frame.
-/

namespace Proc17.Native.Wire

open Lua Layout List

/-! ## The namespace -/

structure NamespaceObservation where
  controllerPidfdIdentityRetained : UInt8
  terminalRecordComplete : UInt8
  terminalRecordEofObserved : UInt8
  controllerReaped : UInt8
  controllerAuthorityClosed : UInt8

def NamespaceObservation.bytes (o : NamespaceObservation) : Bytes :=
  [o.controllerPidfdIdentityRetained, o.terminalRecordComplete, o.terminalRecordEofObserved,
    o.controllerReaped, o.controllerAuthorityClosed]

/-- `WIFEXITED` and `WEXITSTATUS` of zero. -/
def exitedZero (status : UInt32) : Bool :=
  decide (status &&& 0x7f = 0 ∧ (status &&& 0xff00) >>> 8 = 0)

def namespaceCleanupObserve (o : NamespaceObservation) (controllerWaitStatus : UInt32) :
    Option UInt8 :=
  if o.bytes.any (fun b => decide (1 < b)) then none
  else if o.terminalRecordComplete ≠ 1 then none
  else if o.controllerReaped ≠ 0 ∧ exitedZero controllerWaitStatus = false then none
  else some (if o.controllerPidfdIdentityRetained ≠ 0 ∧ o.terminalRecordEofObserved ≠ 0
    ∧ o.controllerReaped ≠ 0 ∧ o.controllerAuthorityClosed ≠ 0 then 1 else 0)

theorem cleanup_cases {o : NamespaceObservation} {status : UInt32} {complete : UInt8}
    (observed : namespaceCleanupObserve o status = some complete) : complete = 1 ∨ complete = 0 := by
  unfold namespaceCleanupObserve at observed
  split at observed
  · cases observed
  split at observed
  · cases observed
  split at observed
  · cases observed
  rw [← Option.some.inj observed]
  split
  · exact .inl rfl
  · exact .inr rfl

/-! ## Public frames -/

def phaseTerminal : UInt16 := 2
def runContained : UInt16 := 1
def errorAmbiguous : UInt16 := 3
def errorPostflight : UInt16 := 6
def errorCleanup : UInt16 := 7

/-- The copies of `encode_public_error`. -/
def publicErrorFields (report : Octets 572) (identity : PhaseIdentity) (code stage : UInt16) :
    List (Nat × Bytes) :=
  [(0, identity.bytes), (128, putU16 phaseTerminal), (130, putU16 errorAmbiguous),
    (132, putU16 code), (134, putU16 stage), (136, [3]), (137, [2]), (139, [1]),
    (184, window report.bytes 488 sourceStageBytes)]

def encodePublicError (report : Octets 572) (identity : PhaseIdentity) (code stage : UInt16) :
    Option Bytes :=
  let payload := fill runErrorBytes (publicErrorFields report identity code stage)
  if errorValid payload then encodeRunV1 runErrorV1 identity.transaction payload else none

/-- The copies of `proc17_qa_controller_report_finalize`. -/
def publicResultFields (report : Octets 572) (identity : PhaseIdentity) : List (Nat × Bytes) :=
  [(0, identity.bytes), (128, putU16 phaseTerminal), (130, putU16 runContained),
    (132, window report.bytes 176 12), (144, window report.bytes 188 20),
    (164, List.replicate 8 1), (172, window report.bytes 232 streamMeasurementBytes),
    (236, window report.bytes 296 streamMeasurementBytes),
    (300, window report.bytes 360 resourceMeasurementBytes),
    (388, window report.bytes 448 scratchMeasurementBytes),
    (428, window report.bytes 488 sourceStageBytes)]

def Matching (report : Octets 572) (identity : PhaseIdentity) (token : Octets 32) : Prop :=
  window report.bytes 16 identityBytes = identity.bytes
    ∧ window report.bytes 144 digestBytes = token.bytes

instance (report : Octets 572) (identity : PhaseIdentity) (token : Octets 32) :
    Decidable (Matching report identity token) := inferInstanceAs (Decidable (_ ∧ _))

def controllerReportFinalize (report : Octets 572) (expectedIdentity : PhaseIdentity)
    (expectedProcessToken : Octets 32) (controllerWaitStatus : UInt32)
    (observation : NamespaceObservation) : Option Bytes :=
  let kind := privateReportKind report
  if kind = 0 ∨ expectedIdentity.valid = false ∨ digestNonzero expectedProcessToken.bytes = false
      ∨ ¬ Matching report expectedIdentity expectedProcessToken then none
  else do
    let namespaceComplete ← namespaceCleanupObserve observation controllerWaitStatus
    if kind = terminalError then
      if namespaceComplete ≠ 1 then none
      else encodePublicError report expectedIdentity (getU16 report.bytes 176) errorPostflight
    else if namespaceComplete ≠ 1 then
      encodePublicError report expectedIdentity namespaceCleanupIncomplete errorCleanup
    else
      let payload := fill runResultBytes (publicResultFields report expectedIdentity)
      if resultValid payload then
        encodeRunV1 runResultV1 expectedIdentity.transaction payload
      else none

/-! ## The layouts -/

def publicErrorLayout : List (Nat × Nat) :=
  [(0, 128), (128, 2), (130, 2), (132, 2), (134, 2), (136, 1), (137, 1), (139, 1), (184, 84)]

def publicResultLayout : List (Nat × Nat) :=
  [(0, 128), (128, 2), (130, 2), (132, 12), (144, 20), (164, 8), (172, 64), (236, 64), (300, 88),
    (388, 40), (428, 84)]

section
variable (report : Octets 572) (identity : PhaseIdentity)

theorem length_part {offset n : Nat} (small : offset + n ≤ 572) :
    (window report.bytes offset n).length = n := length_window (inside report small)

theorem laid_publicError (code stage : UInt16) :
    Laid 268 publicErrorLayout (publicErrorFields report identity code stage)
      (fill 268 (publicErrorFields report identity code stage)) where
  shape := by
    simp [spans, publicErrorFields, publicErrorLayout, PhaseIdentity.length_bytes, sourceStageBytes,
      length_part]
  apart := by decide
  filled := rfl

theorem laid_publicResult :
    Laid 512 publicResultLayout (publicResultFields report identity)
      (fill 512 (publicResultFields report identity)) where
  shape := by
    simp [spans, publicResultFields, publicResultLayout, PhaseIdentity.length_bytes, sourceStageBytes,
      streamMeasurementBytes, resourceMeasurementBytes, scratchMeasurementBytes, length_part]
  apart := by decide
  filled := rfl

end

/-! ## What the public result carries -/

structure Carries (report : Octets 572) (payload : Bytes) : Prop where
  length : payload.length = 512
  identity : window payload 0 128 = window report.bytes 16 128
  phase : getU16 payload 128 = phaseTerminal
  contained : getU16 payload 130 = runContained
  reason : window payload 132 2 = window report.bytes 176 2
  termination : window payload 134 10 = window report.bytes 178 10
  cause : window payload 144 20 = window report.bytes 188 20
  finality : window payload 164 8 = List.replicate 8 1
  stdout : window payload 172 64 = window report.bytes 232 64
  stderr : window payload 236 64 = window report.bytes 296 64
  resource : window payload 300 88 = window report.bytes 360 88
  scratch : window payload 388 40 = window report.bytes 448 40
  stage : window payload 428 84 = window report.bytes 488 84

structure Reports (report : Octets 572) (code stage : UInt16) (payload : Bytes) : Prop where
  length : payload.length = 268
  identity : window payload 0 128 = window report.bytes 16 128
  phase : getU16 payload 128 = phaseTerminal
  code : getU16 payload 132 = code
  stage : getU16 payload 134 = stage
  known : byteAt payload 139 = 1
  sourceStage : window payload 184 84 = window report.bytes 488 84

section
variable {report : Octets 572} {identity : PhaseIdentity}
  (matched : window report.bytes 16 identityBytes = identity.bytes)
include matched

theorem carries_fill : Carries report (fill 512 (publicResultFields report identity)) := by
  have laid := laid_publicResult report identity
  have member : (132, window report.bytes 176 12) ∈ publicResultFields report identity := by
    simp [publicResultFields]
  have head := laid.part member (by rw [length_part report (by decide)]; decide : 0 + 2 ≤ _)
  have rest := laid.part member (by rw [length_part report (by decide)] : 2 + 10 ≤ _)
  rw [window_window report.bytes (by decide)] at head rest
  exact
    { length := laid.length
      identity := (laid.field (by simp [publicResultFields]) identity.length_bytes).trans matched.symm
      phase := laid.u16 (by simp [publicResultFields])
      contained := laid.u16 (by simp [publicResultFields])
      reason := head
      termination := rest
      cause := laid.field (by simp [publicResultFields]) (length_part report (by decide))
      finality := laid.field (by simp [publicResultFields]) rfl
      stdout := laid.field (by simp [publicResultFields, streamMeasurementBytes])
        (length_part report (by decide))
      stderr := laid.field (by simp [publicResultFields, streamMeasurementBytes])
        (length_part report (by decide))
      resource := laid.field (by simp [publicResultFields, resourceMeasurementBytes])
        (length_part report (by decide))
      scratch := laid.field (by simp [publicResultFields, scratchMeasurementBytes])
        (length_part report (by decide))
      stage := laid.field (by simp [publicResultFields, sourceStageBytes])
        (length_part report (by decide)) }

theorem reports_fill (code stage : UInt16) :
    Reports report code stage (fill 268 (publicErrorFields report identity code stage)) := by
  have laid := laid_publicError report identity code stage
  exact
    { length := laid.length
      identity := (laid.field (by simp [publicErrorFields]) identity.length_bytes).trans matched.symm
      phase := laid.u16 (by simp [publicErrorFields])
      code := laid.u16 (by simp [publicErrorFields])
      stage := laid.u16 (by simp [publicErrorFields])
      known := laid.byte (by simp [publicErrorFields])
      sourceStage := laid.field (by simp [publicErrorFields, sourceStageBytes])
        (length_part report (by decide)) }

end

/-! ## The public payloads are valid -/

section
variable {a b : Bytes} {i j n : Nat} (same : window a i n = window b j n)
include same

theorem window_part {k m : Nat} (small : k + m ≤ n) : window a (i + k) m = window b (j + k) m := by
  rw [← window_window a small, same, window_window b small]

theorem getU16_part {k : Nat} (small : k + 2 ≤ n) : getU16 a (i + k) = getU16 b (j + k) := by
  rw [getU16, window_part same small, getU16]

theorem getU64_part {k : Nat} (small : k + 8 ≤ n) : getU64 a (i + k) = getU64 b (j + k) := by
  rw [getU64, window_part same small, getU64]

end

theorem identityValid_window (payload : Bytes) :
    identityValid (window payload 0 128) = identityValid payload := by
  simp only [identityValid]
  rw [window_window payload (by decide), window_window payload (by decide),
    window_window payload (by decide), window_window payload (by decide)]

theorem getU16_of_bytesZero {input : Bytes} {offset : Nat} (small : offset + 2 ≤ input.length)
    (zero : bytesZero (window input offset 2) = true) : getU16 input offset = 0 := by
  rw [getU16, (bytesZero_window small).mp zero]
  rfl

section
variable {report : Octets 572} {payload : Bytes}

theorem shape_bounds {t : CandidateTermination} (shape : t.shapeValid = true) :
    ¬ t.kind < 1 ∧ ¬ 3 < t.kind := by
  unfold CandidateTermination.shapeValid at shape
  split at shape
  · rename_i ended
    rw [ended]
    decide
  split at shape
  · rename_i ended
    rw [ended]
    decide
  · rw [(of_decide_eq_true shape).1]
    decide

theorem resultValid_of_carries (valid : privateResultValid report = true)
    (carried : Carries report payload) : resultValid payload = true := by
  simp only [privateResultValid, Bool.and_eq_true] at valid
  obtain ⟨⟨⟨⟨⟨⟨⟨⟨⟨⟨⟨⟨⟨⟨head, plain⟩, -⟩, -⟩, -⟩, -⟩, stdout⟩, stderr⟩, resource⟩, scratch⟩, stage⟩,
    -⟩, -⟩, -⟩, evidence⟩ := valid
  simp only [headValid, Bool.and_eq_true] at head
  simp only [reasonEvidenceValid, Bool.and_eq_true, decide_eq_true_eq] at evidence
  obtain ⟨⟨⟨⟨caused, sequenced, first, last, -⟩, shape⟩, -⟩, -⟩ := evidence
  simp only [stageSettled, Bool.and_eq_true] at stage
  have identity : identityValid payload = true := by
    rw [← identityValid_window, carried.identity]
    exact head.1.2
  have reason : getU16 payload 132 = getU16 report.bytes 176 :=
    getU16_part carried.reason (by decide : 0 + 2 ≤ 2)
  have kind : getU16 payload 134 = getU16 report.bytes 178 :=
    getU16_part carried.termination (by decide : 0 + 2 ≤ 10)
  have cause : getU16 payload 144 = getU16 report.bytes 188 :=
    getU16_part carried.cause (by decide : 0 + 2 ≤ 20)
  have blank : getU16 payload 146 = 0 :=
    (getU16_part carried.cause (by decide : 2 + 2 ≤ 20)).trans
      (getU16_of_bytesZero (inside report (by decide)) plain)
  have sequence : getU64 payload 148 = getU64 report.bytes 192 :=
    getU64_part carried.cause (by decide : 4 + 8 ≤ 20)
  have named : ¬ (payload.length ≠ runResultBytes ∨ identityValid payload = false
      ∨ getU16 payload 128 ≠ 2 ∨ getU16 payload 130 ≠ 1) := by
    rintro (long | bare | phase | kept)
    · exact long carried.length
    · rw [identity] at bare
      cases bare
    · exact phase carried.phase
    · exact kept carried.contained
  have bounded : ¬ (getU16 payload 132 < 1 ∨ 9 < getU16 payload 132 ∨ getU16 payload 134 < 1
      ∨ 3 < getU16 payload 134 ∨ getU16 payload 144 ≠ getU16 payload 132 ∨ getU16 payload 146 ≠ 0
      ∨ getU64 payload 148 = 0) := by
    obtain ⟨low, high⟩ := shape_bounds shape
    rw [reason, kind, cause, blank, sequence]
    rintro (small | large | small | large | other | full | unsequenced)
    · exact absurd small (UInt16.not_lt.mpr first)
    · exact absurd large (UInt16.not_lt.mpr last)
    · exact low small
    · exact high large
    · exact other caused
    · exact full rfl
    · exact sequenced unsequenced
  have ones : (List.range 8).all (fun index => decide (byteAt payload (164 + index) = 1)) = true := by
    rw [all_eq_true]
    intro index member
    have small := mem_range.mp member
    have one : window payload (164 + index) 1 = [1] := by
      rw [← window_window payload (by omega : index + 1 ≤ 8), carried.finality, window,
        drop_replicate, take_replicate, Nat.min_eq_left (by omega)]
      rfl
    exact decide_eq_true (byteAt_of_window one)
  unfold resultValid
  rw [if_neg named]
  dsimp only
  rw [if_neg bounded]
  simp only [streamMeasurementBytes, resourceMeasurementBytes, scratchMeasurementBytes,
    sourceStageBytes] at stdout stderr resource scratch stage ⊢
  rw [ones, carried.stdout, carried.stderr, carried.resource, carried.scratch, carried.stage,
    stdout, stderr, resource, scratch, stage.1]
  rfl

end

theorem errorValid_fill {report : Octets 572} {identity : PhaseIdentity} {code stage : UInt16}
    (identified : identity.valid = true)
    (staged : sourceStageValid (window report.bytes 488 84) = true)
    (known : ¬ (code < 1 ∨ 9 < code)) (placed : ¬ (stage < 1 ∨ 7 < stage)) :
    errorValid (fill 268 (publicErrorFields report identity code stage)) = true := by
  have laid := laid_publicError report identity code stage
  have length := laid.length
  generalize fill 268 (publicErrorFields report identity code stage) = payload at *
  unfold publicErrorFields at laid
  have whole : identityValid payload = true := by
    rw [← identityValid_window, laid.field (by simp) identity.length_bytes,
      PhaseIdentity.identityValid_bytes, identified]
  have phase : getU16 payload 128 = phaseTerminal := laid.u16 (by simp)
  have kind : getU16 payload 130 = errorAmbiguous := laid.u16 (by simp)
  have coded : getU16 payload 132 = code := laid.u16 (by simp)
  have staging : getU16 payload 134 = stage := laid.u16 (by simp)
  have started : byteAt payload 136 = 3 := laid.byte (by simp)
  have changed : byteAt payload 137 = 2 := laid.byte (by simp)
  have costed : byteAt payload 138 = 0 := by
    have zero := laid.zero (by decide : 138 + 1 ≤ 268) (by decide)
    rw [window_byteAt (by omega)] at zero
    exact bytesZero_iff.mp zero _ (mem_singleton_self _)
  have sourced : byteAt payload 139 = 1 := laid.byte (by simp)
  have plain : bytesZero (window payload 140 4) = true := laid.zero (by decide) (by decide)
  have plain' : bytesZero (window payload 144 40) = true :=
    laid.zero (by decide) (by decide +kernel)
  have settled : window payload 184 sourceStageBytes = window report.bytes 488 84 :=
    laid.field (by simp [sourceStageBytes]) (length_part report (by decide))
  rw [not_or] at known placed
  simp [errorValid, runErrorBytes, length, whole, phase, kind, coded, staging, started, changed,
    costed, sourced, plain, plain', settled, staged, known, placed, phaseTerminal, errorAmbiguous,
    triState, boolean]

/-! ## One frame -/

def Emits (frame : Option Bytes) (kind : UInt16) (identity : PhaseIdentity)
    (carried : Bytes → Prop) : Prop :=
  ∃ bytes payload, frame = some bytes
    ∧ decodeRunV1 bytes = some ⟨kind, identity.transaction, payload⟩ ∧ carried payload

theorem payloadValid_error (payload : Bytes) : payloadValid runErrorV1 payload = errorValid payload := by
  rw [payloadValid, if_neg (by decide), if_neg (by decide), if_neg (by decide), if_pos rfl]

theorem payloadValid_result (payload : Bytes) :
    payloadValid runResultV1 payload = resultValid payload := by
  rw [payloadValid, if_neg (by decide), if_neg (by decide), if_pos rfl]

theorem emits_of_payloadValid {kind : UInt16} {identity : PhaseIdentity} {payload : Bytes}
    {carried : Bytes → Prop} (valid : payloadValid kind payload = true)
    (bound : window payload 0 128 = identity.bytes) (kept : carried payload) :
    Emits (encodeRunV1 kind identity.transaction payload) kind identity carried := by
  obtain ⟨frame, made⟩ := encode_of_payloadValid identity.transaction valid
  have nonce : identity.transaction.bytes = window payload 0 nonceBytes := by
    rw [← identity.windows.1, ← bound, window_window payload (by decide)]
    rfl
  refine ⟨frame, payload, ?_, ?_, kept⟩
  · rw [encodeRunV1, if_pos valid]
    exact made
  · rw [decodeRunV1_of_encode made, if_pos ⟨valid, nonce⟩]

section
variable {report : Octets 572} {identity : PhaseIdentity} {token : Octets 32} {status : UInt32}
  {observation : NamespaceObservation}

theorem valid_of_kind (accepted : privateReportKind report ≠ 0) :
    (privateReportKind report = terminalResult ∧ privateResultValid report = true)
      ∨ (privateReportKind report = terminalError ∧ privateErrorValid report = true) := by
  unfold privateReportKind at *
  dsimp only at *
  split at accepted
  · rename_i told
    split at accepted
    · rename_i valid
      left
      rw [if_pos told, if_pos valid]
      exact ⟨told, valid⟩
    · exact absurd rfl accepted
  · rename_i other
    split at accepted
    · rename_i told
      split at accepted
      · rename_i valid
        right
        rw [if_neg other, if_pos told, if_pos valid]
        exact ⟨told, valid⟩
      · exact absurd rfl accepted
    · exact absurd rfl accepted

theorem expected_valid {kind : UInt16} (head : headValid kind report.bytes = true)
    (matched : Matching report identity token) :
    identity.valid = true ∧ digestNonzero token.bytes = true := by
  simp only [headValid, Bool.and_eq_true] at head
  obtain ⟨⟨-, identified⟩, nonzero⟩ := head
  rw [matched.1, PhaseIdentity.identityValid_bytes] at identified
  rw [matched.2] at nonzero
  exact ⟨identified, nonzero⟩

theorem accepted_head (accepted : privateReportKind report ≠ 0) :
    headValid (privateReportKind report) report.bytes = true
      ∧ sourceStageValid (window report.bytes 488 84) = true := by
  rcases valid_of_kind accepted with ⟨kind, valid⟩ | ⟨kind, valid⟩
  · simp only [privateResultValid, Bool.and_eq_true] at valid
    obtain ⟨⟨⟨⟨⟨⟨⟨⟨⟨⟨⟨⟨⟨⟨head, -⟩, -⟩, -⟩, -⟩, -⟩, -⟩, -⟩, -⟩, -⟩, stage⟩, -⟩, -⟩, -⟩, -⟩ := valid
    simp only [stageSettled, Bool.and_eq_true] at stage
    exact ⟨kind ▸ head, stage.1⟩
  · simp only [privateErrorValid, Bool.and_eq_true] at valid
    obtain ⟨⟨⟨⟨⟨⟨head, -⟩, -⟩, -⟩, stage⟩, -⟩, -⟩ := valid
    simp only [stageSettled, Bool.and_eq_true] at stage
    exact ⟨kind ▸ head, stage.1⟩

theorem errorCode_cases (valid : privateErrorValid report = true) :
    getU16 report.bytes 176 = outputObservationIncomplete
      ∨ getU16 report.bytes 176 = scratchObservationIncomplete := by
  simp only [privateErrorValid, Bool.and_eq_true] at valid
  obtain ⟨-, cases⟩ := valid
  split at cases
  · rename_i told
    exact .inl told.1
  split at cases
  · rename_i told
    exact .inl told.1
  · exact .inr (of_decide_eq_true cases).1

theorem finalize_of_accepted {complete : UInt8} (accepted : privateReportKind report ≠ 0)
    (matched : Matching report identity token)
    (observed : namespaceCleanupObserve observation status = some complete) :
    controllerReportFinalize report identity token status observation
      = if privateReportKind report = terminalError then
          if complete ≠ 1 then none
          else encodePublicError report identity (getU16 report.bytes 176) errorPostflight
        else if complete ≠ 1 then
          encodePublicError report identity namespaceCleanupIncomplete errorCleanup
        else if resultValid (fill 512 (publicResultFields report identity)) then
          encodeRunV1 runResultV1 identity.transaction
            (fill 512 (publicResultFields report identity))
        else none := by
  obtain ⟨identified, nonzero⟩ := expected_valid (accepted_head accepted).1 matched
  have passed : ¬ (privateReportKind report = 0 ∨ identity.valid = false
      ∨ digestNonzero token.bytes = false ∨ ¬ Matching report identity token) := by
    simp [accepted, identified, nonzero, matched]
  unfold controllerReportFinalize
  dsimp only
  rw [if_neg passed, observed]
  rfl

theorem emits_publicError {code stage : UInt16} (accepted : privateReportKind report ≠ 0)
    (matched : Matching report identity token) (known : ¬ (code < 1 ∨ 9 < code))
    (placed : ¬ (stage < 1 ∨ 7 < stage)) :
    Emits (encodePublicError report identity code stage) runErrorV1 identity
      (Reports report code stage) := by
  obtain ⟨head, staged⟩ := accepted_head accepted
  have identified := (expected_valid head matched).1
  have valid := errorValid_fill identified staged known placed
  have reported := reports_fill matched.1 code stage
  unfold encodePublicError
  dsimp only
  rw [runErrorBytes, if_pos valid]
  rw [← payloadValid_error] at valid
  exact emits_of_payloadValid valid (reported.identity.trans matched.1) reported

theorem emits_publicResult (valid : privateResultValid report = true)
    (matched : Matching report identity token) :
    Emits (encodeRunV1 runResultV1 identity.transaction
      (fill 512 (publicResultFields report identity))) runResultV1 identity (Carries report) := by
  have carried := carries_fill matched.1
  have checked := resultValid_of_carries valid carried
  rw [← payloadValid_result] at checked
  exact emits_of_payloadValid checked (carried.identity.trans matched.1) carried

end

/-! ## Every outcome -/

/-- What finalisation makes of a report, an expected identity and token, and what was seen of
the namespace. -/
structure Outcomes (report : Octets 572) (identity : PhaseIdentity) (token : Octets 32)
    (status : UInt32) (observation : NamespaceObservation) : Prop where
  /-- A result of a namespace that was cleaned up is published with all its evidence. -/
  result : privateReportKind report = terminalResult → Matching report identity token →
    namespaceCleanupObserve observation status = some 1 →
    Emits (controllerReportFinalize report identity token status observation) runResultV1 identity
      (Carries report)
  /-- A result of a namespace that was not is published as an error. -/
  uncleaned : privateReportKind report = terminalResult → Matching report identity token →
    namespaceCleanupObserve observation status = some 0 →
    Emits (controllerReportFinalize report identity token status observation) runErrorV1 identity
      (Reports report namespaceCleanupIncomplete errorCleanup)
  failed : privateReportKind report = terminalError → Matching report identity token →
    namespaceCleanupObserve observation status = some 1 →
    Emits (controllerReportFinalize report identity token status observation) runErrorV1 identity
      (Reports report (getU16 report.bytes 176) errorPostflight)
  silent : privateReportKind report = terminalError →
    namespaceCleanupObserve observation status = some 0 →
    controllerReportFinalize report identity token status observation = none
  refused : privateReportKind report = 0 ∨ ¬ Matching report identity token
      ∨ namespaceCleanupObserve observation status = none →
    controllerReportFinalize report identity token status observation = none

theorem kind_cases (report : Octets 572) :
    privateReportKind report = 0 ∨ privateReportKind report = terminalResult
      ∨ privateReportKind report = terminalError := by
  by_cases accepted : privateReportKind report = 0
  · exact .inl accepted
  · rcases valid_of_kind accepted with ⟨kind, -⟩ | ⟨kind, -⟩
    · exact .inr (.inl kind)
    · exact .inr (.inr kind)

section
variable (report : Octets 572) (identity : PhaseIdentity) (token : Octets 32) (status : UInt32)
  (observation : NamespaceObservation)

theorem outcomes : Outcomes report identity token status observation := by
  have apart : terminalResult ≠ terminalError := by decide
  have some_result : terminalResult ≠ 0 := by decide
  have some_error : terminalError ≠ 0 := by decide
  refine ⟨?_, ?_, ?_, ?_, ?_⟩
  · intro kind matched observed
    have accepted : privateReportKind report ≠ 0 := kind ▸ some_result
    have valid : privateResultValid report = true := by
      rcases valid_of_kind accepted with ⟨-, valid⟩ | ⟨other, -⟩
      · exact valid
      · exact absurd (kind.symm.trans other) apart
    rw [finalize_of_accepted accepted matched observed, kind, if_neg apart, if_neg (by decide),
      if_pos (resultValid_of_carries valid (carries_fill matched.1))]
    exact emits_publicResult valid matched
  · intro kind matched observed
    have accepted : privateReportKind report ≠ 0 := kind ▸ some_result
    rw [finalize_of_accepted accepted matched observed, kind, if_neg apart, if_pos (by decide)]
    exact emits_publicError accepted matched (by decide) (by decide)
  · intro kind matched observed
    have accepted : privateReportKind report ≠ 0 := kind ▸ some_error
    have valid : privateErrorValid report = true := by
      rcases valid_of_kind accepted with ⟨other, -⟩ | ⟨-, valid⟩
      · exact absurd (other.symm.trans kind) apart
      · exact valid
    rw [finalize_of_accepted accepted matched observed, kind, if_pos rfl, if_neg (by decide)]
    refine emits_publicError accepted matched ?_ (by decide)
    rcases errorCode_cases valid with code | code
    · rw [code]
      decide
    · rw [code]
      decide
  · intro kind observed
    unfold controllerReportFinalize
    dsimp only
    split
    · rfl
    · rw [observed]
      rfl
  · intro refused
    unfold controllerReportFinalize
    dsimp only
    split
    · rfl
    · rename_i passed
      simp only [not_or, not_not] at passed
      rcases refused with kind | other | unseen
      · exact absurd kind passed.1
      · exact absurd passed.2.2.2 other
      · rw [unseen]
        rfl

/-- A public result tells of an accepted result and a clean namespace, and what is published
in each case is settled. -/
theorem finalize_outcomes :
    Outcomes report identity token status observation
      ∧ ∀ frame view, controllerReportFinalize report identity token status observation = some frame →
        decodeRunV1 frame = some view → view.kind = runResultV1 →
        privateReportKind report = terminalResult ∧ Matching report identity token
          ∧ namespaceCleanupObserve observation status = some 1 := by
  have settled := outcomes report identity token status observation
  refine ⟨settled, ?_⟩
  intro frame view emitted read published
  have silent : ∀ {carried : Bytes → Prop},
      ¬ Emits (controllerReportFinalize report identity token status observation) runErrorV1
        identity carried := by
    rintro carried ⟨bytes, payload, made, decoded, -⟩
    have same : frame = bytes := Option.some.inj (emitted.symm.trans made)
    rw [same, decoded] at read
    rw [← Option.some.inj read] at published
    have apart : runErrorV1 ≠ runResultV1 := by decide
    exact apart published
  have never : controllerReportFinalize report identity token status observation ≠ none := by
    rw [emitted]
    exact Option.some_ne_none frame
  have seen : namespaceCleanupObserve observation status ≠ none := fun unseen =>
    never (settled.refused (.inr (.inr unseen)))
  have matched : Matching report identity token := by
    by_contra other
    exact never (settled.refused (.inr (.inl other)))
  obtain ⟨complete, observed⟩ := Option.ne_none_iff_exists'.mp seen
  rcases kind_cases report with kind | kind | kind
  · exact absurd (settled.refused (.inl kind)) never
  · rcases cleanup_cases observed with rfl | rfl
    · exact ⟨kind, matched, observed⟩
    · exact absurd (settled.uncleaned kind matched observed) silent
  · rcases cleanup_cases observed with rfl | rfl
    · exact absurd (settled.failed kind matched observed) silent
    · exact absurd (settled.silent kind observed) never

end

/-! ## An error that is not published -/

def sampleErrorInput : ControllerErrorInput where
  identity := sampleReportInput.identity
  processToken := sampleReportInput.processToken
  sourceStage := sampleStage
  errorCode := outputObservationIncomplete
  subject := errorStdout
  candidateTerminalObserved := 1
  processTreeReaped := 1
  stdoutEofObserved := 0
  stderrEofObserved := 1
  scratchObservationComplete := 1
  statusEofObserved := 1

def sampleErrorReport : Octets 572 where
  bytes := fill 572 sampleErrorInput.fields
  width := by decide +kernel

def openNamespace : NamespaceObservation := ⟨1, 1, 1, 1, 0⟩

/-- No frame comes of an accepted error report with an incomplete cleanup. -/
theorem error_report_withheld :
    privateReportKind sampleErrorReport = terminalError
      ∧ Matching sampleErrorReport sampleErrorInput.identity sampleErrorInput.processToken
      ∧ namespaceCleanupObserve openNamespace 0 = some 0
      ∧ controllerReportFinalize sampleErrorReport sampleErrorInput.identity
          sampleErrorInput.processToken 0 openNamespace = none := by
  decide +kernel

end Proc17.Native.Wire
