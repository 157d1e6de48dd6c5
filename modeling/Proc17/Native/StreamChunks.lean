import Proc17.Native.CompletedRun
import Proc17.Native.DigestAgreement

/-!
# Streams in chunks

`proc17_qa_stream_consume` of `native/proc17_qa_stream.c` over any way of cutting the
candidate's output into chunks, with the update loop of `native/proc17_sha256.c`.
-/

namespace Proc17.Native.Wire

open Lua Layout List Wire.StreamObserver

namespace StreamObserver

/-- `proc17_qa_stream_consume`, with the copying loop of `proc17_sha256_update`. -/
def consumeBlocks (o : StreamObserver) (bytes : Bytes) : Option (StreamObserver × Bool) :=
  if o.eofObserved ∨ 2 ^ 64 - 1 - o.observedBytes < bytes.length
      ∨ o.limitBytes < o.hashedBytes then none
  else
    let available := o.limitBytes - o.hashedBytes
    let hashedNow := if available < bytes.length then available else bytes.length
    let hashed :=
      if hashedNow ≠ 0 then
        { o with
          hash := o.hash.updateBlocks (bytes.take hashedNow)
          hashedBytes := o.hashedBytes + hashedNow }
      else o
    let observed := o.observedBytes + bytes.length
    if o.limitCrossed = false ∧ o.limitBytes < observed then
      some ({ hashed with observedBytes := observed, limitCrossed := true }, true)
    else some ({ hashed with observedBytes := observed }, false)

def feed (o : StreamObserver) : List Bytes → Option (StreamObserver × List Bool)
  | [] => some (o, [])
  | chunk :: rest => do
      let (next, crossed) ← o.consumeBlocks chunk
      let (last, answers) ← next.feed rest
      return (last, crossed :: answers)

/-- The stream's end, as `proc17_qa_stream_drain_nonblocking` notes it. -/
def atEof (o : StreamObserver) : StreamObserver := { o with eofObserved := true }

theorem consumeBlocks_eq (o : StreamObserver) (bytes : Bytes) (room : o.hash.block.length < 64) :
    o.consumeBlocks bytes = o.consume bytes := by
  unfold consumeBlocks consume
  split
  · rfl
  next fits =>
    have least : (if o.limitBytes - o.hashedBytes < bytes.length then o.limitBytes - o.hashedBytes
        else bytes.length) = min bytes.length (o.limitBytes - o.hashedBytes) := by
      split <;> omega
    simp only [least]
    generalize min bytes.length (o.limitBytes - o.hashedBytes) = hashedNow
    have hashed : (if hashedNow ≠ 0 then
        { o with
          hash := o.hash.updateBlocks (bytes.take hashedNow)
          hashedBytes := o.hashedBytes + hashedNow }
        else o) = { o with
          hash := o.hash.update (bytes.take hashedNow)
          hashedBytes := o.hashedBytes + hashedNow } := by
      by_cases none : hashedNow = 0
      · have same : o.hash.update [] = o.hash := by
          unfold Sha256.Context.update
          simp
        rw [if_neg (not_not.mpr none), none]
        simp [same]
      · rw [if_pos none, Sha256.updateBlocks_eq _ _ room]
    rw [hashed]
    cases crossed : o.limitCrossed with
    | true => simp
    | false =>
      by_cases beyond : o.limitBytes < o.observedBytes + bytes.length
      · simp [beyond]
      · simp [beyond]

/-- An observer that has seen the bytes `seen`. -/
structure Follows (o : StreamObserver) (limit : Nat) (seen : Bytes) : Prop where
  counted : o.Counted limit
  observed : o.observedBytes = seen.length
  hash : o.hash = Sha256.Context.init.update (seen.take limit)
  flowing : o.eofObserved = false

theorem init_follows (limit : UInt64) : (init limit).Follows limit.toNat [] where
  counted := ⟨rfl, by simp [init], by simp [init], Nat.two_pow_pos 64⟩
  observed := rfl
  hash := by simp [init, Sha256.Context.update]
  flowing := rfl

theorem take_append_chunk (seen chunk : Bytes) (limit : Nat) :
    seen.take limit ++ chunk.take (min chunk.length (limit - min seen.length limit))
      = (seen ++ chunk).take limit := by
  rw [take_append]
  congr 1
  by_cases short : seen.length ≤ limit
  · rw [Nat.min_eq_left short, Nat.min_comm, ← take_take, take_length]
  · have past : limit - seen.length = 0 := by omega
    have full : limit - min seen.length limit = 0 := by omega
    rw [past, full, Nat.min_zero]

theorem consume_follows {o : StreamObserver} {limit : Nat} {seen : Bytes}
    (follows : o.Follows limit seen) (chunk : Bytes)
    (small : (seen ++ chunk).length < 2 ^ 64) :
    ∃ next, o.consumeBlocks chunk
        = some (next, decide (seen.length ≤ limit ∧ limit < (seen ++ chunk).length))
      ∧ next.Follows limit (seen ++ chunk) := by
  obtain ⟨counted, observed, hash, flowing⟩ := follows
  have room : o.hash.block.length < 64 := by rw [hash]; exact Sha256.update_room _
  rw [consumeBlocks_eq o chunk room]
  rw [length_append] at small ⊢
  have bound := counted.bound
  have hashed := counted.hashed
  have fits : ¬ (o.eofObserved = true ∨ 2 ^ 64 - 1 - o.observedBytes < chunk.length
      ∨ o.limitBytes < o.hashedBytes) := by
    rintro (ended | tooLong | overrun)
    · rw [flowing] at ended
      cases ended
    · omega
    · omega
  have crossed : (!o.limitCrossed && decide (o.limitBytes < o.observedBytes + chunk.length))
      = decide (seen.length ≤ limit ∧ limit < seen.length + chunk.length) := by
    rw [counted.crossed, bound, observed]
    by_cases before : limit < seen.length
    · simp [before]
    · simp [before, Nat.not_lt.mp before]
  have consumed : o.consume chunk = some ({ o with
      observedBytes := o.observedBytes + chunk.length
      hashedBytes := o.hashedBytes + min chunk.length (o.limitBytes - o.hashedBytes)
      hash := o.hash.update (chunk.take (min chunk.length (o.limitBytes - o.hashedBytes)))
      limitCrossed := o.limitCrossed || (!o.limitCrossed
        && decide (o.limitBytes < o.observedBytes + chunk.length)) },
      !o.limitCrossed && decide (o.limitBytes < o.observedBytes + chunk.length)) := by
    rw [consume, if_neg fits]
  rw [crossed] at consumed
  refine ⟨_, consumed, ?_⟩
  · have facts := (consume_facts counted consumed).1
    refine ⟨facts, ?_, ?_, flowing⟩
    · simp [observed]
    · dsimp only
      rw [hash, Sha256.update_append, bound, hashed, observed, take_append_chunk]

theorem feed_follows {limit : Nat} (chunks : List Bytes) {o : StreamObserver} {seen : Bytes}
    (follows : o.Follows limit seen) (small : (seen ++ chunks.flatten).length < 2 ^ 64) :
    ∃ last answers, o.feed chunks = some (last, answers)
      ∧ last.Follows limit (seen ++ chunks.flatten)
      ∧ answers.count true
        = if seen.length ≤ limit ∧ limit < (seen ++ chunks.flatten).length then 1 else 0 := by
  induction chunks generalizing o seen with
  | nil =>
    refine ⟨o, [], rfl, by simpa using follows, ?_⟩
    simp
  | cons chunk rest ih =>
    rw [flatten_cons, ← append_assoc] at small ⊢
    have within : (seen ++ chunk).length < 2 ^ 64 := by
      rw [length_append] at small
      omega
    obtain ⟨next, consumed, followed⟩ := consume_follows follows chunk within
    obtain ⟨last, answers, fed, reached, count⟩ := ih followed small
    have fedAll : o.feed (chunk :: rest) = some (last,
        decide (seen.length ≤ limit ∧ limit < (seen ++ chunk).length) :: answers) := by
      rw [feed, consumed]
      simp only [Option.bind_eq_bind, Option.bind_some, fed, Option.pure_def]
    refine ⟨last, _, fedAll, reached, ?_⟩
    rw [count_cons, count]
    simp only [length_append] at small ⊢
    generalize rest.flatten.length = later
    by_cases before : seen.length ≤ limit
    · by_cases here : limit < seen.length + chunk.length
      · have beyond : limit < seen.length + chunk.length + later := by omega
        simp [before, here, beyond, Nat.not_le.mpr here]
      · simp [before, here, Nat.not_lt.mp here]
    · have past : ¬ seen.length + chunk.length ≤ limit := by omega
      simp [before, past]

/-! ## The observer of a report -/

/-- Both models of the struct at one point of a stream: the controller's keeps the hash's state,
the report's the text that was hashed. -/
structure Observes (o : StreamObserver) (s : Native.StreamObserver) : Prop where
  observed : o.observedBytes = s.observed
  hashed : o.hashedBytes = s.hashed
  limit : o.limitBytes = s.limit
  hash : o.hash = Sha256.Context.init.update s.prefixText
  crossed : o.limitCrossed = s.crossed
  flowing : o.eofObserved = false
  small : s.observed < 2 ^ 64

variable {o : StreamObserver} {s : Native.StreamObserver}

theorem init_observes (limit : UInt64) : (init limit).Observes (.init limit.toNat) where
  observed := rfl
  hashed := rfl
  limit := rfl
  hash := by simp [init, Native.StreamObserver.init, Sha256.Context.update]
  crossed := rfl
  flowing := rfl
  small := Nat.two_pow_pos 64

theorem consume_observes (agree : o.Observes s) (chunk : Bytes) :
    Option.Rel (fun entry last => entry.1.Observes last) (o.consumeBlocks chunk)
      (s.consume chunk) := by
  obtain ⟨observed, hashed, limit, hash, crossed, flowing, small⟩ := agree
  have room : o.hash.block.length < 64 := by rw [hash]; exact Sha256.update_room _
  have guards : (o.eofObserved = true ∨ 2 ^ 64 - 1 - o.observedBytes < chunk.length
      ∨ o.limitBytes < o.hashedBytes)
      ↔ 2 ^ 64 ≤ s.observed + chunk.length ∨ s.limit < s.hashed := by
    rw [flowing, observed, limit, hashed]
    simp only [Bool.false_eq_true, false_or]
    omega
  rw [consumeBlocks_eq o chunk room, consume, Native.StreamObserver.consume]
  by_cases refused : 2 ^ 64 ≤ s.observed + chunk.length ∨ s.limit < s.hashed
  · rw [if_pos (guards.mpr refused), if_pos refused]
    exact .none
  · rw [if_neg (mt guards.mp refused), if_neg refused]
    refine .some ⟨?_, ?_, limit, ?_, ?_, flowing, by dsimp only; omega⟩
    · dsimp only
      rw [observed]
    · dsimp only
      rw [hashed, limit]
    · dsimp only
      rw [hash, Sha256.update_append, limit, hashed]
    · dsimp only
      rw [crossed, limit, observed]
      cases s.crossed <;> rfl

theorem feed_observes (chunks : List Bytes) (agree : o.Observes s) :
    Option.Rel (fun entry last => entry.1.Observes last) (o.feed chunks)
      (chunks.foldlM Native.StreamObserver.consume s) := by
  induction chunks generalizing o s with
  | nil => exact .some agree
  | cons chunk rest ih =>
    rw [feed, foldlM_cons]
    have step := consume_observes agree chunk
    generalize o.consumeBlocks chunk = fed at step ⊢
    generalize s.consume chunk = told at step ⊢
    cases step with
    | none => exact .none
    | some followed =>
      rename_i entry last
      have later := ih followed
      show Option.Rel _ ((entry.1.feed rest).bind _)
        (rest.foldlM Native.StreamObserver.consume last)
      generalize entry.1.feed rest = fed at later ⊢
      generalize rest.foldlM Native.StreamObserver.consume last = told at later ⊢
      cases later with
      | none => exact .none
      | some reached => exact .some reached

theorem Observes.measured (agree : o.Observes s) (short : s.prefixText.length < 2 ^ 61) :
    s.snapshot = ⟨o.observedBytes, o.hashedBytes, o.limitBytes,
      Sha256.hex o.atEof.measurement.prefixDigest.bytes, o.limitCrossed⟩ := by
  have digest := (Sha256.digests_agree s.prefixText short).2.1
  rw [Native.StreamObserver.snapshot, agree.observed, agree.hashed, agree.limit, agree.crossed,
    digest]
  show _ = Native.StreamMeasurement.mk _ _ _ (Sha256.hex o.hash.final) _
  rw [agree.hash]
  rfl

end StreamObserver

/-- The measurement of a stream depends on its bytes and not on how they were cut. -/
theorem stream_chunk_independent (limit : UInt64) (positive : 1 ≤ limit) (chunks : List Bytes)
    (small : chunks.flatten.length < 2 ^ 64) :
    ∃ observer answers measurement, (StreamObserver.init limit).feed chunks = some (observer, answers)
      ∧ observer.atEof.snapshot = some measurement
      ∧ measurement.observedBytes.toNat = chunks.flatten.length
      ∧ measurement.hashedBytes.toNat = min chunks.flatten.length limit.toNat
      ∧ measurement.prefixDigest.bytes
        = Sha256.bytes (chunks.flatten.take (min chunks.flatten.length limit.toNat))
      ∧ measurement.limitCrossed = (if limit.toNat < chunks.flatten.length then 1 else 0)
      ∧ answers.count true = (if limit.toNat < chunks.flatten.length then 1 else 0)
      ∧ (digestNonzero measurement.prefixDigest.bytes = true → measurement.encode.isSome = true) := by
  obtain ⟨last, answers, fed, follows, count⟩ := feed_follows chunks
    (init_follows limit) (by simpa using small)
  rw [nil_append] at follows count
  have counted := follows.counted
  have most := UInt64.toNat_lt limit
  have observed : (UInt64.ofNat last.observedBytes).toNat = chunks.flatten.length := by
    rw [follows.observed]
    exact Nat.mod_eq_of_lt small
  have hashed : (UInt64.ofNat last.hashedBytes).toNat = min chunks.flatten.length limit.toNat := by
    rw [counted.hashed, follows.observed]
    exact Nat.mod_eq_of_lt (by omega)
  have crossed : last.limitCrossed = decide (limit.toNat < chunks.flatten.length) := by
    rw [counted.crossed, follows.observed]
  have set : limit ≠ 0 := by
    rintro rfl
    exact absurd positive (by decide)
  have ended : last.atEof.Counted limit.toNat :=
    ⟨counted.bound, counted.hashed, counted.crossed, counted.small⟩
  obtain ⟨taken, valid, -⟩ := snapshot_eq ended rfl set
  refine ⟨last, answers, last.atEof.measurement, fed, taken, observed, hashed, ?_, ?_, ?_, ?_⟩
  · show last.hash.final = _
    rw [follows.hash, Sha256.bytes, Nat.min_comm, ← take_eq_take_min]
  · show (if last.limitCrossed = true then (1 : UInt8) else 0) = _
    rw [crossed]
    simp
  · simpa using count
  · intro real
    rw [StreamMeasurement.isSome_encode valid]
    exact real

theorem stream_chunk_independent_cut : ∃ observer answers,
    (StreamObserver.init 4).feed [[1, 2, 3], [4, 5]] = some (observer, answers)
      ∧ answers.count true = 1 := by
  obtain ⟨observer, answers, _, fed, _, _, _, _, _, once, _⟩ :=
    stream_chunk_independent 4 (by decide) [[1, 2, 3], [4, 5]] (by decide)
  exact ⟨observer, answers, fed, once⟩

end Proc17.Native.Wire
