import SurfaceHost.Proofs.Batch.Flushing
import SurfaceHost.Proofs.ResponseFormat

/-!
# Engines that say anything

An engine may answer a request with any status, any length and any bytes.  A flush cuts the
responses out of the buffer by the length that the engine reports, reads them by positions,
and looks up the one that reports a failure.  `Batch.judgeAt` does so and stops as soon as it
would have to look outside of what it has.

The only answer that leads outside is one without a failure whose length has its highest bit
set: as a signed number it is negative, and the check that it is not larger than the buffer
lets it pass.  Any other flush comes back, and all of its errors are worded as those of a
failed batch.
-/

namespace SurfaceHost

/-- An engine that always comes back, with whatever it answers. -/
def Executor.replying {ε : Type} (answer : ε → (request buffer : ByteArray) → Reply × ε) :
    Executor ε :=
  fun engine request buffer =>
    let (r, engine) := answer engine request buffer
    (some r, engine)

theorem Executor.replying_ne_none {ε : Type}
    {answer : ε → (request buffer : ByteArray) → Reply × ε} {engine engine' : ε}
    {request buffer : ByteArray} :
  replying answer engine request buffer ≠ (none, engine')
  := by
  intro h
  cases (Prod.mk.inj h).1

theorem Executor.answer_eq {ε : Type}
    {answer : ε → (request buffer : ByteArray) → Reply × ε} {engine engine' : ε}
    {request buffer : ByteArray} {r : Reply}
    (h : replying answer engine request buffer = (some r, engine')) :
  answer engine request buffer = (r, engine')
  := by
  obtain ⟨hr, hengine⟩ := Prod.mk.inj h
  apply Prod.ext (Option.some.inj hr) hengine

namespace Batch

open Response (Fault)

/-! ### Judging by positions -/

/-- The start of a buffer up to a position. -/
def upTo (buffer : ByteArray) (stop : Int64) : Except Fault ByteArray :=
  if 0 ≤ stop.toInt ∧ stop.toInt ≤ buffer.size then .ok (buffer.extract 0 stop.toInt.toNat)
  else .error .outside

/-- Judges the responses to `count` commands, and looks up the first failure among them. -/
def judgeEntries (count : Nat) (responses : List Response) : Except Fault Outcome :=
  if responses.length ≠ count then
    .ok (.failed (.mismatch responses.length count))
  else
    match responses.findIdx? (·.kind == Response.failure) with
    | some i =>
      match responses[i]? with
      | some response => .ok (.failed (.rejected i response.payload))
      | none => .error .outside
    | none => .ok .done

/-- Judges the last reply of an engine, after which the buffer is `buffer`. -/
def judgeAt (count : Nat) (r : Reply) (buffer : ByteArray) : Except Fault Outcome :=
  if r.status < 0 then
    .ok (.failed (.status r.status))
  else if (buffer.size : Int) < r.length.toInt then
    .ok (.failed (.overrun r.length buffer.size))
  else do
    let answer ← upTo buffer r.length
    match Response.readAt answer with
    | .ok responses => judgeEntries count responses
    | .error (.malformed e) => .ok (.failed (.malformed e))
    | .error .outside => .error .outside

/-- An outcome, unless the flush did not come back. -/
def Outcome.checked : Outcome → Except Fault Outcome
  | .crashed => .error .outside
  | o => .ok o

theorem judge_ne_crashed (count : Nat) (responses : List Response) :
  judge count responses ≠ .crashed
  := by
  rw [judge]
  split
  · intro h
    cases h
  · split
    · intro h
      cases h
    · intro h
      cases h

theorem Outcome.checked_of_ne {o : Outcome} (h : o ≠ .crashed) :
  o.checked = .ok o
  := by
  cases o with
  | done | failed => rfl
  | crashed => contradiction

/-- The first failure is always found among the responses. -/
theorem judgeEntries_eq (count : Nat) (responses : List Response) :
  judgeEntries count responses = .ok (judge count responses)
  := by
  rw [judgeEntries, judge]
  split
  · rfl
  · cases hfind : responses.findIdx? (·.kind == Response.failure) with
    | none => rfl
    | some i =>
      obtain ⟨hlt, -⟩ := List.findIdx?_eq_some_iff_getElem.mp hfind
      simp only [List.getElem?_eq_getElem hlt]
      rfl

/-- A reply leads outside of the buffer exactly if it reports no failure and a negative
length. -/
theorem judgeReply_eq_crashed_iff {count : Nat} {r : Reply} {buffer : ByteArray} :
  judgeReply count r buffer = .crashed ↔ 0 ≤ r.status ∧ r.length < 0
  := by
  rw [judgeReply]
  split
  · rename_i hstatus
    constructor
    · intro h
      cases h
    · rintro ⟨hnonneg, -⟩
      exact absurd hstatus (Int32.not_lt.mpr hnonneg)
  · rename_i hstatus
    have hnonneg := Int32.not_lt.mp hstatus
    split
    · rename_i hover
      constructor
      · intro h
        cases h
      · rintro ⟨-, hneg⟩
        have hneg : r.length.toInt < 0 := Int64.lt_iff_toInt_lt.mp hneg
        omega
    · split
      · rename_i hneg
        simp [hnonneg, hneg]
      · rename_i hneg
        constructor
        · split
          · intro h
            exact absurd h (judge_ne_crashed _ _)
          · intro h
            cases h
        · rintro ⟨-, h⟩
          contradiction

/-- Judging by positions comes to the same as judging what lies in the buffer. -/
theorem judgeAt_eq (count : Nat) (r : Reply) (buffer : ByteArray) :
  judgeAt count r buffer = (judgeReply count r buffer).checked
  := by
  rw [judgeAt, judgeReply]
  split
  · rfl
  · split
    · rfl
    · rename_i hover
      split
      · rename_i hneg
        have hneg : r.length.toInt < 0 := Int64.lt_iff_toInt_lt.mp hneg
        rw [upTo, if_neg (by omega)]
        rfl
      · rename_i hneg
        have hneg : 0 ≤ r.length.toInt := Int64.le_iff_toInt_le.mp (Int64.not_lt.mp hneg)
        rw [upTo, if_pos (by omega)]
        simp only [bind, Except.bind, Response.readAt_eq]
        cases hparse : Response.parse (buffer.extract 0 r.length.toInt.toNat).toList with
        | error e => rfl
        | ok responses =>
          rw [Outcome.checked_of_ne (judge_ne_crashed count responses)]
          apply judgeEntries_eq

/-! ### Errors -/

theorem pieces_eq (e : FlushError) :
  ∃ tail, e.pieces = Text.piecesOfString "ffi: batch execution failed: " ++ tail
  := by
  have happend (s t : String) :
      Text.piecesOfString (s ++ t) = Text.piecesOfString s ++ Text.piecesOfString t := by
    simp [Text.piecesOfString]
  rw [FlushError.pieces.eq_def]
  simp only [happend, List.append_assoc]
  exact ⟨_, rfl⟩

/-! ### One flush -/

variable {ε : Type}

/-- The reply that a flush judges and the buffer after it, if it comes to that. -/
def judged? (b : Batch) (answer : ε → (request buffer : ByteArray) → Reply × ε) (engine : ε) :
    Option (Reply × ByteArray) :=
  if b.count = 0 ∨ maxSize < b.requestSize then none
  else
    let request := Command.request b.commands
    let (r, engine) := answer engine request b.buffer
    if r.status ≠ tooSmall then some (r, r.buffer b.buffer)
    else if maxSize < 2 * b.buffer.size then none
    else
      let buffer := zeros (2 * b.buffer.size)
      let (r, _) := answer engine request buffer
      some (r, r.buffer buffer)

/-- A flush comes to what it judges the last reply to be, or there is no such reply and it
is over before that. -/
theorem outcome_cases (b : Batch) (answer : ε → (request buffer : ByteArray) → Reply × ε)
    (engine : ε) :
  let f := b.flush (.replying answer) engine
  (∃ r buffer, b.judged? answer engine = some (r, buffer)
      ∧ f.outcome = judgeReply b.count.toNat r buffer)
    ∨ (b.judged? answer engine = none ∧ f.outcome ≠ .crashed)
  := by
  intro f
  have hflush := b.flushes_flush (.replying answer) engine
  change Flushes b _ engine f at hflush
  clear_value f
  cases hflush with
  | idle hcount =>
    right
    simp [judged?, hcount]
  | tooLong hcount hsize =>
    right
    simp [judged?, hsize]
  | lost _ _ hexecute => exact absurd hexecute Executor.replying_ne_none
  | lostAgain _ _ _ _ _ hagain => exact absurd hagain Executor.replying_ne_none
  | answered hcount hsize hexecute hstatus =>
    left
    simp [judged?, hcount, Nat.not_lt.mpr hsize, Executor.answer_eq hexecute, hstatus]
  | cramped hcount hsize hexecute hstatus hbuffer =>
    right
    simp [judged?, Executor.answer_eq hexecute, hstatus, hbuffer]
  | answeredAgain hcount hsize hexecute hstatus hbuffer hagain =>
    left
    simp [judged?, hcount, Nat.not_lt.mpr hsize, Executor.answer_eq hexecute, hstatus,
      Nat.not_lt.mpr hbuffer, Executor.answer_eq hagain]

/-- An engine that never reports a negative length does no harm. -/
theorem outcome_ne_crashed {answer : ε → (request buffer : ByteArray) → Reply × ε}
    (hlength : ∀ engine request buffer, 0 ≤ (answer engine request buffer).1.length) (b : Batch)
    (engine : ε) :
  (b.flush (.replying answer) engine).outcome ≠ .crashed
  := by
  have hjudge {engine engine' : ε} {request buffer : ByteArray} {r : Reply}
      (hexecute : Executor.replying answer engine request buffer = (some r, engine')) :
      judgeReply b.count.toNat r (r.buffer buffer) ≠ .crashed := by
    have hnonneg := hlength engine request buffer
    rw [Executor.answer_eq hexecute] at hnonneg
    rw [Ne, judgeReply_eq_crashed_iff]
    rintro ⟨-, hneg⟩
    exact absurd hneg (Int64.not_lt.mpr hnonneg)
  have hflush := b.flushes_flush (.replying answer) engine
  generalize b.flush (.replying answer) engine = f at hflush ⊢
  cases hflush with
  | idle | tooLong | cramped =>
    intro h
    cases h
  | lost _ _ hexecute => exact absurd hexecute Executor.replying_ne_none
  | lostAgain _ _ _ _ _ hagain => exact absurd hagain Executor.replying_ne_none
  | answered _ _ hexecute => apply hjudge hexecute
  | answeredAgain _ _ _ _ _ hagain => apply hjudge hagain

/-- A length is negative if it has its highest bit set. -/
theorem length_neg_iff {length : Int64} :
  length < 0 ↔ 0x8000000000000000 ≤ length.toUInt64
  := by
  have hbits := length.toBitVec.toInt_neg_iff
  rw [Int64.lt_iff_toInt_lt, UInt64.le_iff_toNat_le]
  change length.toBitVec.toInt < 0 ↔ 0x8000000000000000 ≤ length.toBitVec.toNat
  omega

/-- A flush does not come back exactly if the reply that it judges reports no failure and a
length with the highest bit set.  Any other flush is done or fails with an error that is
worded as that of a failed batch.  Read by positions, the reply leads outside of the buffer
exactly then, and otherwise to the same outcome. -/
theorem crashes_iff_length_negative (b : Batch)
    (answer : ε → (request buffer : ByteArray) → Reply × ε) (engine : ε) :
  let f := b.flush (.replying answer) engine
  (f.outcome = .crashed ↔
      ∃ r buffer, b.judged? answer engine = some (r, buffer)
        ∧ 0 ≤ r.status ∧ 0x8000000000000000 ≤ r.length.toUInt64)
    ∧ (f.outcome ≠ .crashed → f.outcome = .done ∨ ∃ e tail, f.outcome = .failed e
        ∧ e.pieces = Text.piecesOfString "ffi: batch execution failed: " ++ tail)
    ∧ (∀ r buffer, b.judged? answer engine = some (r, buffer) →
        judgeAt b.count.toNat r buffer = f.outcome.checked)
  := by
  intro f
  refine ⟨?_, ?_, ?_⟩
  · obtain ⟨r, buffer, hjudged, houtcome⟩ | ⟨hjudged, houtcome⟩ := b.outcome_cases answer engine
    · rw [hjudged, houtcome, judgeReply_eq_crashed_iff, length_neg_iff]
      simp
    · simp [hjudged, houtcome, f]
  · intro hcrashed
    cases houtcome : f.outcome with
    | done => exact .inl rfl
    | failed e =>
      right
      obtain ⟨tail, hpieces⟩ := pieces_eq e
      exact ⟨e, tail, rfl, hpieces⟩
    | crashed => contradiction
  · intro r buffer hjudged
    obtain ⟨r', buffer', hjudged', houtcome⟩ | ⟨hjudged', -⟩ := b.outcome_cases answer engine
    · rw [hjudged] at hjudged'
      obtain ⟨rfl, rfl⟩ := Prod.mk.inj (Option.some.inj hjudged')
      rw [judgeAt_eq, houtcome]
    · rw [hjudged] at hjudged'
      cases hjudged'

/-- An engine that accepts a command and reports a length of `-1`. -/
theorem crashed_of_length_minus_one :
  let b := empty.add ⟨0x0102, Wire.pack []⟩
  let answer := fun (_ : Unit) (_ _ : ByteArray) => (Reply.mk 0 (-1) (successes 1), ())
  (b.flush (.replying answer) ()).outcome = .crashed
  := by
  intro b answer
  have hjudged : b.judged? answer () =
      some (⟨0, -1, successes 1⟩, (Reply.mk 0 (-1) (successes 1)).buffer b.buffer) := by
    rw [judged?, if_neg (by decide)]
    rfl
  apply (b.crashes_iff_length_negative answer ()).1.mpr
  exact ⟨_, _, hjudged, by decide, by decide⟩

end Batch

end SurfaceHost
