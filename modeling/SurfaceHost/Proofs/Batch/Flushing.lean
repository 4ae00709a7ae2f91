import SurfaceHost.Proofs.BatchRequests

/-!
# Flushes case by case

All the ways in which a flush can go, with everything that comes of each.  What holds of a
flush is then proved by cases, without a look at how it is computed.

The first use is the size of the response buffer: it is 4096 bytes doubled some number of
times, and never more than the largest size.
-/

namespace SurfaceHost

namespace Batch

variable {ε : Type}

/-- The batch `b` can be flushed with the result `f`.  The engine is asked a second time, with
a buffer of twice the size, if it says that the first one is too small. -/
inductive Flushes (b : Batch) (execute : Executor ε) (engine : ε) : Flushed ε → Prop where
  | idle (hcount : b.count = 0) :
    Flushes b execute engine { batch := b, engine, executions := [], outcome := .done }
  | tooLong (hcount : b.count ≠ 0) (hsize : maxSize < b.requestSize) :
    Flushes b execute engine
      { batch := b.clear, engine, executions := [], outcome := .failed .requestTooLong }
  | lost {engine' : ε} (hcount : b.count ≠ 0) (hsize : b.requestSize ≤ maxSize)
      (hexecute : execute engine (Command.request b.commands) b.buffer = (none, engine')) :
    Flushes b execute engine
      { batch := b.clear
        engine := engine'
        executions := [⟨Command.request b.commands, b.buffer.size⟩]
        outcome := .crashed }
  | answered {r : Reply} {engine' : ε} (hcount : b.count ≠ 0) (hsize : b.requestSize ≤ maxSize)
      (hexecute : execute engine (Command.request b.commands) b.buffer = (some r, engine'))
      (hstatus : r.status ≠ tooSmall) :
    Flushes b execute engine
      { batch := { b.clear with buffer := r.buffer b.buffer }
        engine := engine'
        executions := [⟨Command.request b.commands, b.buffer.size⟩]
        outcome := judgeReply b.count.toNat r (r.buffer b.buffer) }
  | cramped {r : Reply} {engine' : ε} (hcount : b.count ≠ 0) (hsize : b.requestSize ≤ maxSize)
      (hexecute : execute engine (Command.request b.commands) b.buffer = (some r, engine'))
      (hstatus : r.status = tooSmall) (hbuffer : maxSize < 2 * b.buffer.size) :
    Flushes b execute engine
      { batch := { b.clear with buffer := r.buffer b.buffer }
        engine := engine'
        executions := [⟨Command.request b.commands, b.buffer.size⟩]
        outcome := .failed .bufferTooLong }
  | lostAgain {r : Reply} {engine' engine'' : ε} (hcount : b.count ≠ 0)
      (hsize : b.requestSize ≤ maxSize)
      (hexecute : execute engine (Command.request b.commands) b.buffer = (some r, engine'))
      (hstatus : r.status = tooSmall) (hbuffer : 2 * b.buffer.size ≤ maxSize)
      (hagain : execute engine' (Command.request b.commands) (zeros (2 * b.buffer.size)) =
        (none, engine'')) :
    Flushes b execute engine
      { batch := { b.clear with buffer := zeros (2 * b.buffer.size) }
        engine := engine''
        executions := [⟨Command.request b.commands, b.buffer.size⟩,
          ⟨Command.request b.commands, 2 * b.buffer.size⟩]
        outcome := .crashed }
  | answeredAgain {r r' : Reply} {engine' engine'' : ε} (hcount : b.count ≠ 0)
      (hsize : b.requestSize ≤ maxSize)
      (hexecute : execute engine (Command.request b.commands) b.buffer = (some r, engine'))
      (hstatus : r.status = tooSmall) (hbuffer : 2 * b.buffer.size ≤ maxSize)
      (hagain : execute engine' (Command.request b.commands) (zeros (2 * b.buffer.size)) =
        (some r', engine'')) :
    Flushes b execute engine
      { batch := { b.clear with buffer := r'.buffer (zeros (2 * b.buffer.size)) }
        engine := engine''
        executions := [⟨Command.request b.commands, b.buffer.size⟩,
          ⟨Command.request b.commands, 2 * b.buffer.size⟩]
        outcome := judgeReply b.count.toNat r' (r'.buffer (zeros (2 * b.buffer.size))) }

@[simp]
theorem size_zeros (size : Nat) :
  (zeros size).size = size
  := Array.size_replicate

/-- There are no other ways for a flush to go. -/
theorem flushes_flush (b : Batch) (execute : Executor ε) (engine : ε) :
  Flushes b execute engine (b.flush execute engine)
  := by
  by_cases hcount : b.count = 0
  · rw [flush, if_pos hcount]
    apply Flushes.idle hcount
  · by_cases hsize : maxSize < b.requestSize
    · rw [flush, if_neg hcount, if_pos hsize]
      apply Flushes.tooLong hcount hsize
    · rw [flush, if_neg hcount, if_neg hsize]
      have hsize := Nat.not_lt.mp hsize
      rcases hexecute : execute engine (Command.request b.commands) b.buffer
        with ⟨_ | r, engine'⟩
      · simp only [hexecute]
        apply Flushes.lost hcount hsize hexecute
      · simp only [hexecute, Reply.size_buffer, size_zeros]
        by_cases hstatus : r.status = tooSmall
        · rw [if_neg (not_not_intro hstatus)]
          by_cases hbuffer : maxSize < 2 * b.buffer.size
          · rw [if_pos hbuffer]
            apply Flushes.cramped hcount hsize hexecute hstatus hbuffer
          · rw [if_neg hbuffer]
            have hbuffer := Nat.not_lt.mp hbuffer
            rcases hagain : execute engine' (Command.request b.commands)
              (zeros (2 * b.buffer.size)) with ⟨_ | r', engine''⟩
            · apply Flushes.lostAgain hcount hsize hexecute hstatus hbuffer hagain
            · apply Flushes.answeredAgain hcount hsize hexecute hstatus hbuffer hagain
        · rw [if_pos hstatus]
          apply Flushes.answered hcount hsize hexecute hstatus

/-! ### The size of the buffer -/

/-- The buffer has been doubled at most twelve times. -/
def Doubled (b : Batch) : Prop :=
  ∃ k ≤ 12, b.buffer.size = 4096 <<< k

theorem doubled_empty :
  empty.Doubled
  := by
  use 0
  exact ⟨Nat.zero_le 12, size_zeros 4096⟩

theorem Doubled.of_size_eq {b b' : Batch} (h : b.Doubled) (hsize : b'.buffer.size = b.buffer.size) :
  b'.Doubled
  := by
  rw [Doubled, hsize]
  apply h

/-- A buffer may be doubled until it has the largest size. -/
theorem Doubled.size_cases {b : Batch} (h : b.Doubled) :
  b.buffer.size = maxSize
    ∨ 2 * b.buffer.size ≤ maxSize ∧ ∃ k ≤ 12, 2 * b.buffer.size = 4096 <<< k
  := by
  obtain ⟨k, hk, hsize⟩ := h
  rcases Nat.lt_or_eq_of_le hk with hlt | rfl
  · right
    have htwice : 2 * b.buffer.size = 4096 <<< (k + 1) := by rw [Nat.shiftLeft_succ, hsize]
    constructor
    · rw [htwice]
      have hlimit : ∀ k < 12, 4096 <<< (k + 1) ≤ maxSize := by decide
      apply hlimit k hlt
    · exact ⟨k + 1, hlt, htwice⟩
  · left
    apply hsize

/-- A flush leaves the size of the buffer or doubles it, within the limit. -/
theorem Doubled.flush {b : Batch} (h : b.Doubled) (execute : Executor ε) (engine : ε) :
  (b.flush execute engine).batch.Doubled
  := by
  have htwice {b' : Batch} (hbuffer : 2 * b.buffer.size ≤ maxSize)
      (hsize : b'.buffer.size = 2 * b.buffer.size) : b'.Doubled := by
    rcases h.size_cases with hmax | ⟨-, htwice⟩
    · rw [hmax] at hbuffer
      exact absurd hbuffer (by decide)
    · rw [Doubled, hsize]
      apply htwice
  have hflush := b.flushes_flush execute engine
  generalize b.flush execute engine = f at hflush ⊢
  cases hflush with
  | idle => apply h
  | tooLong | lost => apply h.of_size_eq rfl
  | answered | cramped =>
    apply h.of_size_eq
    apply Reply.size_buffer
  | lostAgain _ _ _ _ hbuffer =>
    apply htwice hbuffer
    apply size_zeros
  | answeredAgain _ _ _ _ hbuffer =>
    apply htwice hbuffer
    rw [Reply.size_buffer, size_zeros]

/-- Every batch in use has such a buffer. -/
theorem doubled_after (execute : Executor ε) (engine : ε) (ops : List Op) :
  (Usage.after execute engine ops).batch.Doubled
  := by
  induction ops using List.reverseRecOn with
  | nil => apply doubled_empty
  | append_singleton ops op ih =>
    rw [Usage.after_append_singleton]
    cases op with
    | add c => apply ih.of_size_eq rfl
    | flush => apply ih.flush

end Batch

end SurfaceHost
