import Mathlib.Data.List.Induction
import SurfaceHost.Proofs.Batch.Request

/-!
# What a batch hands over

A batch is used by adding commands and flushing it, over and over and whatever the engine
does.  Every request that it hands over consists of the commands added since the flush
before, and can be read back as these.  A flush hands over its commands unless there are
none or the request for them is too long, and no command is handed over in two flushes.

The number of waiting commands is a 32-bit one.  If it is a multiple of 2³² a flush takes it
for zero and leaves the commands where they are, so that they may be older than the last
flush.  But then the request for them is too long ever to be handed over.
-/

namespace SurfaceHost

theorem Command.length_bytes (c : Command) :
  c.bytes.length = c.size
  := by
  have hword16 : (Wire.word16 c.code).length = 2 := rfl
  have hword32 : (Wire.word32 c.payload.size.toUInt32).length = 4 := rfl
  have hpayload : c.payload.data.toList.length = c.payload.size := Array.length_toList
  rw [bytes, header, List.length_append, List.length_append, hword16, hword32, hpayload]
  rfl

namespace Batch

variable {ε : Type}

/-! ### One flush -/

/-- The number of bytes in the request for the commands that are waiting. -/
theorem size_request (b : Batch) :
  (Command.request b.commands).size = b.requestSize
  := by
  have hfold (l : List Command) (start : Nat) :
      l.foldl (fun n c => n + c.size) start = start + (l.flatMap Command.bytes).length := by
    induction l generalizing start with
    | nil => rfl
    | cons c rest ih =>
      rw [List.foldl_cons, ih, List.flatMap_cons, List.length_append, Command.length_bytes]
      omega
  have hsize : (Command.request b.commands).data.toList.length
      = (Command.request b.commands).size := Array.length_toList
  rw [requestSize, ← Array.foldl_toList, hfold, ← hsize, Command.toList_request,
    List.length_append]
  rfl

/-- The count of a batch is zero only if no commands are waiting, or very many. -/
theorem count_eq_zero {b : Batch} (h : b.count = 0) :
  b.commands = #[] ∨ UInt32.size ≤ b.commands.size
  := by
  by_cases hsize : b.commands.size < UInt32.size
  · left
    have hcount : b.count.toNat = b.commands.size := UInt32.toNat_ofNat_of_lt' hsize
    rw [h] at hcount
    apply Array.eq_empty_of_size_eq_zero hcount.symm
  · right
    omega

/-- A flush does nothing, or it drops a request that is too long, or it hands over the
request for the commands that were waiting, at least once and each time the same. -/
theorem flush_cases (b : Batch) (execute : Executor ε) (engine : ε) :
  let f := b.flush execute engine
  (b.count = 0 ∧ f.batch = b ∧ f.executions = [])
    ∨ (maxSize < b.requestSize ∧ f.batch.commands = #[] ∧ f.executions = [])
    ∨ (b.count ≠ 0 ∧ b.requestSize ≤ maxSize ∧ f.batch.commands = #[] ∧ f.executions ≠ []
        ∧ ∀ x ∈ f.executions, x.request = Command.request b.commands)
  := by
  intro f
  by_cases hcount : b.count = 0
  · left
    have hf : f = { batch := b, engine, executions := [], outcome := .done } := if_pos hcount
    rw [hf]
    exact ⟨hcount, rfl, rfl⟩
  · right
    by_cases hsize : maxSize < b.requestSize
    · left
      have hf : f = { batch := b.clear, engine, executions := [],
                      outcome := .failed .requestTooLong } := by
        simp only [f, flush, if_neg hcount, if_pos hsize]
      rw [hf]
      exact ⟨hsize, rfl, rfl⟩
    · right
      refine ⟨hcount, Nat.not_lt.mp hsize, ?_⟩
      simp only [f, flush, if_neg hcount, if_neg hsize]
      split
      · simp [clear]
      · split
        · simp [clear]
        · split
          · simp [clear]
          · split
            · simp [clear]
            · simp [clear]

/-! ### Commands and flushes -/

/-- What is done to a batch. -/
inductive Op where
  | add (c : Command)
  | flush

namespace Op

/-- The command that is added. -/
def command? : Op → Option Command
  | .add c => some c
  | .flush => none

/-- All commands that are added. -/
def added (ops : List Op) : List Command :=
  ops.filterMap command?

/-- The commands that are added after the last flush. -/
def addedSince (ops : List Op) : List Command :=
  ops.foldl (fun commands op => match op with | .add c => commands ++ [c] | .flush => []) []

@[simp]
theorem added_append_singleton (ops : List Op) (op : Op) :
  added (ops ++ [op]) = added ops ++ op.command?.toList
  := by
  rw [added, List.filterMap_append]
  cases op with
  | add c => rfl
  | flush => rfl

@[simp]
theorem addedSince_append_add (ops : List Op) (c : Command) :
  addedSince (ops ++ [.add c]) = addedSince ops ++ [c]
  := List.foldl_append

@[simp]
theorem addedSince_append_flush (ops : List Op) :
  addedSince (ops ++ [.flush]) = []
  := List.foldl_append

end Op

/-- A batch in use, with its engine and what each flush so far has handed over. -/
structure Usage (ε : Type) where
  batch : Batch := .empty
  engine : ε
  handed : List (List Execution) := []

namespace Usage

/-- Adds a command or flushes the batch. -/
def step (execute : Executor ε) (u : Usage ε) : Op → Usage ε
  | .add c => { u with batch := u.batch.add c }
  | .flush =>
    let f := u.batch.flush execute u.engine
    { batch := f.batch, engine := f.engine, handed := u.handed ++ [f.executions] }

/-- A new batch after some commands and flushes. -/
def after (execute : Executor ε) (engine : ε) (ops : List Op) : Usage ε :=
  ops.foldl (step execute) { engine }

@[simp]
theorem after_append_singleton (execute : Executor ε) (engine : ε) (ops : List Op) (op : Op) :
  after execute engine (ops ++ [op]) = (after execute engine ops).step execute op
  := List.foldl_append

end Usage

/-- The commands in the requests of a flush, which are all the same. -/
def Execution.commands : List Execution → List Command
  | [] => []
  | x :: _ => (Command.decode? x.request.data.toList).getD []

/-- The waiting commands are those added since the last flush, or some before them as well
and then very many.  What has been handed over so far and what is waiting has been added in
that order. -/
structure Accounts (ops : List Op) (u : Usage ε) : Prop where
  waiting : ∃ older, u.batch.commands.toList = older ++ Op.addedSince ops
    ∧ (older = [] ∨ UInt32.size ≤ older.length)
  once : (u.handed.flatMap Execution.commands ++ u.batch.commands.toList).Sublist (Op.added ops)

variable {ops : List Op} {u : Usage ε} {execute : Executor ε} {engine : ε}

theorem Accounts.add (h : Accounts ops u) (c : Command) :
  Accounts (ops ++ [.add c]) (u.step execute (.add c))
  := by
  have hcommands : (u.step execute (.add c)).batch.commands.toList =
      u.batch.commands.toList ++ [c] := Array.toList_push
  constructor
  · obtain ⟨older, hwaiting, holder⟩ := h.waiting
    use older
    constructor
    · rw [hcommands, hwaiting, Op.addedSince_append_add, List.append_assoc]
    · apply holder
  · rw [hcommands, Op.added_append_singleton, ← List.append_assoc]
    apply List.Sublist.append h.once (List.Sublist.refl [c])

/-- Commands that can all be in one request are no older than the last flush. -/
theorem Accounts.commands_eq (h : Accounts ops u) (hsize : u.batch.requestSize ≤ maxSize) :
  u.batch.commands.toList = Op.addedSince ops
  := by
  obtain ⟨older, hwaiting, rfl | hmany⟩ := h.waiting
  · apply hwaiting
  · have hsmall := (small_of_requestSize_le hsize).1
    rw [← Array.length_toList, hwaiting, List.length_append] at hsmall
    omega

/-- What a flush hands over is what was waiting, if it is handed over at all. -/
theorem commands_executions (b : Batch) (execute : Executor ε) (engine : ε) :
  Execution.commands (b.flush execute engine).executions
      ++ (b.flush execute engine).batch.commands.toList = b.commands.toList
    ∨ Execution.commands (b.flush execute engine).executions
      ++ (b.flush execute engine).batch.commands.toList = []
  := by
  obtain ⟨-, hbatch, hnone⟩ | ⟨-, hcommands, hnone⟩ | ⟨-, hsize, hcommands, hsome, hsame⟩ :=
    b.flush_cases execute engine
  · left
    rw [hbatch, hnone]
    rfl
  · right
    rw [hcommands, hnone]
    rfl
  · left
    obtain ⟨x, rest, hexecutions⟩ := List.exists_cons_of_ne_nil hsome
    have hx : x.request = Command.request b.commands := by
      apply hsame
      rw [hexecutions]
      apply List.mem_cons_self
    rw [hcommands, hexecutions, Execution.commands, hx, decode?_request hsize]
    apply List.append_nil

theorem Accounts.flush (h : Accounts ops u) :
  Accounts (ops ++ [.flush]) (u.step execute .flush)
  := by
  constructor
  · rw [Op.addedSince_append_flush]
    use (u.step execute .flush).batch.commands.toList, (List.append_nil _).symm
    obtain ⟨hcount, hbatch, -⟩ | ⟨-, hcommands, -⟩ | ⟨-, -, hcommands, -, -⟩ :=
      u.batch.flush_cases execute u.engine
    · have hstep : (u.step execute .flush).batch.commands = u.batch.commands :=
        congrArg commands hbatch
      rw [hstep]
      rcases count_eq_zero hcount with hempty | hmany
      · left
        rw [hempty]
      · right
        rw [Array.length_toList]
        apply hmany
    · left
      apply congrArg Array.toList hcommands
    · left
      apply congrArg Array.toList hcommands
  · have hhanded : (u.step execute .flush).handed.flatMap Execution.commands =
        u.handed.flatMap Execution.commands
          ++ Execution.commands (u.batch.flush execute u.engine).executions := by
      simp [Usage.step]
    have hadded : Op.added (ops ++ [.flush]) = Op.added ops := by
      rw [Op.added_append_singleton]
      apply List.append_nil
    rw [hhanded, hadded, List.append_assoc]
    rcases commands_executions u.batch execute u.engine with hwaiting | hnone
    · rw [show (u.step execute .flush).batch = (u.batch.flush execute u.engine).batch from rfl,
        hwaiting]
      apply h.once
    · rw [show (u.step execute .flush).batch = (u.batch.flush execute u.engine).batch from rfl,
        hnone, List.append_nil]
      apply (List.sublist_append_left _ _).trans h.once

/-- Adding commands and flushing keeps the accounts. -/
theorem accounts_after (execute : Executor ε) (engine : ε) (ops : List Op) :
  Accounts ops (Usage.after execute engine ops)
  := by
  induction ops using List.reverseRecOn with
  | nil =>
    constructor
    · use []
      exact ⟨rfl, .inl rfl⟩
    · apply List.Sublist.refl
  | append_singleton ops op ih =>
    rw [Usage.after_append_singleton]
    cases op with
    | add c => apply ih.add
    | flush => apply ih.flush

/-- A flush hands something over if commands were added and all that is waiting can be in
one request. -/
theorem Accounts.executions_ne_nil_iff (h : Accounts ops u) (execute : Executor ε) :
  (u.batch.flush execute u.engine).executions ≠ []
    ↔ Op.addedSince ops ≠ [] ∧ u.batch.requestSize ≤ maxSize
  := by
  obtain ⟨hcount, -, hnone⟩ | ⟨hsize, -, hnone⟩ | ⟨hcount, hsize, -, hsome, -⟩ :=
    u.batch.flush_cases execute u.engine
  · rw [hnone]
    constructor
    · intro hne
      contradiction
    · rintro ⟨hne, hsize⟩
      have hcommands := h.commands_eq hsize
      have hempty : u.batch.commands.toList.length = 0 := by
        rw [Array.length_toList, ← toNat_count hsize, hcount]
        rfl
      rw [hcommands] at hempty
      exact absurd (List.length_eq_zero_iff.mp hempty) hne
  · rw [hnone]
    constructor
    · intro hne
      contradiction
    · rintro ⟨-, hle⟩
      omega
  · constructor
    · intro _
      constructor
      · rw [← h.commands_eq hsize]
        intro hempty
        apply hcount
        rw [count, ← Array.length_toList, hempty]
        rfl
      · apply hsize
    · intro _
      apply hsome

/-- A request that is handed over is the one for the commands added since the last flush. -/
theorem Accounts.request_eq (h : Accounts ops u) {x : Execution}
    (hx : x ∈ (u.batch.flush execute u.engine).executions) :
  x.request = Command.request (Op.addedSince ops).toArray ∧ u.batch.requestSize ≤ maxSize
  := by
  have hsome := List.ne_nil_of_mem hx
  obtain ⟨-, -, hnone⟩ | ⟨-, -, hnone⟩ | ⟨-, hsize, -, -, hsame⟩ :=
    u.batch.flush_cases execute u.engine
  · contradiction
  · contradiction
  · rw [← h.commands_eq hsize, hsame x hx]
    exact ⟨rfl, hsize⟩

/-- After any commands and flushes, the requests of one more flush consist of the commands
added since the flush before, and can be read back as these; neither their number nor the
length of a payload is cut off.  They are handed over if and only if there are any and the
request for what is waiting is not too long.  No command has been handed over in two
flushes. -/
theorem requests_hold_new_commands (execute : Executor ε) (engine : ε) (ops : List Op) :
  let u := Usage.after execute engine ops
  let f := u.batch.flush execute u.engine
  let commands := Op.addedSince ops
  (∀ x ∈ f.executions,
      x.request.data.toList =
          Wire.word32 commands.length.toUInt32 ++ commands.flatMap Command.bytes
        ∧ Command.decode? x.request.data.toList = some commands
        ∧ commands.length < UInt32.size ∧ ∀ c ∈ commands, c.payload.size < UInt32.size)
    ∧ (f.executions ≠ [] ↔ commands ≠ [] ∧ (Command.request u.batch.commands).size ≤ maxSize)
    ∧ (u.handed.flatMap Execution.commands).Sublist (Op.added ops)
  := by
  intro u f commands
  have haccounts : Accounts ops u := accounts_after execute engine ops
  refine ⟨?_, ?_, ?_⟩
  · intro x hx
    obtain ⟨hrequest, hsize⟩ := haccounts.request_eq hx
    have hcommands : u.batch.commands.toList = commands := haccounts.commands_eq hsize
    obtain ⟨hlength, hpayload⟩ := small_of_requestSize_le hsize
    rw [← Array.length_toList, hcommands] at hlength
    have hpayload' : ∀ c ∈ commands, c.payload.size < UInt32.size := by
      intro c hc
      rw [← hcommands] at hc
      apply hpayload c (Array.mem_toList_iff.mp hc)
    rw [hrequest]
    refine ⟨?_, ?_, hlength, hpayload'⟩
    · apply Command.toList_request
    · apply Command.decode?_request
      · apply hlength
      · simpa using hpayload'
  · rw [size_request]
    apply haccounts.executions_ne_nil_iff
  · apply (List.sublist_append_left _ _).trans haccounts.once

/-- An engine that never comes back is asked again with the new commands only. -/
theorem requests_hold_new_commands_after_crash :
  let lost : Command := ⟨0x0100, Wire.pack [1, 2, 3]⟩
  let news : List Command := [⟨0x0101, Wire.pack []⟩, ⟨0xffff, Wire.pack [4, 5]⟩]
  let u := Usage.after (fun (n : Nat) _ _ => (none, n + 1)) 0
    (.add lost :: .flush :: news.map .add)
  let f := u.batch.flush (fun (n : Nat) _ _ => (none, n + 1)) u.engine
  f.executions ≠ []
    ∧ ∀ x ∈ f.executions, Command.decode? x.request.data.toList = some news
  := by
  intro lost news u f
  have hsize : (Command.request u.batch.commands).size ≤ maxSize := by
    rw [size_request]
    decide
  obtain ⟨hrequests, hhanded, -⟩ := requests_hold_new_commands
    (fun (n : Nat) _ _ => (none, n + 1)) 0 (.add lost :: .flush :: news.map .add)
  constructor
  · apply hhanded.mpr
    constructor
    · simp [Op.addedSince, news]
    · apply hsize
  · intro x hx
    apply (hrequests x hx).2.1

end Batch

end SurfaceHost
