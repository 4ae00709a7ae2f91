import SurfaceHost.Proofs.BatchTransport
import SurfaceHost.Proofs.FlushFaults

/-!
# Batches that fail

What a library with batches does while some of its flushes fail.  A `Ledger` keeps its
flushes, each with the commands that it took from the batch, the requests that it handed over
and what became of it.

As long as the engine reports no negative length, a failure stays within its flush.  The calls
that cannot wait are those that a direct library makes, every other call is in exactly one
flush or still waiting, nothing is handed over in a later flush again, and the error that the
library keeps is that of the first flush that failed.
-/

namespace SurfaceHost

/-- The error of a flush that failed. -/
def Batch.Outcome.error? : Batch.Outcome → Option Batch.FlushError
  | .failed e => some e
  | .done | .crashed => none

/-- Whether a call cannot wait. -/
def Call.isUrgent (c : Call) : Bool :=
  (Command.ofCall? c).isNone

/-- Whether a library sees a call that cannot wait. -/
def NativeCall.isUrgent : NativeCall → Bool
  | .init _ | .resize _ _ | .redraw => true
  | _ => false

def NativeCall.isBatch : NativeCall → Bool
  | .batch _ => true
  | _ => false

theorem NativeCall.filter_not_isBatch_map (es : List Batch.Execution) :
  (es.map NativeCall.batch).filter (!·.isBatch) = []
  := by
  simp [isBatch]

theorem NativeCall.filter_isBatch_map (es : List Batch.Execution) :
  (es.map NativeCall.batch).filter isBatch = es.map .batch
  := by
  simp [isBatch]

theorem NativeCall.isUrgent_ofCall (c : Call) :
  (NativeCall.ofCall c).isUrgent = c.isUrgent
  := by
  cases c <;> rfl

namespace Library

variable {ε : Type}

/-! ### Calls one by one -/

/-- What a direct library makes of a call. -/
def sees (l : Library) (c : Call) : List NativeCall :=
  if l.accepts c then [l.native c] else []

/-- The commands for some calls, as far as they have somewhere to go. -/
def commandsFor (l : Library) (calls : List Call) : List Command :=
  (calls.filter l.accepts).filterMap Command.ofCall?

/-- No call is seen as a batch. -/
theorem isBatch_native (l : Library) (c : Call) :
  (l.native c).isBatch = false
  := by
  have hcall : (NativeCall.ofCall c).isBatch = false := by cases c <;> rfl
  rw [native]
  cases l.shared with
  | none => apply hcall
  | some e =>
    cases e with
    | init | executeBatch => apply hcall
    | _ => rfl

/-- A direct library makes its calls one by one, and all of them come back. -/
theorem handleAll_of_direct {l : Library} (htransport : l.transport = .direct)
    (execute : Executor ε) (engine : ε) (calls : List Call) :
  l.handleAll execute engine calls =
    { library := l, engine, effects := (calls.flatMap l.sees).map .native }
  := by
  induction calls using List.reverseRecOn with
  | nil => rfl
  | append_singleton calls c ih =>
    rw [handleAll_append_singleton, ih, Served.next, List.flatMap_append, List.map_append]
    cases haccepts : l.accepts c with
    | false => simp [handle_of_not_accepts haccepts, sees, haccepts]
    | true => simp [handle_of_direct htransport haccepts, sees, haccepts]

/-- What a flush that comes back does to a library. -/
theorem flush_of_ne_crashed {l : Library} (htransport : l.transport = .batch)
    {execute : Executor ε} {engine : ε}
    (hcrashed : (l.batch.flush execute engine).outcome ≠ .crashed) :
  let f := l.batch.flush execute engine
  ∃ sent,
    l.flush execute engine =
        { library :=
            { l with batch := f.batch, firstError := l.firstError <|> f.outcome.error? }
          engine := f.engine
          effects := sent }
      ∧ natives sent = f.executions.map .batch
  := by
  intro f
  have hnatives (es : List Batch.Execution) :
      natives (es.map fun e => Effect.native (.batch e)) = es.map .batch := by
    induction es with
    | nil => rfl
    | cons e es ih => exact congrArg (NativeCall.batch e :: ·) ih
  rw [flush, htransport]
  cases houtcome : f.outcome with
  | done =>
    refine ⟨_, ?_, hnatives f.executions⟩
    simp only [f] at houtcome
    simp [houtcome, Batch.Outcome.error?, f]
  | failed e =>
    simp only [f] at houtcome
    simp only [houtcome]
    refine ⟨_, rfl, ?_⟩
    rw [natives_append, hnatives]
    apply List.append_nil
  | crashed => contradiction

/-! ### Flushes -/

/-- A flush as a library makes it: the commands that leave the batch, the requests handed over,
and what becomes of it. -/
structure Dispatch where
  commands : List Command
  executions : List Batch.Execution
  outcome : Batch.Outcome

/-- The flush that a call brings about, if it cannot wait and something is counted as waiting. -/
def dispatch? (l : Library) (execute : Executor ε) (engine : ε) (c : Call) : Option Dispatch :=
  if l.transport = .batch ∧ c.isUrgent ∧ l.batch.count ≠ 0 then
    let f := l.batch.flush execute engine
    some ⟨l.batch.commands.toList, f.executions, f.outcome⟩
  else
    none

/-- A library in use, with all flushes so far. -/
structure Ledger (ε : Type) where
  served : Served ε
  dispatches : List Dispatch := []

/-- Takes one more call, unless an earlier one did not come back. -/
def Ledger.next (execute : Executor ε) (k : Ledger ε) (c : Call) : Ledger ε :=
  if k.served.crashed then k
  else
    { served := k.served.next execute c
      dispatches :=
        k.dispatches ++ (k.served.library.dispatch? execute k.served.engine c).toList }

/-- Takes calls one after the other. -/
def ledger (l : Library) (execute : Executor ε) (engine : ε) (calls : List Call) : Ledger ε :=
  calls.foldl (Ledger.next execute) { served := { library := l, engine } }

theorem ledger_append (l : Library) (execute : Executor ε) (engine : ε)
    (front back : List Call) :
  l.ledger execute engine (front ++ back) =
    back.foldl (Ledger.next execute) (l.ledger execute engine front)
  := List.foldl_append

@[simp]
theorem ledger_append_singleton (l : Library) (execute : Executor ε) (engine : ε)
    (calls : List Call) (c : Call) :
  l.ledger execute engine (calls ++ [c]) = (l.ledger execute engine calls).next execute c
  := ledger_append l execute engine calls [c]

/-- The ledger has what the library has served. -/
theorem served_ledger (l : Library) (execute : Executor ε) (engine : ε) (calls : List Call) :
  (l.ledger execute engine calls).served = l.handleAll execute engine calls
  := by
  induction calls using List.reverseRecOn with
  | nil => rfl
  | append_singleton calls c ih =>
    rw [ledger_append_singleton, handleAll_append_singleton, ← ih, Ledger.next]
    split
    · rename_i hcrashed
      rw [Served.next, if_pos hcrashed]
    · rfl

/-- What there is to know of the flush that an urgent call brings about.  Nothing is lost if
there is none. -/
theorem dispatch?_of_urgent {l : Library} (htransport : l.transport = .batch)
    (execute : Executor ε) (engine : ε) {c : Call} (hc : c.isUrgent = true) :
  let f := l.batch.flush execute engine
  let xs := (l.dispatch? execute engine c).toList
  xs.flatMap Dispatch.executions = f.executions
    ∧ xs.flatMap Dispatch.commands ++ f.batch.commands.toList = l.batch.commands.toList
    ∧ (∀ x ∈ xs, ∀ e ∈ x.executions, Command.decode? e.request.data.toList = some x.commands)
    ∧ xs.findSome? (·.outcome.error?) = f.outcome.error?
  := by
  intro f xs
  by_cases hcount : l.batch.count = 0
  · have hf : f = { batch := l.batch, engine, executions := [], outcome := .done } :=
      if_pos hcount
    have hxs : xs = [] := by simp [xs, dispatch?, hcount]
    rw [hf, hxs]
    exact ⟨rfl, rfl, nofun, rfl⟩
  · have hxs : xs = [⟨l.batch.commands.toList, f.executions, f.outcome⟩] := by
      simp [xs, dispatch?, htransport, hc, hcount, f]
    rw [hxs]
    have hempty : f.batch.commands = #[] := by
      obtain ⟨hzero, -⟩ | ⟨-, hcommands, -⟩ | ⟨-, -, hcommands, -⟩ :=
        l.batch.flush_cases execute engine
      · contradiction
      · apply hcommands
      · apply hcommands
    refine ⟨List.flatMap_singleton _ _, ?_, ?_, ?_⟩
    · rw [hempty, List.flatMap_singleton]
      apply List.append_nil
    · rintro x hx e he
      obtain rfl := List.mem_singleton.mp hx
      obtain ⟨-, -, hnone⟩ | ⟨-, -, hnone⟩ | ⟨-, hsize, -, -, hsame⟩ :=
        l.batch.flush_cases execute engine
      · exact absurd he (hnone ▸ List.not_mem_nil)
      · exact absurd he (hnone ▸ List.not_mem_nil)
      · rw [hsame e he]
        apply Batch.decode?_request hsize
    · cases f.outcome with
      | done | failed | crashed => rfl

/-! ### Accounts -/

/-- The flushes of a library `l` and what is left of it account for all calls so far. -/
structure Balanced (l : Library) (calls : List Call) (k : Ledger ε) : Prop where
  library : k.served.library =
    { l with batch := k.served.library.batch, firstError := k.served.library.firstError }
  crashed : k.served.crashed = false
  /-- Besides the batches, there are the calls that cannot wait. -/
  urgent : (natives k.served.effects).filter (!·.isBatch) =
    (calls.filter Call.isUrgent).flatMap l.sees
  batches : (natives k.served.effects).filter NativeCall.isBatch =
    (k.dispatches.flatMap Dispatch.executions).map .batch
  commands : k.dispatches.flatMap Dispatch.commands ++ k.served.library.batch.commands.toList =
    l.commandsFor calls
  requests : ∀ x ∈ k.dispatches, ∀ e ∈ x.executions,
    Command.decode? e.request.data.toList = some x.commands
  firstError : k.served.library.firstError = k.dispatches.findSome? (·.outcome.error?)

theorem commandsFor_append (l : Library) (front back : List Call) :
  l.commandsFor (front ++ back) = l.commandsFor front ++ l.commandsFor back
  := by
  simp [commandsFor]

theorem commandsFor_of_urgent (l : Library) {c : Call} (h : c.isUrgent = true) :
  l.commandsFor [c] = []
  := by
  have hnone : Command.ofCall? c = none := Option.isNone_iff_eq_none.mp h
  rw [commandsFor]
  cases haccepts : l.accepts c with
  | false => simp [haccepts]
  | true => simp [haccepts, hnone]

namespace Balanced

variable {l : Library} {calls : List Call} {k : Ledger ε} {c : Call}

theorem new (hbatch : l.batch.commands = #[]) (herror : l.firstError = none) (engine : ε) :
  Balanced l [] { served := { library := l, engine } }
  := by
  constructor
  case library | crashed | urgent | batches => rfl
  case commands => simp [hbatch, commandsFor]
  case requests => nofun
  case firstError => apply herror

theorem accepts_eq (h : Balanced l calls k) (c : Call) :
  k.served.library.accepts c = l.accepts c
  := by
  rw [h.library]
  rfl

theorem native_eq (h : Balanced l calls k) (c : Call) :
  k.served.library.native c = l.native c
  := by
  rw [h.library]
  rfl

theorem transport_eq (h : Balanced l calls k) :
  k.served.library.transport = l.transport
  := by
  rw [h.library]

/-- A call that has nowhere to go changes nothing. -/
theorem next_of_not_accepts (h : Balanced l calls k) (execute : Executor ε)
    (haccepts : l.accepts c = false) :
  Balanced l (calls ++ [c]) (k.next execute c)
  := by
  have hurgent : c.isUrgent = false := by
    by_contra hne
    have hnone : Command.ofCall? c = none := by simpa [Call.isUrgent] using hne
    rw [l.accepts_of_urgent (Command.ofCall?_eq_none_iff.mp hnone)] at haccepts
    cases haccepts
  have hserved : k.served.next execute c = k.served :=
    Library.next_of_not_accepts h.crashed ((h.accepts_eq c).trans haccepts)
  have hnext : k.next execute c = k := by
    simp [Ledger.next, h.crashed, hserved, dispatch?, hurgent]
  rw [hnext]
  exact { h with
    urgent := by rw [h.urgent, List.filter_append]; simp [hurgent]
    commands := by rw [h.commands, commandsFor_append]; simp [commandsFor, haccepts] }

/-- A call with a command waits. -/
theorem next_of_command (h : Balanced l calls k) (htransport : l.transport = .batch)
    (execute : Executor ε) (haccepts : l.accepts c = true) (hc : c.isUrgent = false) :
  Balanced l (calls ++ [c]) (k.next execute c)
  := by
  obtain ⟨command, hcommand⟩ : ∃ command, Command.ofCall? c = some command := by
    apply Option.isSome_iff_exists.mp
    simpa [Call.isUrgent] using hc
  have hhandle : k.served.library.handle execute k.served.engine c =
      { library := { k.served.library with batch := k.served.library.batch.add command }
        engine := k.served.engine } :=
    handle_of_command (h.transport_eq.trans htransport) ((h.accepts_eq c).trans haccepts) hcommand
  have hnext : k.next execute c =
      { served :=
          { k.served with
            library :=
              { k.served.library with batch := k.served.library.batch.add command } }
        dispatches := k.dispatches } := by
    simp [Ledger.next, h.crashed, Served.next, hhandle, dispatch?, hc]
  rw [hnext]
  constructor
  case library => rw [h.library]
  case crashed => apply h.crashed
  case urgent =>
    rw [h.urgent, List.filter_append]
    simp [hc]
  case batches => apply h.batches
  case commands =>
    rw [commandsFor_append, ← h.commands, List.append_assoc]
    simp [Batch.add, commandsFor, haccepts, hcommand]
  case requests => apply h.requests
  case firstError => apply h.firstError

/-- An urgent call comes behind a flush, whatever becomes of that. -/
theorem next_of_urgent (h : Balanced l calls k) (htransport : l.transport = .batch)
    {execute : Executor ε}
    (hcrashed : (k.served.library.batch.flush execute k.served.engine).outcome ≠ .crashed)
    (hc : c.isUrgent = true) :
  Balanced l (calls ++ [c]) (k.next execute c)
  := by
  have htransport := h.transport_eq.trans htransport
  have hnone : Command.ofCall? c = none := Option.isNone_iff_eq_none.mp hc
  have haccepts : l.accepts c = true :=
    l.accepts_of_urgent (Command.ofCall?_eq_none_iff.mp hnone)
  obtain ⟨sent, hflush, hsent⟩ := flush_of_ne_crashed htransport hcrashed
  obtain ⟨hexecutions, hcommands, hrequests, herror⟩ :=
    dispatch?_of_urgent htransport execute k.served.engine hc
  have hnext : k.next execute c =
      { served :=
          { library :=
              { k.served.library with
                batch := (k.served.library.batch.flush execute k.served.engine).batch
                firstError := k.served.library.firstError <|>
                  (k.served.library.batch.flush execute k.served.engine).outcome.error? }
            engine := (k.served.library.batch.flush execute k.served.engine).engine
            effects := k.served.effects ++ (sent ++ [.native (l.native c)]) }
        dispatches :=
          k.dispatches ++ (k.served.library.dispatch? execute k.served.engine c).toList } := by
    simp [Ledger.next, h.crashed, Served.next, handle, (h.accepts_eq c).trans haccepts, hnone,
      hflush, h.native_eq]
  have hnatives : natives (sent ++ [.native (l.native c)]) =
      (k.served.library.batch.flush execute k.served.engine).executions.map .batch
        ++ [l.native c] := by
    rw [natives_append, hsent]
    rfl
  rw [hnext]
  constructor
  case library => rw [h.library]
  case crashed => rfl
  case urgent =>
    rw [natives_append, hnatives, List.filter_append, List.filter_append, h.urgent,
      NativeCall.filter_not_isBatch_map, List.filter_append]
    simp [isBatch_native, hc, sees, haccepts]
  case batches =>
    rw [natives_append, hnatives, List.filter_append, List.filter_append, h.batches,
      NativeCall.filter_isBatch_map, List.flatMap_append, List.map_append, hexecutions]
    simp [isBatch_native]
  case commands =>
    rw [commandsFor_append, commandsFor_of_urgent l hc, ← h.commands, List.append_nil,
      List.flatMap_append, List.append_assoc, hcommands]
  case requests =>
    intro x hx
    rcases List.mem_append.mp hx with hx | hx
    · apply h.requests x hx
    · apply hrequests x hx
  case firstError =>
    rw [List.findSome?_append, ← h.firstError, herror]
    cases k.served.library.firstError with
    | none => rfl
    | some e => rfl

end Balanced

variable {l : Library} {answer : ε → (request buffer : ByteArray) → Reply × ε}

/-- The accounts are kept along any calls to an engine that reports no negative length. -/
theorem balanced_ledger
    (hlength : ∀ engine request buffer, 0 ≤ (answer engine request buffer).1.length)
    (htransport : l.transport = .batch) (hbatch : l.batch.commands = #[])
    (herror : l.firstError = none) (engine : ε) (calls : List Call) :
  Balanced l calls (l.ledger (.replying answer) engine calls)
  := by
  induction calls using List.reverseRecOn with
  | nil => apply Balanced.new hbatch herror
  | append_singleton calls c ih =>
    rw [ledger_append_singleton]
    cases hc : c.isUrgent with
    | true => apply ih.next_of_urgent htransport (Batch.outcome_ne_crashed hlength _ _) hc
    | false =>
      cases haccepts : l.accepts c with
      | true => apply ih.next_of_command htransport _ haccepts hc
      | false => apply ih.next_of_not_accepts _ haccepts

/-- More calls add flushes and never take one back. -/
theorem dispatches_ledger_append (l : Library) (execute : Executor ε) (engine : ε)
    (front back : List Call) :
  (l.ledger execute engine front).dispatches
    <+: (l.ledger execute engine (front ++ back)).dispatches
  := by
  induction back using List.reverseRecOn with
  | nil => simp
  | append_singleton back c ih =>
    rw [← List.append_assoc, ledger_append_singleton, Ledger.next]
    split
    · apply ih
    · apply ih.trans (List.prefix_append _ _)

/-- A flush takes all commands that are waiting. -/
theorem Balanced.commands_of_dispatch {execute : Executor ε} {calls : List Call} {k : Ledger ε}
    {c : Call} {x : Dispatch} (h : Balanced l calls k)
    (hnext : Balanced l (calls ++ [c]) (k.next execute c))
    (hx : (k.next execute c).dispatches = k.dispatches ++ [x]) :
  (k.next execute c).served.library.batch.commands.toList = []
  := by
  have hdispatch : k.served.library.dispatch? execute k.served.engine c = some x := by
    rw [Ledger.next, if_neg (by simp [h.crashed])] at hx
    simpa [Option.toList_eq_singleton_iff] using hx
  obtain ⟨hc, hcommands⟩ : c.isUrgent = true
      ∧ x.commands = k.served.library.batch.commands.toList := by
    rw [dispatch?] at hdispatch
    split at hdispatch
    · rename_i hflush
      obtain rfl := Option.some.inj hdispatch
      exact ⟨hflush.2.1, rfl⟩
    · cases hdispatch
  have hall := hnext.commands
  rw [hx, commandsFor_append, commandsFor_of_urgent l hc, List.append_nil, ← h.commands,
    List.flatMap_append, List.flatMap_singleton, hcommands] at hall
  apply List.append_right_eq_self.mp hall

/-- If each entry point has a function of its own, the urgent calls are those that are seen as
such. -/
theorem filter_isUrgent_flatMap_sees (hshared : l.shared = none) (calls : List Call) :
  (calls.flatMap l.sees).filter NativeCall.isUrgent = (calls.filter Call.isUrgent).flatMap l.sees
  := by
  have hnative (c : Call) : (l.native c).isUrgent = c.isUrgent := by
    rw [native, hshared]
    apply NativeCall.isUrgent_ofCall
  induction calls with
  | nil => rfl
  | cons c calls ih =>
    rw [List.flatMap_cons, List.filter_append, ih, sees]
    cases hc : c.isUrgent with
    | false => cases l.accepts c <;> simp [hnative, hc]
    | true => cases haccepts : l.accepts c <;> simp [hnative, hc, sees, haccepts]

/-- Then they are also seen in the same order as by a direct library. -/
theorem Balanced.filter_isUrgent {calls : List Call} {k : Ledger ε} (h : Balanced l calls k)
    (hshared : l.shared = none) :
  (natives k.served.effects).filter NativeCall.isUrgent =
    (calls.flatMap l.sees).filter NativeCall.isUrgent
  := by
  have hnot (c : NativeCall) : (c.isUrgent && !c.isBatch) = c.isUrgent := by cases c <;> rfl
  calc
    (natives k.served.effects).filter NativeCall.isUrgent
      = ((natives k.served.effects).filter (!·.isBatch)).filter NativeCall.isUrgent := by
        rw [List.filter_filter]
        simp only [hnot]
    _ = ((calls.filter Call.isUrgent).filter Call.isUrgent).flatMap l.sees := by
        rw [h.urgent]
        apply filter_isUrgent_flatMap_sees hshared
    _ = (calls.filter Call.isUrgent).flatMap l.sees := by
        rw [List.filter_filter]
        simp only [Bool.and_self]
    _ = (calls.flatMap l.sees).filter NativeCall.isUrgent := by
        symm
        apply filter_isUrgent_flatMap_sees hshared

/-- After a flush, the later flushes and what is left account for the later calls. -/
theorem exists_later_dispatches {execute : Executor ε} {engine : ε}
    (hbalanced : ∀ calls, Balanced l calls (l.ledger execute engine calls))
    {front : List Call} {c : Call} {x : Dispatch} (back : List Call)
    (hx : (l.ledger execute engine (front ++ [c])).dispatches =
      (l.ledger execute engine front).dispatches ++ [x]) :
  let k := l.ledger execute engine (front ++ [c] ++ back)
  ∃ later, k.dispatches = (l.ledger execute engine (front ++ [c])).dispatches ++ later
    ∧ later.flatMap Dispatch.commands ++ k.served.library.batch.commands.toList =
        l.commandsFor back
  := by
  intro k
  obtain ⟨later, hlater⟩ := dispatches_ledger_append l execute engine (front ++ [c]) back
  use later, hlater.symm
  have hfront := hbalanced (front ++ [c])
  have hnil : (l.ledger execute engine
      (front ++ [c])).served.library.batch.commands.toList = [] := by
    rw [ledger_append_singleton] at hfront hx ⊢
    apply (hbalanced front).commands_of_dispatch hfront hx
  have hcommands := (hbalanced (front ++ [c] ++ back)).commands
  rw [← hlater, commandsFor_append, ← hfront.commands, hnil, List.append_nil,
    List.flatMap_append, List.append_assoc] at hcommands
  apply List.append_cancel_left hcommands

/-- A library with batches is called while the engine answers anything but a negative length.
Every call comes back.  Besides its batches, the library sees of each urgent call what it
would see if it were called directly.  The batches are those of the flushes, and each request
can be read as the commands of its flush.  The commands of all flushes and then those waiting
are the commands for all calls; those of later flushes are the commands for later calls.  The
error that is kept is that of the first flush that failed, and stays the same. -/
theorem failures_stay_in_their_flush
    (hlength : ∀ engine request buffer, 0 ≤ (answer engine request buffer).1.length)
    (entries : List EntryPoint) (shared : Option EntryPoint) (engine : ε) (calls : List Call) :
  let batch : Library := { transport := .batch, bound := entries, shared }
  let direct : Library := { transport := .direct, bound := entries, shared }
  let d := direct.handleAll (.replying answer) engine calls
  let run := batch.handleAll (.replying answer) engine
  let flushes (calls : List Call) := (batch.ledger (.replying answer) engine calls).dispatches
  (run calls).crashed = false
    ∧ natives d.effects = calls.flatMap direct.sees
    ∧ (natives (run calls).effects).filter (!·.isBatch) =
        (calls.filter Call.isUrgent).flatMap direct.sees
    ∧ (shared = none → (natives (run calls).effects).filter NativeCall.isUrgent =
        (natives d.effects).filter NativeCall.isUrgent)
    ∧ (natives (run calls).effects).filter NativeCall.isBatch =
        ((flushes calls).flatMap Dispatch.executions).map .batch
    ∧ (∀ x ∈ flushes calls, ∀ e ∈ x.executions,
        Command.decode? e.request.data.toList = some x.commands)
    ∧ (flushes calls).flatMap Dispatch.commands ++ (run calls).library.batch.commands.toList =
        batch.commandsFor calls
    ∧ (∀ front c back x, calls = front ++ [c] ++ back →
        flushes (front ++ [c]) = flushes front ++ [x] →
          ∃ later, flushes calls = flushes (front ++ [c]) ++ later
            ∧ later.flatMap Dispatch.commands ++ (run calls).library.batch.commands.toList =
                batch.commandsFor back)
    ∧ (run calls).library.firstError = (flushes calls).findSome? (·.outcome.error?)
    ∧ (∀ front back e, calls = front ++ back → (run front).library.firstError = some e →
        (run calls).library.firstError = some e)
  := by
  intro batch direct d run flushes
  have hbalanced (calls : List Call) :
      Balanced batch calls (batch.ledger (.replying answer) engine calls) :=
    balanced_ledger hlength rfl rfl rfl engine calls
  have hrun (calls : List Call) :
      (batch.ledger (.replying answer) engine calls).served = run calls :=
    served_ledger batch (.replying answer) engine calls
  have h := hbalanced calls
  have hnatives : natives d.effects = calls.flatMap direct.sees := by
    have hd : d =
        { library := direct, engine, effects := (calls.flatMap direct.sees).map .native } :=
      handleAll_of_direct rfl (.replying answer) engine calls
    rw [hd, natives, List.filterMap_map]
    apply List.filterMap_some
  have hurgent := h.urgent
  have hfirstError := h.firstError
  rw [hrun] at hurgent hfirstError
  refine ⟨?_, hnatives, hurgent, ?_, ?_, h.requests, ?_, ?_, hfirstError, ?_⟩
  · rw [← hrun]
    apply h.crashed
  · intro hshared
    rw [hnatives, ← hrun]
    apply h.filter_isUrgent hshared
  · rw [← hrun]
    apply h.batches
  · rw [← hrun]
    apply h.commands
  · rintro front c back x rfl hx
    rw [← hrun]
    apply exists_later_dispatches hbalanced back hx
  · rintro front back e rfl herror
    obtain ⟨later, hlater⟩ :=
      dispatches_ledger_append batch (.replying answer) engine front back
    have hfront := (hbalanced front).firstError
    rw [hrun, herror] at hfront
    rw [hfirstError, ← hlater, List.findSome?_append, ← hfront]
    rfl

/-- An engine that refuses the first batch and accepts one command in each of the others. -/
def refusingFirst (n : Nat) (_request _buffer : ByteArray) : Reply × Nat :=
  (if n = 0 then Reply.mk (-1) 0 .empty else Reply.mk 0 9 (Batch.successes 1), n + 1)

theorem failures_stay_in_their_flush_refused :
  let s := handleAll { transport := .batch, bound := [.longPress] } (.replying refusingFirst) 0
    [.mouseMove 1 2, .redraw, .longPress 3 4, .kinetic 5 6, .resize 640 480, .mouseUp 7 8,
      .mouseUp 9 9, .redraw]
  (∀ n request buffer, 0 ≤ (refusingFirst n request buffer).1.length)
    ∧ s.crashed = false
    ∧ (natives s.effects).filter (!·.isBatch) = [.redraw, .resize 640 480, .redraw]
    ∧ s.library.firstError = some (.status (-1))
  := by
  have hlength (n : Nat) (request buffer : ByteArray) :
      0 ≤ (refusingFirst n request buffer).1.length := by
    by_cases hn : n = 0
    · simp [refusingFirst, hn]
    · simp only [refusingFirst, if_neg hn]
      decide
  have hfirst : (handleAll { transport := .batch, bound := [.longPress] }
      (.replying refusingFirst) 0 [.mouseMove 1 2, .redraw]).library.firstError =
        some (.status (-1)) := by
    decide +kernel
  obtain ⟨hcrashed, -, hurgent, -, -, -, -, -, -, hkept⟩ :=
    failures_stay_in_their_flush hlength [.longPress] none 0
      [.mouseMove 1 2, .redraw, .longPress 3 4, .kinetic 5 6, .resize 640 480, .mouseUp 7 8,
        .mouseUp 9 9, .redraw]
  have hkept := hkept [.mouseMove 1 2, .redraw]
    [.longPress 3 4, .kinetic 5 6, .resize 640 480, .mouseUp 7 8, .mouseUp 9 9, .redraw]
    (.status (-1)) rfl hfirst
  exact ⟨hlength, hcrashed, hurgent, hkept⟩

end Library

end SurfaceHost
