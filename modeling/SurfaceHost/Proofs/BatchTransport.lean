import Mathlib.Data.List.Induction
import SurfaceHost.Library.Basic
import SurfaceHost.Proofs.Batch.Request
import SurfaceHost.Proofs.Floats

/-!
# Batched and direct transport

A library that is called in batches sees the same calls as one that is called directly,
only later.  Whatever has been sent, read back command by command, followed by what is
still waiting, is exactly what the direct library has seen; and when a call is made that
cannot wait, nothing made before it is waiting any more.

This needs requests that are not too long and an engine that accepts them.  Up to 818 calls
there is nothing to fear: with an engine that is willing, all of them go well.
-/

namespace SurfaceHost

/-- The calls that cannot wait. -/
inductive Call.Urgent : Call → Prop where
  | init (storage : String) : Urgent (.init storage)
  | resize (width height : Int64) : Urgent (.resize width height)
  | redraw : Urgent .redraw

/-- All other calls have commands. -/
theorem Command.ofCall?_eq_none_iff {c : Call} :
  ofCall? c = none ↔ c.Urgent
  := by
  constructor
  · intro h
    cases c <;> first | constructor | simp [ofCall?] at h
  · intro h
    cases h <;> rfl

/-! ### Reading commands as calls -/

/-- The call that a command stands for, by its code and the words of its payload. -/
def NativeCall.ofCommand? (c : Command) : Option NativeCall :=
  match c.code.toNat, Wire.words? c.payload.data.toList with
  | 0x0100, some [x, y] => some (.mouseDown x.toInt32 y.toInt32)
  | 0x0101, some [x, y] => some (.mouseUp x.toInt32 y.toInt32)
  | 0x0102, some [x, y] => some (.mouseMove x.toInt32 y.toInt32)
  | 0x0103, some [x, y, dx, dy] =>
    some (.scroll x.toInt32 y.toInt32 (Float32.ofBits dx) (Float32.ofBits dy))
  | 0x0200, some [x, y, p] =>
    some (.pointerDown (Float32.ofBits x) (Float32.ofBits y) p.toInt32)
  | 0x0201, some [x, y, p] =>
    some (.pointerUp (Float32.ofBits x) (Float32.ofBits y) p.toInt32)
  | 0x0202, some [x, y, p] =>
    some (.pointerMove (Float32.ofBits x) (Float32.ofBits y) p.toInt32)
  | 0x0300, some [x, y] => some (.longPress x.toInt32 y.toInt32)
  | 0x0301, some [x, y] => some (.kinetic x.toInt32 y.toInt32)
  | _, _ => none

/-- The calls that a library finds in a request. -/
def Batch.Execution.calls (e : Batch.Execution) : List NativeCall :=
  ((Command.decode? e.request.data.toList).getD []).filterMap NativeCall.ofCommand?

/-- A batch stands for the calls found in it, and every other call for itself. -/
def NativeCall.spread : NativeCall → List NativeCall
  | .batch e => e.calls
  | c => [c]

@[simp]
theorem NativeCall.spread_ofCall (c : Call) :
  (NativeCall.ofCall c).spread = [.ofCall c]
  := by
  cases c <;> rfl

theorem Wire.words?_pointPayload (x y : Int64) :
  words? (pack (Command.pointPayload x y)).data.toList =
    some [x.toInt32.toUInt32, y.toInt32.toUInt32]
  := by
  have h := words?_word32_append y.toInt32.toUInt32 []
  rw [List.append_nil] at h
  simp [pack, Command.pointPayload, integer, h, words?]

theorem Wire.words?_scrollPayload (x y : Int64) (dx dy : Float32) :
  words? (pack (Command.scrollPayload x y dx dy)).data.toList =
    some [x.toInt32.toUInt32, y.toInt32.toUInt32, dx.toBits, dy.toBits]
  := by
  have h := words?_word32_append dy.toBits []
  rw [List.append_nil] at h
  simp [pack, Command.scrollPayload, Command.pointPayload, integer, single, h, words?]

theorem Wire.words?_pointerPayload (x y : Float32) (pointer : Int64) :
  words? (pack (Command.pointerPayload x y pointer)).data.toList =
    some [x.toBits, y.toBits, pointer.toInt32.toUInt32]
  := by
  have h := words?_word32_append pointer.toInt32.toUInt32 []
  rw [List.append_nil] at h
  simp [pack, Command.pointerPayload, integer, single, h, words?]

/-- The command for a call stands for that call. -/
theorem NativeCall.ofCommand?_of_ofCall? {c : Call} {command : Command}
    (h : Command.ofCall? c = some command) :
  ofCommand? command = some (.ofCall c)
  := by
  cases c with
  | init | resize | redraw => simp [Command.ofCall?] at h
  | mouseDown x y | mouseUp x y | mouseMove x y | longPress x y | kinetic x y =>
    obtain rfl := Option.some.inj h
    simp [ofCommand?, Wire.words?_pointPayload, ofCall]
  | scroll x y dx dy =>
    obtain rfl := Option.some.inj h
    simp only [ofCommand?, UInt16.reduceToNat, Wire.words?_scrollPayload, Int32.toInt32_toUInt32,
      ofBits_bits, ofCall]
  | pointerDown x y p | pointerUp x y p | pointerMove x y p =>
    obtain rfl := Option.some.inj h
    simp only [ofCommand?, UInt16.reduceToNat, Wire.words?_pointerPayload, Int32.toInt32_toUInt32,
      ofBits_bits, ofCall]

namespace Library

variable {ε : Type}

/-! ### What a library sees -/

/-- The call that an effect is. -/
def Effect.native? : Effect → Option NativeCall
  | .native c => some c
  | .log _ => none

/-- The calls among some effects. -/
def natives (es : List Effect) : List NativeCall :=
  es.filterMap Effect.native?

@[simp]
theorem natives_append (es fs : List Effect) :
  natives (es ++ fs) = natives es ++ natives fs
  := List.filterMap_append

/-- The calls of the commands that are waiting. -/
def waiting (l : Library) : List NativeCall :=
  l.batch.commands.toList.filterMap NativeCall.ofCommand?

/-- Takes one more call, unless an earlier one did not come back. -/
def Served.next (s : Served ε) (execute : Executor ε) (c : Call) : Served ε :=
  if s.crashed then s
  else
    let t := s.library.handle execute s.engine c
    { t with effects := s.effects ++ t.effects }

/-- Takes calls one after the other. -/
def handleAll (l : Library) (execute : Executor ε) (engine : ε) (calls : List Call) : Served ε :=
  calls.foldl (fun s c => s.next execute c) { library := l, engine }

@[simp]
theorem handleAll_append_singleton (l : Library) (execute : Executor ε) (engine : ε)
    (calls : List Call) (c : Call) :
  l.handleAll execute engine (calls ++ [c]) = (l.handleAll execute engine calls).next execute c
  := by
  simp [handleAll]

/-- The engine accepts the batch that is waiting, if there is one. -/
def Welcome (l : Library) (execute : Executor ε) (engine : ε) : Prop :=
  l.batch.commands ≠ #[] → ∃ r engine',
    execute engine (Command.request l.batch.commands) l.batch.buffer = (some r, engine')
      ∧ r.Accepts l.batch.commands.size l.batch.buffer

/-! ### One call -/

variable {l : Library} {execute : Executor ε} {engine : ε} {c : Call}

/-- What cannot wait is always accepted. -/
theorem accepts_of_urgent (l : Library) (h : c.Urgent) :
  l.accepts c = true
  := by
  cases h <;> simp [accepts, EntryPoint.ofCall, EntryPoint.isRequired]

theorem handle_of_not_accepts (h : l.accepts c = false) :
  l.handle execute engine c = { library := l, engine }
  := by
  simp [handle, h]

theorem handle_of_direct (htransport : l.transport = .direct) (h : l.accepts c = true) :
  l.handle execute engine c = { library := l, engine, effects := [.native (l.native c)] }
  := by
  rw [handle, if_pos h, htransport]
  cases hcommand : Command.ofCall? c with
  | some command => rfl
  | none => simp [flush, htransport]

theorem handle_of_command {command : Command} (htransport : l.transport = .batch)
    (h : l.accepts c = true) (hcommand : Command.ofCall? c = some command) :
  l.handle execute engine c = { library := { l with batch := l.batch.add command }, engine }
  := by
  rw [handle, if_pos h, htransport, hcommand]

/-- A flush that the engine welcomes sends what is waiting, and nothing is left.  The buffer
keeps its size. -/
theorem flush_of_welcome (htransport : l.transport = .batch)
    (hsize : l.batch.requestSize ≤ Batch.maxSize) (hwelcome : l.Welcome execute engine) :
  ∃ buffer engine' sent,
    l.flush execute engine =
        { library := { l with batch := { buffer } }, engine := engine', effects := sent }
      ∧ buffer.size = l.batch.buffer.size
      ∧ (natives sent).flatMap NativeCall.spread = l.waiting
  := by
  by_cases hempty : l.batch.commands = #[]
  · refine ⟨l.batch.buffer, engine, [], ?_, rfl, by simp [natives, waiting, hempty]⟩
    have hbatch : l.batch = { buffer := l.batch.buffer } := by rw [← hempty]
    simp only [flush, htransport, Batch.flush_of_empty execute engine hempty, List.map_nil]
    rw [← hbatch]
  · obtain ⟨r, engine', hexecute, haccepts⟩ := hwelcome hempty
    refine ⟨r.buffer l.batch.buffer, engine',
      [.native (.batch ⟨Command.request l.batch.commands, l.batch.buffer.size⟩)], ?_, by simp, ?_⟩
    · simp only [flush, htransport,
        Batch.flush_of_accepts hsize hempty hexecute haccepts, List.map_cons, List.map_nil]
    · simp [natives, Effect.native?, NativeCall.spread, Batch.Execution.calls,
        Batch.decode?_request hsize, waiting]

/-! ### One more call -/

/-- A library that has just been opened, with a function for each of its entry points. -/
def opened (t : Transport) (entries : List EntryPoint) : Library :=
  { transport := t, bound := entries }

/-- A direct library as it was opened, all of whose calls came back. -/
structure Direct (entries : List EntryPoint) (s : Served ε) : Prop where
  library : s.library = opened .direct entries
  crashed : s.crashed = false

/-- A library with batches as it was opened, up to its batch.  All of its calls came back,
and no flush failed. -/
structure Batched (entries : List EntryPoint) (s : Served ε) : Prop where
  library : s.library = { opened .batch entries with batch := s.library.batch }
  crashed : s.crashed = false

variable {entries entries' : List EntryPoint} {d b : Served ε}

theorem next_of_not_accepts {s : Served ε} (hcrashed : s.crashed = false)
    (h : s.library.accepts c = false) :
  s.next execute c = s
  := by
  cases s
  simp_all [Served.next, handle_of_not_accepts]

theorem Direct.next_eq (hd : Direct entries d) (h : d.library.accepts c = true) :
  d.next execute c = { d with effects := d.effects ++ [.native (.ofCall c)] }
  := by
  have htransport : d.library.transport = .direct := by rw [hd.library]; rfl
  have hnative : d.library.native c = .ofCall c := by rw [hd.library]; rfl
  simp [Served.next, hd.crashed, handle_of_direct htransport h, hnative]

/-- A call with a command waits. -/
theorem Batched.next_of_command {command : Command} (hb : Batched entries b)
    (execute : Executor ε) (h : b.library.accepts c = true)
    (hcommand : Command.ofCall? c = some command) :
  b.next execute c =
    { b with library := { b.library with batch := b.library.batch.add command } }
  := by
  have htransport : b.library.transport = .batch := by rw [hb.library]; rfl
  simp [Served.next, hb.crashed, handle_of_command htransport h hcommand]

/-- An urgent call goes behind everything that was waiting. -/
theorem Batched.next_of_urgent (hb : Batched entries b)
    (hsize : b.library.batch.requestSize ≤ Batch.maxSize)
    (hwelcome : b.library.Welcome execute b.engine) (hc : c.Urgent) :
  ∃ buffer engine' sent,
    b.next execute c =
        { library := { opened .batch entries with batch := { buffer } }
          engine := engine'
          effects := b.effects ++ sent ++ [.native (.ofCall c)] }
      ∧ buffer.size = b.library.batch.buffer.size
      ∧ (natives sent).flatMap NativeCall.spread = b.library.waiting
  := by
  have htransport : b.library.transport = .batch := by rw [hb.library]; rfl
  have hnative : b.library.native c = .ofCall c := by rw [hb.library]; rfl
  obtain ⟨buffer, engine', sent, hflush, hbuffer, hsent⟩ :=
    flush_of_welcome htransport hsize hwelcome
  refine ⟨buffer, engine', sent, ?_, hbuffer, hsent⟩
  have hlibrary : { b.library with batch := { buffer } } =
      { opened .batch entries with batch := { buffer } } := by rw [hb.library]
  have hhandle : b.library.handle execute b.engine c =
      { library := { opened .batch entries with batch := { buffer } }
        engine := engine'
        effects := sent ++ [.native (.ofCall c)] } := by
    rw [handle, if_pos (b.library.accepts_of_urgent hc), Command.ofCall?_eq_none_iff.mpr hc]
    simp [hflush, hnative, hlibrary]
  simp [Served.next, hb.crashed, hhandle]

/-! ### Many calls -/

/-- Along some calls no request gets too long, and the engine accepts each one that is sent. -/
structure Smooth (l : Library) (execute : Executor ε) (engine : ε) (calls : List Call) : Prop where
  requestSize_le : ∀ front, front <+: calls →
    (l.handleAll execute engine front).library.batch.requestSize ≤ Batch.maxSize
  welcome : ∀ front c, front ++ [c] <+: calls → c.Urgent →
    (l.handleAll execute engine front).library.Welcome execute
      (l.handleAll execute engine front).engine

theorem Smooth.of_append {front back : List Call} (h : Smooth l execute engine (front ++ back)) :
  Smooth l execute engine front
  := by
  constructor
  case requestSize_le =>
    intro part hpart
    exact h.requestSize_le part (hpart.trans (List.prefix_append front back))
  case welcome =>
    intro part c hpart
    exact h.welcome part c (hpart.trans (List.prefix_append front back))

theorem smooth_nil (h : l.batch.requestSize ≤ Batch.maxSize) :
  Smooth l execute engine []
  := by
  constructor
  case requestSize_le =>
    intro front hfront
    obtain rfl := List.prefix_nil.mp hfront
    exact h
  case welcome =>
    intro front c hfront
    simp at hfront

theorem Smooth.append_singleton {calls : List Call} (h : Smooth l execute engine calls)
    (hsize : ((l.handleAll execute engine calls).next execute c).library.batch.requestSize
      ≤ Batch.maxSize)
    (hwelcome : c.Urgent → (l.handleAll execute engine calls).library.Welcome execute
      (l.handleAll execute engine calls).engine) :
  Smooth l execute engine (calls ++ [c])
  := by
  constructor
  case requestSize_le =>
    intro front hfront
    rcases List.prefix_concat_iff.mp hfront with rfl | hfront
    · rw [handleAll_append_singleton]
      exact hsize
    · exact h.requestSize_le front hfront
  case welcome =>
    intro front c' hfront
    rcases List.prefix_concat_iff.mp hfront with hlast | hfront
    · obtain ⟨rfl, hc⟩ := List.append_inj' hlast rfl
      obtain rfl := List.singleton_inj.mp hc
      exact hwelcome
    · exact h.welcome front c' hfront

/-- A direct library and one with batches that have taken the same calls: what the first one
has seen is what was sent to the second one, and then what is waiting. -/
structure InStep (entries entries' : List EntryPoint) (d b : Served ε) : Prop where
  direct : Direct entries d
  batch : Batched entries' b
  natives_eq : natives d.effects =
    (natives b.effects).flatMap NativeCall.spread ++ b.library.waiting

/-- Libraries with the same entry points accept the same calls. -/
theorem InStep.accepts_eq (h : InStep entries entries' d b)
    (hentries : ∀ e, e ∈ entries ↔ e ∈ entries') :
  d.library.accepts c = b.library.accepts c
  := by
  rw [h.direct.library, h.batch.library, Bool.eq_iff_iff]
  simp [accepts, opened, hentries]

/-- Libraries stay in step when they take one more call. -/
theorem InStep.next (h : InStep entries entries' d b)
    (hentries : ∀ e, e ∈ entries ↔ e ∈ entries')
    (hsize : b.library.batch.requestSize ≤ Batch.maxSize)
    (hwelcome : c.Urgent → b.library.Welcome execute b.engine) :
  InStep entries entries' (d.next execute c) (b.next execute c)
  := by
  have haccepts := h.accepts_eq (c := c) hentries
  cases hd : d.library.accepts c with
  | false =>
    rw [hd] at haccepts
    rw [next_of_not_accepts h.direct.crashed hd, next_of_not_accepts h.batch.crashed haccepts.symm]
    exact h
  | true =>
    rw [hd] at haccepts
    -- The direct library sees the call at once, whether it could have waited or not.
    have hdirect : Direct entries (d.next execute c) := by
      rw [h.direct.next_eq hd]
      exact ⟨h.direct.library, h.direct.crashed⟩
    have hnatives : natives (d.next execute c).effects = natives d.effects ++ [.ofCall c] := by
      simp [h.direct.next_eq hd, natives, Effect.native?]
    cases hcommand : Command.ofCall? c with
    | some command =>
      have hnext := h.batch.next_of_command execute haccepts.symm hcommand
      have hwaiting : (b.next execute c).library.waiting = b.library.waiting ++ [.ofCall c] := by
        simp [hnext, waiting, Batch.add, NativeCall.ofCommand?_of_ofCall? hcommand]
      refine ⟨hdirect, ⟨?_, ?_⟩, ?_⟩
      · rw [hnext, h.batch.library]
      · rw [hnext, h.batch.crashed]
      · rw [hnatives, hwaiting, hnext, h.natives_eq, List.append_assoc]
    | none =>
      have hc := Command.ofCall?_eq_none_iff.mp hcommand
      obtain ⟨buffer, engine', sent, hnext, -, hsent⟩ :=
        h.batch.next_of_urgent hsize (hwelcome hc) hc
      refine ⟨hdirect, ⟨by rw [hnext], by rw [hnext]⟩, ?_⟩
      rw [hnatives, h.natives_eq, ← hsent, hnext]
      simp [natives, Effect.native?, waiting]

/-- Libraries that have just been opened stay in step. -/
theorem inStep_handleAll (hentries : ∀ e, e ∈ entries ↔ e ∈ entries') {calls : List Call}
    (hsmooth : Smooth (opened .batch entries') execute engine calls) :
  InStep entries entries' ((opened .direct entries).handleAll execute engine calls)
    ((opened .batch entries').handleAll execute engine calls)
  := by
  induction calls using List.reverseRecOn with
  | nil => exact ⟨⟨rfl, rfl⟩, ⟨rfl, rfl⟩, rfl⟩
  | append_singleton calls c ih =>
    rw [handleAll_append_singleton, handleAll_append_singleton]
    apply (ih hsmooth.of_append).next hentries
    · exact hsmooth.requestSize_le calls (List.prefix_append calls [c])
    · exact hsmooth.welcome calls c List.prefix_rfl

/-! ### Few calls -/

/-- An engine that accepts everything that fits the buffer. -/
def agreeing : Executor Unit :=
  fun _ request buffer => (some (Batch.agreeable request buffer), ())

/-- At most `count` commands are waiting, and the buffer has its first size. -/
structure Modest (b : Batch) (count : Nat) : Prop where
  buffer_size : b.buffer.size = 4096
  size_le : b.commands.size ≤ count
  requestSize_le : b.requestSize ≤ 4 + 22 * count

theorem modest_opened (entries : List EntryPoint) :
  Modest (opened .batch entries).batch 0
  := by
  constructor
  case buffer_size => simp [opened, Batch.empty, Batch.zeros, ByteArray.size]
  case size_le => simp [opened, Batch.empty]
  case requestSize_le => simp [opened, Batch.empty, Batch.requestSize]

/-- No command is longer than one for a scroll. -/
theorem size_le_of_ofCall? {command : Command} (h : Command.ofCall? c = some command) :
  command.size ≤ 22
  := by
  cases c with
  | init | resize | redraw => simp [Command.ofCall?] at h
  | mouseDown | mouseUp | mouseMove | scroll | pointerDown | pointerUp | pointerMove | longPress
  | kinetic =>
    obtain rfl := Option.some.inj h
    simp [Command.size, Wire.pack, Command.pointPayload, Command.scrollPayload,
      Command.pointerPayload, Wire.integer, Wire.single, Wire.word32, ByteArray.size]

theorem Modest.requestSize_le_maxSize {b : Batch} {count : Nat} (h : Modest b count)
    (hcount : count ≤ 818) :
  b.requestSize ≤ Batch.maxSize
  := by
  have := h.requestSize_le
  simp only [Batch.maxSize]
  omega

/-- The answer to 818 commands fits the first buffer. -/
theorem Modest.welcome {count : Nat} (h : Modest l.batch count) (hcount : count ≤ 818) :
  l.Welcome agreeing ()
  := by
  intro _
  have hsize := (Batch.small_of_requestSize_le (h.requestSize_le_maxSize hcount)).1
  have hfits : 4 + 5 * l.batch.commands.size ≤ l.batch.buffer.size := by
    have := h.buffer_size
    have := h.size_le
    omega
  exact ⟨_, _, rfl, Batch.accepts_agreeable hsize hfits⟩

theorem Modest.next {b : Served Unit} {count : Nat} (h : Modest b.library.batch count)
    (hb : Batched entries b) (hcount : count ≤ 818) :
  Modest (b.next agreeing c).library.batch (count + 1)
  := by
  have hsize := h.size_le
  have hrequest := h.requestSize_le
  cases haccepts : b.library.accepts c with
  | false =>
    rw [next_of_not_accepts hb.crashed haccepts]
    exact ⟨h.buffer_size, by omega, by omega⟩
  | true =>
    cases hcommand : Command.ofCall? c with
    | some command =>
      have hle := size_le_of_ofCall? hcommand
      rw [hb.next_of_command agreeing haccepts hcommand]
      refine ⟨h.buffer_size, ?_, ?_⟩
      · simp [Batch.add]
        omega
      · simp [Batch.add, Batch.requestSize] at hrequest ⊢
        omega
    | none =>
      have hc := Command.ofCall?_eq_none_iff.mp hcommand
      obtain ⟨buffer, engine', sent, hnext, hbuffer, -⟩ :=
        hb.next_of_urgent (h.requestSize_le_maxSize hcount) (h.welcome hcount) hc
      rw [hnext]
      refine ⟨?_, ?_, ?_⟩
      · rw [hbuffer, h.buffer_size]
      · simp
      · simp [Batch.requestSize]

/-- Few calls run smoothly, and leave few commands behind. -/
theorem smooth_of_length_le {calls : List Call} (h : calls.length ≤ 818) :
  Smooth (opened .batch entries) agreeing () calls
    ∧ Modest ((opened .batch entries).handleAll agreeing () calls).library.batch calls.length
  := by
  induction calls using List.reverseRecOn with
  | nil =>
    have hmodest := modest_opened entries
    exact ⟨smooth_nil (hmodest.requestSize_le_maxSize (Nat.zero_le 818)), hmodest⟩
  | append_singleton calls c ih =>
    rw [List.length_append, List.length_singleton] at h ⊢
    obtain ⟨hsmooth, hmodest⟩ := ih (by omega)
    -- Only because all went well so far do we know what the next call does.
    have hbatched := (inStep_handleAll (fun _ => Iff.rfl) hsmooth).batch
    have hnext := hmodest.next (c := c) hbatched (by omega)
    rw [handleAll_append_singleton]
    refine ⟨?_, hnext⟩
    apply hsmooth.append_singleton
    · exact hnext.requestSize_le_maxSize h
    · intro _
      exact hmodest.welcome (by omega)

/-- The calls that a library with batches sees, with each batch read as the calls in it, and
then those that are waiting, are the calls that a direct library with the same entry points
sees.  No call fails, and each urgent one is seen behind everything that was made before it. -/
theorem batch_refines_direct {ε : Type} {entries entries' : List EntryPoint}
    (hentries : ∀ e, e ∈ entries ↔ e ∈ entries') {execute : Executor ε} {engine : ε}
    {calls : List Call} (hsmooth : Smooth (opened .batch entries') execute engine calls) :
  let direct := (opened .direct entries).handleAll execute engine
  let batch := (opened .batch entries').handleAll execute engine
  natives (direct calls).effects =
      (natives (batch calls).effects).flatMap NativeCall.spread ++ (batch calls).library.waiting
    ∧ (direct calls).crashed = false
    ∧ (batch calls).crashed = false
    ∧ (batch calls).library.firstError = none
    ∧ ∀ front c back, calls = front ++ c :: back → c.Urgent →
        (batch (front ++ [c])).library.batch.commands = #[]
          ∧ ∃ earlier,
              natives (batch (front ++ [c])).effects = earlier ++ [.ofCall c]
                ∧ earlier.flatMap NativeCall.spread = natives (direct front).effects
  := by
  intro direct batch
  have h := inStep_handleAll hentries hsmooth
  refine ⟨h.natives_eq, h.direct.crashed, h.batch.crashed, by rw [h.batch.library]; rfl, ?_⟩
  intro front c back hcalls hc
  subst hcalls
  have hfront := inStep_handleAll hentries hsmooth.of_append
  have hsize := hsmooth.requestSize_le front (List.prefix_append front (c :: back))
  have hwelcome := hsmooth.welcome front c (by simp) hc
  obtain ⟨buffer, engine', sent, hnext, -, hsent⟩ := hfront.batch.next_of_urgent hsize hwelcome hc
  have hbatch : batch (front ++ [c]) = (batch front).next execute c :=
    handleAll_append_singleton _ execute engine front c
  rw [hbatch, hnext]
  refine ⟨rfl, natives ((batch front).effects ++ sent), ?_, ?_⟩
  · rw [natives_append _ [_]]
    rfl
  · rw [natives_append, List.flatMap_append, hsent, hfront.natives_eq]

theorem batch_refines_direct_mixed :
  let batch := (opened .batch [.kinetic, .scroll, .mouseDown]).handleAll agreeing ()
    [.mouseDown 10 20, .longPress 10 20, .scroll 3 4 0.5 1.5, .redraw, .kinetic 4294967303 (-1),
      .resize 640 480, .mouseDown 1 2]
  (natives batch.effects).flatMap NativeCall.spread ++ batch.library.waiting =
    [.mouseDown 10 20, .scroll 3 4 0.5 1.5, .redraw, .kinetic 7 (-1), .resize 640 480,
      .mouseDown 1 2]
  := by
  have hentries (e : EntryPoint) :
      e ∈ [.mouseDown, .scroll, .kinetic] ↔ e ∈ [.kinetic, .scroll, .mouseDown] := by
    cases e <;> decide
  exact (batch_refines_direct hentries (smooth_of_length_le (by decide)).1).1.symm

end Library

end SurfaceHost
