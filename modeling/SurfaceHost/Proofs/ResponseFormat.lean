import SurfaceHost.Proofs.Batch.Request

/-!
# The format of responses

Reading responses accepts exactly the bytes that begin with a written answer: the number
of its entries, and then for each entry its kind, the length of its payload and the
payload.  What comes after it does not matter, and no bytes begin with two different
answers.

An engine's answer lies in a buffer, and can be read there by positions.  `Response.readAt`
does so, and stops as soon as it would have to look outside of the buffer.  It comes to the
same as reading the bytes from the front, so that it never has to, whatever the counts and
lengths in the buffer are.
-/

namespace SurfaceHost

namespace Wire

/-- Four bytes make up a 32-bit number. -/
theorem number_lt (a b c d : UInt8) :
  number [a, b, c, d] < UInt32.size
  := by
  have ha := a.toNat_lt
  have hb := b.toNat_lt
  have hc := c.toNat_lt
  have hd := d.toNat_lt
  simp only [number, List.foldr_cons, List.foldr_nil, UInt32.size]
  omega

/-- Different bytes make up different numbers. -/
theorem number_inj {a b c d a' b' c' d' : UInt8}
    (h : number [a, b, c, d] = number [a', b', c', d']) :
  [a, b, c, d] = [a', b', c', d']
  := by
  have := a.toNat_lt
  have := b.toNat_lt
  have := c.toNat_lt
  have := a'.toNat_lt
  have := b'.toNat_lt
  have := c'.toNat_lt
  simp only [number, List.foldr_cons, List.foldr_nil] at h
  have ha : a.toNat = a'.toNat := by omega
  have hb : b.toNat = b'.toNat := by omega
  have hc : c.toNat = c'.toNat := by omega
  have hd : d.toNat = d'.toNat := by omega
  rw [UInt8.toNat_inj.mp ha, UInt8.toNat_inj.mp hb, UInt8.toNat_inj.mp hc, UInt8.toNat_inj.mp hd]

/-- The bytes of a number are those that it was read from. -/
theorem word32_number (a b c d : UInt8) :
  word32 (number [a, b, c, d]).toUInt32 = [a, b, c, d]
  := by
  apply number_inj
  apply number_word32_toUInt32 (number_lt a b c d)

/-- A list can be split at `n` if and only if it is that long. -/
theorem split?_eq_some_iff {α : Type} {n : Nat} {l front back : List α} :
  split? n l = some (front, back) ↔ front.length = n ∧ l = front ++ back
  := by
  constructor
  · intro h
    induction n generalizing l front with
    | zero =>
      obtain ⟨rfl, rfl⟩ := Prod.mk.inj (Option.some.inj h)
      exact ⟨rfl, rfl⟩
    | succ n ih =>
      cases l with
      | nil => simp [split?] at h
      | cons a l =>
        obtain ⟨⟨front', back'⟩, hsplit, heq⟩ := Option.map_eq_some_iff.mp h
        obtain ⟨rfl, rfl⟩ := Prod.mk.inj heq
        obtain ⟨rfl, rfl⟩ := ih hsplit
        exact ⟨rfl, rfl⟩
  · rintro ⟨rfl, rfl⟩
    apply split?_append

theorem split?_eq_none_iff {α : Type} {n : Nat} {l : List α} :
  split? n l = none ↔ l.length < n
  := by
  constructor
  · intro h
    by_contra hle
    have hsome : split? n l = some (l.take n, l.drop n) := by
      apply split?_eq_some_iff.mpr
      constructor
      · apply List.length_take_of_le (Nat.not_lt.mp hle)
      · apply (List.take_append_drop n l).symm
    rw [hsome] at h
    cases h
  · intro h
    cases hsplit : split? n l with
    | none => rfl
    | some parts =>
      obtain ⟨hlength, rfl⟩ := split?_eq_some_iff.mp hsplit
      rw [List.length_append, hlength] at h
      omega

end Wire

namespace Response

/-! ### The format -/

/-- The bytes of an entry. -/
def bytes (r : Response) : List UInt8 :=
  r.kind :: (Wire.word32 r.payload.length.toUInt32 ++ r.payload)

/-- The bytes of an answer: the number of its entries, and then the entries. -/
def message (rs : List Response) : List UInt8 :=
  Wire.word32 rs.length.toUInt32 ++ rs.flatMap bytes

/-- The number of entries and the lengths of their payloads fit four bytes each. -/
structure Writable (rs : List Response) : Prop where
  length_lt : rs.length < UInt32.size
  payload_lt : ∀ r ∈ rs, r.payload.length < UInt32.size

/-- Bytes are too few for an entry, or too few for the payload that they announce, or they
begin with the bytes of an entry. -/
theorem bytes_cases (l : List UInt8) :
  l.length < 5
    ∨ (∃ kind a b c d rest,
        l = kind :: a :: b :: c :: d :: rest ∧ rest.length < Wire.number [a, b, c, d])
    ∨ ∃ r rest, l = bytes r ++ rest ∧ r.payload.length < UInt32.size
  := by
  match l with
  | [] | [_] | [_, _] | [_, _, _] | [_, _, _, _] =>
    left
    simp
  | kind :: a :: b :: c :: d :: rest =>
    right
    cases hsplit : Wire.split? (Wire.number [a, b, c, d]) rest with
    | none =>
      left
      use kind, a, b, c, d, rest, rfl
      apply Wire.split?_eq_none_iff.mp hsplit
    | some parts =>
      right
      obtain ⟨hlength, rfl⟩ := Wire.split?_eq_some_iff.mp hsplit
      use ⟨kind, parts.1⟩, parts.2
      constructor
      · rw [bytes, hlength, Wire.word32_number]
        rfl
      · rw [hlength]
        apply Wire.number_lt

theorem entries_of_short {l : List UInt8} (h : l.length < 5) (count : Nat) :
  entries (count + 1) l = .error .truncated
  := by
  rw [entries]
  rintro kind a b c d rest rfl
  simp at h
  omega

theorem entries_of_short_payload {a b c d : UInt8} {rest : List UInt8}
    (h : rest.length < Wire.number [a, b, c, d]) (count : Nat) (kind : UInt8) :
  entries (count + 1) (kind :: a :: b :: c :: d :: rest) = .error .payloadTruncated
  := by
  rw [entries, Wire.split?_eq_none_iff.mpr h]

/-- An entry in front of some bytes is read, and then what comes after it. -/
theorem entries_bytes_append {r : Response} (h : r.payload.length < UInt32.size) (count : Nat)
    (rest : List UInt8) :
  entries (count + 1) (r.bytes ++ rest) = (entries count rest).map (r :: ·)
  := by
  have hlength := Wire.number_word32_toUInt32 h
  simp only [Wire.word32] at hlength
  simp only [bytes, Wire.word32, List.cons_append, List.nil_append, entries, hlength,
    Wire.split?_append]
  cases entries count rest with
  | ok rs => rfl
  | error e => rfl

/-- Reading entries succeeds exactly on bytes that begin with that many of them. -/
theorem entries_eq_ok_iff {count : Nat} {l : List UInt8} {rs : List Response} :
  entries count l = .ok rs
    ↔ rs.length = count ∧ (∀ r ∈ rs, r.payload.length < UInt32.size) ∧ rs.flatMap bytes <+: l
  := by
  constructor
  · intro h
    induction count generalizing l rs with
    | zero =>
      obtain rfl := Except.ok.inj h
      exact ⟨rfl, by simp, List.nil_prefix⟩
    | succ count ih =>
      obtain hshort | ⟨kind, a, b, c, d, rest, rfl, hshort⟩ | ⟨r, rest, rfl, hr⟩ := bytes_cases l
      · rw [entries_of_short hshort] at h
        cases h
      · rw [entries_of_short_payload hshort] at h
        cases h
      · rw [entries_bytes_append hr] at h
        cases hothers : entries count rest with
        | error e =>
          rw [hothers] at h
          cases h
        | ok others =>
          rw [hothers] at h
          obtain rfl := Except.ok.inj h
          obtain ⟨hlength, hpayload, hprefix⟩ := ih hothers
          refine ⟨?_, ?_, ?_⟩
          · rw [List.length_cons, hlength]
          · rintro x (_ | ⟨_, hx⟩)
            · apply hr
            · apply hpayload x hx
          · rw [List.flatMap_cons]
            apply (List.prefix_append_right_inj r.bytes).mpr hprefix
  · rintro ⟨rfl, hpayload, rest, rfl⟩
    induction rs with
    | nil => rfl
    | cons r rs ih =>
      obtain ⟨hr, hrs⟩ := List.forall_mem_cons.mp hpayload
      rw [List.flatMap_cons, List.append_assoc, List.length_cons, entries_bytes_append hr, ih hrs]
      rfl

/-- Reading responses succeeds exactly on bytes that begin with a written answer, and then
gives that answer. -/
theorem parse_eq_ok_iff {l : List UInt8} {rs : List Response} :
  parse l = .ok rs ↔ Writable rs ∧ message rs <+: l
  := by
  constructor
  · intro h
    simp only [parse] at h
    split at h
    · rename_i a b c d rest
      obtain ⟨hlength, hpayload, hprefix⟩ := entries_eq_ok_iff.mp h
      constructor
      · constructor
        · rw [hlength]
          apply Wire.number_lt
        · apply hpayload
      · rw [message, hlength, Wire.word32_number]
        apply (List.prefix_append_right_inj [a, b, c, d]).mpr hprefix
    · cases h
  · rintro ⟨hwritable, rest, rfl⟩
    have hcount := Wire.number_word32_toUInt32 hwritable.length_lt
    simp only [Wire.word32] at hcount
    simp only [message, Wire.word32, List.cons_append, List.nil_append, parse, hcount]
    apply entries_eq_ok_iff.mpr
    exact ⟨rfl, hwritable.payload_lt, List.prefix_append _ rest⟩

/-! ### Reading by positions -/

/-- Why reading by positions ends early. -/
inductive Fault where
  | malformed (e : ParseError)
  /-- It would have to look outside of the buffer. -/
  | outside
  deriving DecidableEq, Repr

/-- The byte at a position. -/
def byteAt (buffer : ByteArray) (i : Nat) : Except Fault UInt8 :=
  match buffer.data[i]? with
  | some b => .ok b
  | none => .error .outside

/-- The bytes between two positions. -/
def slice (buffer : ByteArray) (start stop : Nat) : Except Fault (List UInt8) :=
  if start ≤ stop ∧ stop ≤ buffer.size then .ok (buffer.extract start stop).toList
  else .error .outside

/-- Reads `count` entries that begin at a position. -/
def entriesAt (buffer : ByteArray) : (count position : Nat) → Except Fault (List Response)
  | 0, _ => .ok []
  | count + 1, position =>
    if buffer.size < position + 5 then .error (.malformed .truncated)
    else do
      let kind ← byteAt buffer position
      let length ← slice buffer (position + 1) (position + 5)
      let stop := position + 5 + Wire.number length
      if buffer.size < stop then .error (.malformed .payloadTruncated)
      else do
        let payload ← slice buffer (position + 5) stop
        let others ← entriesAt buffer count stop
        return { kind, payload } :: others

/-- Reads all entries of a buffer. -/
def readAt (buffer : ByteArray) : Except Fault (List Response) :=
  if buffer.size < 4 then .error (.malformed .noCount)
  else do
    let count ← slice buffer 0 4
    entriesAt buffer (Wire.number count) 4

variable {buffer : ByteArray} {position : Nat}

theorem length_toList (buffer : ByteArray) :
  buffer.toList.length = buffer.size
  := by
  rw [Wire.toList_eq]
  apply Array.length_toList

theorem byteAt_of_drop {b : UInt8} {rest : List UInt8}
    (h : buffer.toList.drop position = b :: rest) :
  byteAt buffer position = .ok b
  := by
  have hget : buffer.data[position]? = some b := by
    rw [← Array.getElem?_toList, ← Wire.toList_eq, ← List.head?_drop, h]
    rfl
  rw [byteAt, hget]

/-- What lies in the buffer can be cut out of it. -/
theorem slice_of_drop (front : List UInt8) {rest : List UInt8}
    (h : buffer.toList.drop position = front ++ rest) (hposition : position ≤ buffer.size) :
  slice buffer position (position + front.length) = .ok front
  := by
  have hlength := congrArg List.length h
  rw [List.length_drop, List.length_append, length_toList] at hlength
  rw [slice, if_pos (by omega), Wire.toList_eq, ByteArray.data_extract, Array.toList_extract,
    ← Wire.toList_eq, List.extract_eq_take_drop, h, Nat.add_sub_cancel_left, List.take_left]

/-- After something has been read, what comes after it is left. -/
theorem drop_add_length (front : List UInt8) {rest : List UInt8}
    (h : buffer.toList.drop position = front ++ rest) :
  buffer.toList.drop (position + front.length) = rest
  := by
  rw [← List.drop_drop, h, List.drop_left]

/-- The kind of an entry and the length of its payload are read in one place. -/
theorem entriesAt_of_header {kind a b c d : UInt8} {rest : List UInt8}
    (h : buffer.toList.drop position = kind :: a :: b :: c :: d :: rest) (count : Nat) :
  entriesAt buffer (count + 1) position =
    let stop := position + 5 + Wire.number [a, b, c, d]
    if buffer.size < stop then .error (.malformed .payloadTruncated)
    else do
      let payload ← slice buffer (position + 5) stop
      let others ← entriesAt buffer count stop
      return { kind, payload } :: others
  := by
  have hlength := congrArg List.length h
  rw [List.length_drop, length_toList] at hlength
  simp only [List.length_cons] at hlength
  have hslice : slice buffer (position + 1) (position + 5) = .ok [a, b, c, d] := by
    apply slice_of_drop [a, b, c, d] (drop_add_length [kind] h)
    rw [List.length_singleton]
    omega
  rw [entriesAt, if_neg (by omega), byteAt_of_drop h, hslice]
  rfl

/-- An entry that lies in the buffer is read, and then what comes after it. -/
theorem entriesAt_of_bytes {r : Response} {rest : List UInt8}
    (h : buffer.toList.drop position = r.bytes ++ rest)
    (hpayload : r.payload.length < UInt32.size) (count : Nat) :
  entriesAt buffer (count + 1) position =
    (entriesAt buffer count (position + r.bytes.length)).map (r :: ·)
  := by
  have hlength := congrArg List.length h
  rw [List.length_drop, List.length_append, length_toList] at hlength
  have hbytes : r.bytes.length = 5 + r.payload.length := by
    simp [bytes, Wire.word32]
    omega
  have hword := Wire.number_word32_toUInt32 hpayload
  rw [Wire.word32] at hword
  have hdrop : buffer.toList.drop (position + 5) = r.payload ++ rest := by
    apply drop_add_length (r.kind :: Wire.word32 r.payload.length.toUInt32)
    rw [h]
    rfl
  rw [entriesAt_of_header h, hword, if_neg (by omega), slice_of_drop r.payload hdrop (by omega),
    hbytes, ← Nat.add_assoc]
  cases entriesAt buffer count (position + 5 + r.payload.length) with
  | ok others => rfl
  | error e => rfl

/-- Reading entries by positions comes to the same as reading them from the front. -/
theorem entriesAt_eq (buffer : ByteArray) (count : Nat) {position : Nat}
    (hposition : position ≤ buffer.size) :
  entriesAt buffer count position =
    (entries count (buffer.toList.drop position)).mapError .malformed
  := by
  induction count generalizing position with
  | zero => rfl
  | succ count ih =>
    have hlength : (buffer.toList.drop position).length = buffer.size - position := by
      rw [List.length_drop, length_toList]
    obtain hshort | ⟨kind, a, b, c, d, rest, hdrop, hshort⟩ | ⟨r, rest, hdrop, hpayload⟩ :=
      bytes_cases (buffer.toList.drop position)
    · rw [entries_of_short hshort, entriesAt, if_pos (by omega)]
      rfl
    · rw [hdrop] at hlength
      simp only [List.length_cons] at hlength
      rw [entriesAt_of_header hdrop, hdrop, entries_of_short_payload hshort]
      apply if_pos
      omega
    · rw [hdrop, List.length_append] at hlength
      rw [entriesAt_of_bytes hdrop hpayload, hdrop, entries_bytes_append hpayload, ih (by omega),
        drop_add_length r.bytes hdrop]
      cases entries count rest with
      | ok others => rfl
      | error e => rfl

theorem parse_of_short {l : List UInt8} (h : l.length < 4) :
  parse l = .error .noCount
  := by
  rw [parse]
  rintro a b c d rest rfl
  simp at h
  omega

/-- Reading a buffer by positions comes to the same as reading its bytes from the front. -/
theorem readAt_eq (buffer : ByteArray) :
  readAt buffer = (parse buffer.toList).mapError .malformed
  := by
  have hlength := length_toList buffer
  rw [readAt]
  split
  · rw [parse_of_short (by omega)]
    rfl
  · match hbytes : buffer.toList, hlength with
    | a :: b :: c :: d :: rest, hlength =>
      have hcount : slice buffer 0 4 = .ok [a, b, c, d] :=
        slice_of_drop [a, b, c, d] hbytes (Nat.zero_le buffer.size)
      have hdrop : buffer.toList.drop 4 = rest := drop_add_length [a, b, c, d] hbytes
      rw [hcount, parse, ← hdrop]
      apply entriesAt_eq
      omega
    | [], hlength | [_], hlength | [_, _], hlength | [_, _, _], hlength =>
      simp only [List.length_cons, List.length_nil] at hlength
      omega

/-- Reading responses succeeds exactly on buffers that begin with a written answer, and
gives that answer, of which there is only one.  Any other buffer is an error, which is
reported as that of a failed batch.  Read by positions, every buffer comes to the same, and
nothing outside of it is looked at. -/
theorem parse_reads_messages (buffer : ByteArray) :
  (∀ rs, parse buffer.toList = .ok rs ↔ Writable rs ∧ message rs <+: buffer.toList)
    ∧ (∀ rs rs', Writable rs → message rs <+: buffer.toList →
        Writable rs' → message rs' <+: buffer.toList → rs = rs')
    ∧ ((¬ ∃ rs, Writable rs ∧ message rs <+: buffer.toList) →
        ∃ e, parse buffer.toList = .error e
          ∧ (Batch.FlushError.malformed e).pieces =
              Text.piecesOfString ("ffi: batch execution failed: " ++ e.message))
    ∧ readAt buffer = (parse buffer.toList).mapError .malformed
    ∧ readAt buffer ≠ .error .outside
  := by
  refine ⟨?_, ?_, ?_, readAt_eq buffer, ?_⟩
  · intro rs
    apply parse_eq_ok_iff
  · intro rs rs' hrs hmessage hrs' hmessage'
    have hparse := parse_eq_ok_iff.mpr ⟨hrs, hmessage⟩
    rw [parse_eq_ok_iff.mpr ⟨hrs', hmessage'⟩] at hparse
    apply (Except.ok.inj hparse).symm
  · intro hnone
    cases hparse : parse buffer.toList with
    | ok rs => exact absurd ⟨rs, parse_eq_ok_iff.mp hparse⟩ hnone
    | error e =>
      use e, rfl
      apply List.append_nil
  · rw [readAt_eq]
    cases parse buffer.toList with
    | ok rs => simp [Except.mapError]
    | error e => simp [Except.mapError]

/-- Two entries and a byte that belongs to none. -/
theorem parse_reads_messages_before_tail :
  let rs : List Response := [⟨0, []⟩, ⟨1, [104, 105]⟩]
  let buffer := Wire.pack [2, 0, 0, 0, 0, 0, 0, 0, 0, 1, 2, 0, 0, 0, 104, 105, 9]
  Writable rs ∧ message rs <+: buffer.toList ∧ parse buffer.toList = .ok rs
  := by
  intro rs buffer
  have hwritable : Writable rs := by
    constructor
    · decide
    · decide
  have hmessage : message rs <+: buffer.toList := by
    rw [Wire.toList_eq]
    decide
  obtain ⟨hparse, -⟩ := parse_reads_messages buffer
  exact ⟨hwritable, hmessage, (hparse rs).mpr ⟨hwritable, hmessage⟩⟩

end Response

end SurfaceHost
