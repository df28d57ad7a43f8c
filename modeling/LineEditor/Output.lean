import LineEditor.Failure

/-!
Where output goes. A device may take what it is given, or a part of it, or may refuse a flush, and
it may do better the next time; an output counts the calls for it and keeps what it took.
-/

namespace LineEditor

inductive Answer where
  | taken
  | refused (count : Nat) (cause : Refusal)
  deriving DecidableEq, Repr, Inhabited

/-- A device by its answers to bytes and to flushes. They may depend on how many calls there were
before, on how many bytes it holds, and on the bytes. -/
structure Device where
  write : Nat → Nat → Bytes → Answer
  flush : Nat → Nat → Option Refusal

namespace Device

def unlimited : Device := ⟨fun _ _ _ => .taken, fun _ _ => none⟩

instance : Inhabited Device := ⟨unlimited⟩

/-- The device that takes so many bytes in all and refuses what is over. -/
def limited (limit : Nat) (refusal : Refusal) : Device where
  write _ held bytes :=
    if held + bytes.length ≤ limit then .taken else .refused (limit - held) refusal
  flush _ _ := none

def next (device : Device) : Device where
  write calls := device.write (calls + 1)
  flush calls := device.flush (calls + 1)

/-- What the device answers does not depend on how often it was called. -/
def IsSteady (device : Device) : Prop := device.next = device

theorem isSteady_unlimited : unlimited.IsSteady := rfl

theorem isSteady_limited (limit : Nat) (refusal : Refusal) : (limited limit refusal).IsSteady := rfl

end Device

structure Output where
  written : Array UInt8 := #[]
  device : Device := .unlimited
  deriving Inhabited

namespace Output

/-- Writes the bytes, or those that the device takes. Nothing is no call. -/
def write (output : Output) (bytes : Bytes) : Output × Option Refusal :=
  if bytes = [] then (output, none)
  else
    match output.device.write 0 output.written.size bytes with
    | .taken => (⟨output.written ++ bytes, output.device.next⟩, none)
    | .refused count cause =>
      (⟨output.written ++ bytes.take count, output.device.next⟩, some cause)

def flush (output : Output) : Output × Option Refusal :=
  ({ output with device := output.device.next }, output.device.flush 0 output.written.size)

def Unlimited (output : Output) : Prop := output.device = .unlimited

def append (output : Output) (bytes : Bytes) : Output :=
  { output with written := output.written ++ bytes }

theorem append_nil (output : Output) : output.append [] = output := by
  simp [append]

theorem append_append (output : Output) (first second : Bytes) :
    (output.append first).append second = output.append (first ++ second) := by
  have written : output.written ++ first ++ second = output.written ++ (first ++ second) :=
    Array.toList_inj.1 (by simp)
  simp only [append, written]

theorem toList_append (output : Output) (bytes : Bytes) :
    (output.append bytes).written.toList = output.written.toList ++ bytes :=
  Array.toList_appendList

theorem size_append (output : Output) (bytes : Bytes) :
    (output.append bytes).written.size = output.written.size + bytes.length := by
  rw [← Array.length_toList, toList_append, List.length_append, Array.length_toList]

/-! ### Writing -/

theorem write_nil (output : Output) : output.write [] = (output, none) := rfl

theorem write_unlimited {output : Output} (unlimited : output.Unlimited) (bytes : Bytes) :
    output.write bytes = (output.append bytes, none) := by
  obtain ⟨written, device⟩ := output
  cases unlimited
  by_cases empty : bytes = []
  · rw [empty, append_nil, write_nil]
  · exact if_neg empty

theorem flush_unlimited {output : Output} (unlimited : output.Unlimited) :
    output.flush = (output, none) := by
  obtain ⟨written, device⟩ := output
  cases unlimited
  rfl

theorem write_taken {output after : Output} {bytes : Bytes}
    (taken : output.write bytes = (after, none)) :
    after.written = (output.append bytes).written := by
  unfold write at taken
  split at taken
  · rename_i empty
    cases taken
    rw [empty, append_nil]
  · split at taken <;> cases taken
    rfl

/-- The later output holds all that the earlier one held, on the same device if that is steady. -/
structure Grows (before after : Output) : Prop where
  written : before.written.toList <+: after.written.toList
  device : before.device.IsSteady → after.device = before.device

theorem Grows.refl (output : Output) : output.Grows output := ⟨List.prefix_refl _, fun _ => rfl⟩

theorem Grows.trans {a b c : Output} (first : a.Grows b) (second : b.Grows c) : a.Grows c where
  written := first.written.trans second.written
  device steady := by
    have same := first.device steady
    rw [second.device (same ▸ steady), same]

theorem Grows.unlimited {before after : Output} (grows : before.Grows after)
    (unlimited : before.Unlimited) : after.Unlimited :=
  (grows.device (unlimited ▸ Device.isSteady_unlimited)).trans unlimited

theorem Grows.size_le {before after : Output} (grows : before.Grows after) :
    before.written.size ≤ after.written.size := by
  simpa using grows.written.length_le

theorem write_grows (output : Output) (bytes : Bytes) : output.Grows (output.write bytes).1 := by
  unfold write
  split
  · exact .refl output
  · split <;> exact ⟨by simp, fun steady => steady⟩

theorem flush_grows (output : Output) : output.Grows output.flush.1 :=
  ⟨List.prefix_refl _, fun steady => steady⟩

/-! ### A limit -/

theorem write_limited {output : Output} {limit : Nat} {refusal : Refusal}
    (limited : output.device = .limited limit refusal) (bytes : Bytes) :
    output.write bytes =
      if bytes = [] ∨ output.written.size + bytes.length ≤ limit then (output.append bytes, none)
      else (output.append (bytes.take (limit - output.written.size)), some refusal) := by
  obtain ⟨written, device⟩ := output
  cases limited
  by_cases empty : bytes = []
  · rw [if_pos (.inl empty), empty, append_nil, write_nil]
  · by_cases fits : written.size + bytes.length ≤ limit
    · simp [write, append, Device.next, empty, fits]
    · simp [write, append, Device.next, empty, fits]

/-! ### Broken output -/

/-- The output takes no byte more, and refuses it for this reason. -/
def Full (refusal : Refusal) (output : Output) : Prop :=
  ∀ bytes, bytes ≠ [] → output.write bytes = (output, some refusal)

/-- Once the output refuses something it refuses everything. -/
def BreaksForGood (output : Output) : Prop :=
  ∀ bytes refusal after, output.write bytes = (after, some refusal) → after.Full refusal

theorem Unlimited.breaksForGood {output : Output} (unlimited : output.Unlimited) :
    output.BreaksForGood := by
  intro bytes refusal after refused
  rw [write_unlimited unlimited] at refused
  cases refused

theorem full_of_limited {output : Output} {limit : Nat} {refusal : Refusal}
    (limited : output.device = .limited limit refusal) (reached : limit ≤ output.written.size) :
    output.Full refusal := by
  intro bytes notEmpty
  have positive := List.length_pos_iff.2 notEmpty
  rw [write_limited limited, if_neg (by grind), Nat.sub_eq_zero_of_le reached, List.take_zero,
    append_nil]

theorem breaksForGood_of_limited {output : Output} {limit : Nat} {refusal : Refusal}
    (limited : output.device = .limited limit refusal) : output.BreaksForGood := by
  intro bytes cause after refused
  rw [write_limited limited] at refused
  split at refused
  · cases refused
  · cases refused
    have still : (output.append (bytes.take (limit - output.written.size))).device
        = .limited limit refusal := limited
    apply full_of_limited still
    rw [size_append, List.length_take]
    omega

end Output

end LineEditor
