import Faults.Fault.Bytes
import Faults.Proofs.SelfDelimiting
import Mathlib.Tactic.SplitIfs

/-!
# The byte stream of a fault delimits itself

A hasher is fed the streams of several faults one behind the other, with
nothing between them.  The stream of a fault ends in a byte that UTF-8 never
uses; but the same byte may occur among the four bytes of the status, so the
end cannot be found by searching for it from the start.  What makes the stream
readable is its order: first a field of fixed width, then a field that is free
of the terminator, then the terminator.

* `Utf8.encode_injective`, `Utf8.terminator_notMem_encode` — the message field;
* `statusBytes_injective` — the status field: the word of a status is the sum
  of its bytes in base 256 (`littleEndian_statusBytes`);
* `Fault.selfDelimiting_hashBytes` — a stream determines its fault and its end;
* `hashStreams_uniquely_decodable` — **consequently** faults fed in a row are
  told apart from any other faults fed in a row.
-/

namespace Faults

namespace Utf8

/-- The bytes of a text are those of the string with its characters. -/
theorem encode_eq_toUTF8 (s : String) : encode s.toList = s.toUTF8.data.toList := by
  have hbytes : s.toUTF8 = (encode s.toList).toByteArray := by
    rw [String.toUTF8_eq_toByteArray, ← String.utf8Encode_toList]
    rfl
  rw [hbytes, List.toList_data_toByteArray]

theorem encode_injective : Function.Injective encode := by
  intro s t heq
  have hs := encode_eq_toUTF8 (String.ofList s)
  have ht := encode_eq_toUTF8 (String.ofList t)
  rw [String.toList_ofList] at hs ht
  rw [hs, ht] at heq
  have hbytes : (String.ofList s).toUTF8 = (String.ofList t).toUTF8 :=
    ByteArray.ext (Array.toList_inj.mp heq)
  exact String.ofList_injective (String.toByteArray_inj.mp hbytes)

/-- No byte of a character is the greatest byte. -/
theorem ne_terminator_of_mem_utf8EncodeChar {c : Char} {byte : UInt8}
    (h : byte ∈ String.utf8EncodeChar c) : byte ≠ Fault.terminator := by
  have hlt : byte.toNat < 0xff := by
    -- Each of the four lengths bounds its leading byte and the bytes behind it.
    simp only [String.utf8EncodeChar] at h
    split_ifs at h <;> simp only [List.mem_cons, List.not_mem_nil, or_false] at h
    · subst h
      rw [UInt8.toNat_ofNat']
      omega
    · rcases h with rfl | rfl <;> rw [UInt8.toNat_ofNat'] <;> omega
    · rcases h with rfl | rfl | rfl <;> rw [UInt8.toNat_ofNat'] <;> omega
    · rcases h with rfl | rfl | rfl | rfl <;> rw [UInt8.toNat_ofNat'] <;> omega
  rintro rfl
  exact absurd hlt (by decide)

/-- The terminator never occurs in UTF-8. -/
theorem terminator_notMem_encode (text : Text) : Fault.terminator ∉ encode text := by
  intro hmem
  obtain ⟨c, -, hc⟩ := List.mem_flatMap.mp hmem
  exact ne_terminator_of_mem_utf8EncodeChar hc rfl

end Utf8

/-! ## The status -/

/-- The number that four bytes stand for, the least significant first. -/
def littleEndian : List UInt8 → Nat
  | [] => 0
  | byte :: rest => byte.toNat + 0x100 * littleEndian rest

/-- The bytes of a status are those of its word. -/
theorem littleEndian_statusBytes (status : Int32) :
    littleEndian (statusBytes status) = status.toUInt32.toNat := by
  have hlt : status.toUInt32.toNat < 0x100000000 := UInt32.toNat_lt _
  simp only [statusBytes, littleEndian, UInt8.toNat_ofNat']
  omega

/-- The word of a status is its two's complement. -/
theorem toNat_toUInt32 (status : Int32) :
    (status.toUInt32.toNat : Int) = status.toInt % 0x100000000 := by
  have hlt : status.toUInt32.toNat < 0x100000000 := UInt32.toNat_lt _
  have hcond : status.toInt = if 2 * status.toUInt32.toNat < 0x100000000
      then (status.toUInt32.toNat : Int) else status.toUInt32.toNat - 0x100000000 :=
    BitVec.toInt_eq_toNat_cond status.toBitVec
  split_ifs at hcond <;> omega

theorem length_statusBytes (status : Int32) : (statusBytes status).length = 4 :=
  rfl

theorem statusBytes_injective : Function.Injective statusBytes := by
  intro s t heq
  have hword : s.toUInt32.toNat = t.toUInt32.toNat := by
    rw [← littleEndian_statusBytes, heq, littleEndian_statusBytes]
  have hrange (u : Int32) : -0x80000000 ≤ u.toInt ∧ u.toInt < 0x80000000 :=
    ⟨u.le_toInt, u.toInt_lt⟩
  have hs := toNat_toUInt32 s
  have ht := toNat_toUInt32 t
  have hsr := hrange s
  have htr := hrange t
  exact Int32.toInt.inj (by omega)

namespace Fault

/-! ## The stream -/

theorem hashBytes_eq (e : Fault) :
    e.hashBytes = statusBytes e.status ++ (Utf8.encode e.message.toList ++ [terminator]) :=
  List.append_assoc _ _ _

/-- **A stream determines its fault and its own end.**  The status is a field
of fixed width, so a terminator among its bytes does not matter; the message is
free of the terminator that ends it. -/
theorem selfDelimiting_hashBytes : SelfDelimiting hashBytes := by
  have hstatus : SelfDelimiting statusBytes :=
    selfDelimiting_fixedWidth statusBytes_injective length_statusBytes
  have hmessage : SelfDelimiting fun m : String => Utf8.encode m.toList ++ [terminator] :=
    selfDelimiting_terminated
      (fun m n heq => String.toList_injective (Utf8.encode_injective heq))
      (fun m => Utf8.terminator_notMem_encode m.toList)
  have hstream : hashBytes = fun e : Fault =>
      statusBytes e.status ++ (Utf8.encode e.message.toList ++ [terminator]) :=
    funext hashBytes_eq
  rw [hstream]
  exact selfDelimiting_fields hstatus hmessage

theorem hashBytes_ne_nil (e : Fault) : e.hashBytes ≠ [] := by
  rw [hashBytes_eq]
  simp [statusBytes]

end Fault

/-- **Faults fed in a row are told apart from any others.**  The stream of a
fault is its status as four bytes of two's complement, the least significant
first, its message in UTF-8, and a terminator; lists of faults with the same
concatenated streams are equal; and single streams agree exactly for equal
faults, none of them being a proper beginning of another. -/
theorem hashStreams_uniquely_decodable :
    (∀ e : Fault, ∃ word : List UInt8, word.length = 4 ∧
      (littleEndian word : Int) = e.status.toInt % 0x100000000 ∧
      e.hashBytes = word ++ e.message.toUTF8.data.toList ++ [0xff]) ∧
    (∀ es fs : List Fault, es.flatMap Fault.hashBytes = fs.flatMap Fault.hashBytes → es = fs) ∧
    (∀ e f : Fault, e.hashBytes = f.hashBytes ↔ (e == f) = true) ∧
    (∀ e f : Fault, e.hashBytes <+: f.hashBytes → e.hashBytes = f.hashBytes) := by
  have hstream := Fault.selfDelimiting_hashBytes
  refine ⟨fun e => ⟨statusBytes e.status, length_statusBytes _, ?_, ?_⟩, ?_, ?_, ?_⟩
  · rw [littleEndian_statusBytes, toNat_toUInt32]
  · rw [← Utf8.encode_eq_toUTF8]
    rfl
  · intro es fs heq
    exact hstream.flatMap_injective Fault.hashBytes_ne_nil heq
  · intro e f
    rw [beq_iff_eq]
    exact hstream.injective.eq_iff
  · intro e f hbegin
    rw [hstream.eq_of_isPrefix hbegin]

end Faults
