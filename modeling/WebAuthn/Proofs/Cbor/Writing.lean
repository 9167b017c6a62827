import WebAuthn.Cbor.Encoder
import WebAuthn.Proofs.Cbor.Recognition

/-!
# What is written is an encoding

* `Value.Writable` — the integers and tags of a data item fit into eight bytes;
* `encodes_head` — a head and a content are an encoding;
* `encodes_encode` — what is written is an encoding of the data item, by induction on the item;
* `decode_encode` — it is read as the item, if the item and its encoding are within the limits.
-/

namespace WebAuthn.Cbor

namespace Value

mutual
/-- The integers lie in `-2^64 … 2^64 - 1` and the tags below `2^64`. -/
def Writable : Value → Prop
  | .int n => n < Nat.pow 256 8 ∧ -1 - n < Nat.pow 256 8
  | .array items => WritableItems items
  | .map entries => WritableEntries entries
  | .tag number content => number < Nat.pow 256 8 ∧ Writable content
  | _ => True

def WritableItems : List Value → Prop
  | [] => True
  | item :: rest => Writable item ∧ WritableItems rest

def WritableEntries : List (Value × Value) → Prop
  | [] => True
  | (key, value) :: rest => (Writable key ∧ Writable value) ∧ WritableEntries rest
end

end Value

/-! ### Heads -/

variable {major argument : Nat} {value : Value} {body : Bytes}

/-- A head is a first byte and the argument in the width that this byte announces. -/
theorem exists_argument (h : argument < Nat.pow 256 8) :
    ∃ info following, Argument info argument following ∧
      head major argument = UInt8.ofNat (32 * major + info) :: following := by
  unfold head
  by_cases h0 : argument < 24
  · rw [if_pos h0]
    exact ⟨argument, [], .immediate h0, rfl⟩
  rw [if_neg h0]
  by_cases h1 : argument < 256
  · rw [if_pos h1]
    exact ⟨24, Bytes.ofNat 1 argument, .following (by decide) h1, rfl⟩
  rw [if_neg h1]
  by_cases h2 : argument < 65536
  · rw [if_pos h2]
    exact ⟨25, Bytes.ofNat 2 argument, .following (by decide) h2, rfl⟩
  rw [if_neg h2]
  by_cases h4 : argument < 4294967296
  · rw [if_pos h4]
    exact ⟨26, Bytes.ofNat 4 argument, .following (by decide) h4, rfl⟩
  · rw [if_neg h4]
    exact ⟨27, Bytes.ofNat 8 argument, .following (by decide) h, rfl⟩

theorem encodes_head (h : argument < Nat.pow 256 8)
    (hc : Content Encodes major argument value body) :
    Encodes value (head major argument ++ body) := by
  obtain ⟨info, following, ha, hhead⟩ := exists_argument h
  rw [hhead, List.cons_append]
  exact .item ha hc

/-! ### Data items -/

/-- A length counts bytes of the encoding, so that it fits into eight bytes if the length of the encoding does. -/
theorem lt_of_length_append {n : Nat} {front : Bytes} (h : (front ++ body).length < Nat.pow 256 8)
    (hn : n ≤ body.length) : n < Nat.pow 256 8 := by
  rw [List.length_append] at h
  omega

mutual
theorem encodes_encode : (value : Value) → value.Writable →
    (encode value).length < Nat.pow 256 8 → Encodes value (encode value)
  | .int n, hw, _ => by
    obtain ⟨hmax, hmin⟩ := hw
    rw [encode]
    by_cases hn : n < 0
    · have hvalue : -1 - ((-1 - n).toNat : Int) = n := by omega
      have he := encodes_head (by omega) (.negative (n := (-1 - n).toNat))
      rw [hvalue, List.append_nil] at he
      rwa [if_pos hn]
    · have hvalue : (n.toNat : Int) = n := by omega
      have he := encodes_head (by omega) (.unsigned (n := n.toNat))
      rw [hvalue, List.append_nil] at he
      rwa [if_neg hn]
  | .bytes content, _, hl => encodes_head (lt_of_length_append hl (Nat.le_refl _)) .bytes
  | .text content, _, hl => encodes_head (lt_of_length_append hl (Nat.le_refl _)) .text
  | .array items, hw, hl => by
    have hrow := row_encodeItems items hw (lt_of_length_append hl (Nat.le_refl _))
    -- every item takes a byte, so that their number fits if their bytes do
    have hlength : items.length ≤ (encodeItems items).length :=
      hrow.length_le fun _ _ h => h.length_pos
    exact encodes_head (lt_of_length_append hl hlength) (.array hrow)
  | .map entries, hw, hl => by
    have hrow := pairRow_encodeEntries entries hw (lt_of_length_append hl (Nat.le_refl _))
    have hlength : 2 * entries.length ≤ (encodeEntries entries).length :=
      hrow.length_le fun _ _ h => h.length_pos
    exact encodes_head (lt_of_length_append hl (by omega)) (.map hrow)
  | .tag number content, hw, hl =>
    encodes_head hw.1 (.tag (encodes_encode content hw.2 (lt_of_length_append hl (Nat.le_refl _))))
  | .bool false, _, _ => .simple .false
  | .bool true, _, _ => .simple .true
  | .null, _, _ => .simple .null

theorem row_encodeItems : (items : List Value) → Value.WritableItems items →
    (encodeItems items).length < Nat.pow 256 8 → Row Encodes items (encodeItems items)
  | [], _, _ => .nil
  | item :: rest, hw, hl => by
    rw [encodeItems, List.length_append] at hl
    exact .cons (encodes_encode item hw.1 (by omega)) (row_encodeItems rest hw.2 (by omega))

theorem pairRow_encodeEntries : (entries : List (Value × Value)) → Value.WritableEntries entries →
    (encodeEntries entries).length < Nat.pow 256 8 → PairRow Encodes entries (encodeEntries entries)
  | [], _, _ => .nil
  | (key, value) :: rest, hw, hl => by
    rw [encodeEntries, List.length_append, List.length_append] at hl
    exact .cons (encodes_encode key hw.1.1 (by omega)) (encodes_encode value hw.1.2 (by omega))
      (pairRow_encodeEntries rest hw.2 (by omega))
end

/-- What is written is read as the data item. -/
theorem decode_encode {limits : Limits} (hw : value.Writable)
    (hl : (encode value).length < Nat.pow 256 8) (hmax : (encode value).length ≤ limits.maxLength)
    (hwithin : value.Within limits limits.maxDepth) : decode limits (encode value) = .ok value :=
  decode_eq_ok_iff.2 ⟨hmax, encodes_encode value hw hl, hwithin⟩

/-! ### Lengths -/

/-- A head takes at most nine bytes. -/
theorem length_head_le (major argument : Nat) : (head major argument).length ≤ 9 := by
  have hwidth : ∀ (first : UInt8) (width : Nat), width ≤ 8 →
      (first :: Bytes.ofNat width argument).length ≤ 9 := by
    intro first width h
    rw [List.length_cons, Bytes.ofNat_length]
    omega
  unfold head
  split
  · exact Nat.le_add_left 1 8
  split
  · exact hwidth _ 1 (by decide)
  split
  · exact hwidth _ 2 (by decide)
  split
  · exact hwidth _ 4 (by decide)
  · exact hwidth _ 8 (by decide)

theorem length_encode_int_le (n : Int) : (encode (.int n)).length ≤ 9 := by
  rw [encode]
  split
  · exact length_head_le _ _
  · exact length_head_le _ _

theorem length_encode_bytes_le (content : Bytes) :
    (encode (.bytes content)).length ≤ 9 + content.length := by
  have hhead := length_head_le 2 content.length
  rw [encode, List.length_append]
  omega

/-- A map is as long as its entries, each of at most so many bytes. -/
theorem length_encode_map_le {entries : List (Value × Value)} {most : Nat}
    (h : ∀ entry ∈ entries, (encode entry.1).length + (encode entry.2).length ≤ most) :
    (encode (.map entries)).length ≤ 9 + most * entries.length := by
  have hentries : (encodeEntries entries).length ≤ most * entries.length := by
    induction entries with
    | nil => exact Nat.zero_le _
    | cons entry rest ih =>
      obtain ⟨hentry, hrest⟩ := List.forall_mem_cons.1 h
      have hsum := ih hrest
      rw [encodeEntries, List.length_append, List.length_append, List.length_cons, Nat.mul_succ]
      omega
  have hhead := length_head_le 5 entries.length
  rw [encode, List.length_append]
  omega

end WebAuthn.Cbor
