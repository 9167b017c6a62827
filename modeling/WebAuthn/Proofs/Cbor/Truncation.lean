import WebAuthn.Proofs.Cbor.Recognition

/-!
# CBOR that ends too early

A reader learns of the end of its input in one way: by needing a byte that is not there. As long as it does not, it
cannot tell whether more bytes follow, and comes to the same result if they do. So a strict prefix of an accepted input
is refused for its end, since the reader would else have stopped short of the end of the whole input too.

* `Reader.RunsOut`, `Reader.Persists` — failing for the end of the input, and coming to the same result otherwise,
  whatever follows the input; one lemma for each step of the reader;
* `persists_item` — the reader of data items persists;
* `prefix_truncated` — a strict prefix of an accepted input is refused as truncated.
-/

namespace WebAuthn.Cbor

/-- The cursor with more bytes behind its input. -/
def Cursor.extend (cursor : Cursor) (more : Bytes) : Cursor :=
  ⟨cursor.rest ++ more, cursor.position⟩

theorem hasBytes_append {count : Nat} {bytes : Bytes} (more : Bytes) (h : hasBytes count bytes = true) :
    hasBytes count (bytes ++ more) = true := by
  rw [hasBytes_iff] at h ⊢
  rw [List.length_append]
  exact Nat.le_add_right_of_le h

/-! ### Readers on longer inputs -/

namespace Reader

variable {α β : Type} {cursor : Cursor}

/-- The reader fails because the input ends where it stops. -/
def RunsOut (r : Reader α) (cursor : Cursor) : Prop :=
  (r cursor).1 = .error (.truncated (r cursor).2.position)

/-- Unless the reader runs out of input, it comes to the same result and stops at the same place if more bytes
follow. -/
def Persists (r : Reader α) : Prop :=
  ∀ cursor more, r.RunsOut cursor ∨ r (cursor.extend more) = ((r cursor).1, (r cursor).2.extend more)

theorem persists_pure (a : α) : (pure a : Reader α).Persists :=
  fun _ _ => .inr rfl

theorem persists_fail (error : Error) : (fail error : Reader α).Persists :=
  fun _ _ => .inr rfl

theorem persists_takeByte : takeByte.Persists := by
  intro cursor more
  obtain ⟨rest, position⟩ := cursor
  cases rest with
  | nil => exact .inl rfl
  | cons head tail => exact .inr rfl

theorem persists_take (count : Nat) : (take count).Persists := by
  intro cursor more
  unfold RunsOut take
  split
  · next h =>
    have hle := hasBytes_iff.1 h
    have hlong : hasBytes count (cursor.extend more).rest = true := hasBytes_append more h
    rw [if_pos hlong]
    refine .inr ?_
    simp only [Cursor.extend, List.take_append_of_le_length hle, List.drop_append_of_le_length hle]
  · exact .inl rfl

theorem persists_require (count : Nat) : (require count).Persists := by
  intro cursor more
  unfold RunsOut require
  split
  · next h =>
    have hlong : hasBytes count (cursor.extend more).rest = true := hasBytes_append more h
    rw [if_pos hlong]
    exact .inr rfl
  · exact .inl rfl

theorem Persists.bind {r : Reader α} {next : α → Reader β} (h : r.Persists)
    (hn : ∀ a, (next a).Persists) : (r >>= next).Persists := by
  intro cursor more
  have hr := h cursor more
  unfold RunsOut at *
  rcases hcursor : r cursor with ⟨result, stop⟩
  rw [hcursor] at hr
  cases result with
  | error e =>
    rw [bind_of_error hcursor]
    obtain hout | hsame := hr
    · exact .inl (congrArg Except.error (Except.error.inj hout))
    · exact .inr (bind_of_error hsame)
  | ok a =>
    rw [bind_of_ok hcursor]
    obtain hout | hsame := hr
    · cases hout
    · rw [bind_of_ok hsame]
      exact hn a stop more

/-- Every step of the reader of data items persists. -/
theorem lockstep_persists (limits : Limits) : Lockstep limits fun r _ => r.Persists where
  pure := persists_pure
  fail := persists_fail
  position := fun _ _ => .inr rfl
  takeByte := persists_takeByte
  take := persists_take
  require := persists_require
  bind := Persists.bind
  refuse _ _ := persists_fail _

end Reader

open Reader

variable {limits : Limits} {input front : Bytes} {value : Value}

theorem persists_item (limits : Limits) (levels : Nat) : (item limits levels).Persists :=
  (lockstep_persists limits).item limits.le_refl (Nat.le_refl levels)

/-! ### Whole inputs -/

theorem decode_of_item_error {error : Error} (hlong : input.length ≤ limits.maxLength)
    (h : (item limits limits.maxDepth ⟨input, 0⟩).1 = .error error) :
    decode limits input = .error error := by
  rw [decode_eq hlong, h]
  rfl

/-- The reader stops at the end of an accepted input. -/
theorem item_of_decode (h : decode limits input = .ok value) :
    item limits limits.maxDepth ⟨input, 0⟩ = (.ok value, ⟨[], input.length⟩) := by
  have hadmitted := (decode_eq_ok_iff.1 h).2
  exact (recognizes_item limits limits.maxDepth _ _ _).2
    ⟨input, hadmitted, (List.append_nil input).symm, (Nat.zero_add _).symm⟩

/-- Every strict prefix of an accepted input is refused because it ends too early, at an offset in the prefix or at its
end. -/
theorem prefix_truncated (h : decode limits input = .ok value) (hfront : front <+: input)
    (hstrict : front ≠ input) :
    ∃ offset, offset ≤ front.length ∧ decode limits front = .error (.truncated offset) := by
  obtain ⟨more, rfl⟩ := hfront
  have hlong := (decode_eq_ok_iff.1 h).1
  rw [List.length_append] at hlong
  obtain hout | hsame := persists_item limits limits.maxDepth ⟨front, 0⟩ more
  · obtain ⟨bytes, hrest, hposition⟩ := advances_item limits limits.maxDepth ⟨front, 0⟩
    refine ⟨_, ?_, decode_of_item_error (by omega) hout⟩
    have hfront : front.length = _ := congrArg List.length hrest
    rw [List.length_append] at hfront
    rw [hposition]
    show 0 + bytes.length ≤ front.length
    omega
  · -- the reader would stop before the bytes that were cut off
    have hend := congrArg (fun result => result.2.rest) (hsame.symm.trans (item_of_decode h))
    have hmore : more = [] := (List.append_eq_nil_iff.1 hend).2
    rw [hmore, List.append_nil] at hstrict
    exact absurd rfl hstrict

/-- A map that is cut inside the array that is its value: the array is known to be too long for the rest. -/
theorem sample_prefix_truncated :
    decode {} [0xa1, 0x18, 0x05, 0x82, 0xf8, 0x15, 0x20] =
        .ok (.map [(.int 5, .array [.bool true, .int (-1)])]) ∧
      ∃ offset, offset ≤ 5 ∧ decode {} [0xa1, 0x18, 0x05, 0x82, 0xf8] = .error (.truncated offset) := by
  have hread : decode {} [0xa1, 0x18, 0x05, 0x82, 0xf8, 0x15, 0x20] =
      .ok (.map [(.int 5, .array [.bool true, .int (-1)])]) := rfl
  have hcut : ([0xa1, 0x18, 0x05, 0x82, 0xf8] : Bytes) <+: [0xa1, 0x18, 0x05, 0x82, 0xf8, 0x15, 0x20] :=
    ⟨[0x15, 0x20], rfl⟩
  exact ⟨hread, prefix_truncated hread hcut (by decide)⟩

end WebAuthn.Cbor
