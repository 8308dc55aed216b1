import PolicyLint.Digest.Key

/-!
# Streams of keys

The stream that is hashed for a key tells its three texts apart, whatever they are: the length of each is written in
eight bytes in front of it. A digest is written with 64 digits, so fingerprints are short enough for that.
-/

namespace PolicyLint

/-! ### Bytes of texts -/

theorem utf8_inj {s s' : String} (same : utf8 s = utf8 s') : s = s' := by
  have data : s.toUTF8.data = s'.toUTF8.data := Array.toList_inj.mp same
  rw [← String.toByteArray_inj]
  exact ByteArray.ext data

theorem utf8_ofList (cs : List Char) : utf8 (String.ofList cs) = cs.flatMap String.utf8EncodeChar := by
  rw [utf8, String.toUTF8_eq_toByteArray, String.toByteArray_ofList, List.utf8Encode, List.toList_data_toByteArray]

theorem length_utf8_ofList {cs : List Char} (ascii : ∀ c ∈ cs, c.utf8Size = 1) :
    (utf8 (String.ofList cs)).length = cs.length := by
  rw [utf8_ofList]
  induction cs with
  | nil => rfl
  | cons c rest ih =>
    rw [List.flatMap_cons, List.length_append, String.length_utf8EncodeChar, ascii c List.mem_cons_self,
      ih fun c' member => ascii c' (List.mem_cons_of_mem _ member), List.length_cons, Nat.add_comm]

/-! ### Lengths of digests -/

namespace Blake3

theorem utf8Size_digitChar (n : Nat) : (Nat.digitChar n).utf8Size = 1 := by
  have digits : ∀ m : Fin 16, (Nat.digitChar m).utf8Size = 1 := by decide
  by_cases small : n < 16
  · exact digits ⟨n, small⟩
  · have none : Nat.digitChar n = '*' := by
      unfold Nat.digitChar
      repeat rw [if_neg (by omega)]
    rw [none]
    rfl

theorem length_hex (bytes : List UInt8) : (utf8 (hex bytes)).length = 64 := by
  unfold hex
  rw [length_utf8_ofList]
  · have words : (digest bytes).toList.length = 8 := Vector.length_toList
    have digits : ∀ w : UInt32, ((wordBytes w).flatMap hexByte).length = 8 := fun w => rfl
    generalize (digest bytes).toList = l at words
    obtain ⟨a, b, c, d, e, f, g, h, rfl⟩ : ∃ a b c d e f g h, l = [a, b, c, d, e, f, g, h] := by
      match l, words with
      | [a, b, c, d, e, f, g, h], _ => exact ⟨a, b, c, d, e, f, g, h, rfl⟩
    simp [List.flatMap_cons, wordBytes, hexByte]
  · intro c member
    obtain ⟨w, _, digits⟩ := List.mem_flatMap.mp member
    obtain ⟨b, _, digit⟩ := List.mem_flatMap.mp digits
    unfold hexByte at digit
    rcases List.mem_cons.mp digit with rfl | digit
    · exact utf8Size_digitChar _
    · rw [List.mem_singleton.mp digit]
      exact utf8Size_digitChar _

end Blake3

theorem length_fingerprint (s : String) : (utf8 (fingerprint s)).length = 64 := Blake3.length_hex (utf8 s)

/-! ### Lengths in eight bytes -/

def ofBytes : List UInt8 → Nat
  | [] => 0
  | b :: rest => b.toNat + 256 * ofBytes rest

theorem ofBytes_shifts (k n : Nat) :
    ofBytes ((List.range k).map fun i => (n >>> (8 * i)).toUInt8) = n % Nat.pow 256 k := by
  induction k generalizing n with
  | zero => exact (Nat.mod_one n).symm
  | succ k ih =>
    have shifted : ∀ i, n >>> (8 * (i + 1)) = (n / 256) >>> (8 * i) := by
      intro i
      rw [Nat.mul_succ, Nat.add_comm, Nat.shiftRight_add, Nat.shiftRight_eq_div_pow n 8]
    have low : (n >>> (8 * 0)).toUInt8.toNat = n % 256 := rfl
    have next : Nat.pow 256 (k + 1) = 256 * Nat.pow 256 k := Nat.mul_comm _ _
    rw [List.range_succ_eq_map, List.map_cons, List.map_map, ofBytes, low]
    simp only [Function.comp_def, Nat.succ_eq_add_one, shifted]
    rw [ih, next, Nat.mod_mul]

def Brief (s : String) : Prop := (utf8 s).length < UInt64.size

instance (s : String) : Decidable (Brief s) := inferInstanceAs (Decidable (_ < _))

theorem brief_fingerprint (s : String) : Brief (fingerprint s) := by
  rw [Brief, length_fingerprint]
  decide

theorem lengthBytes_inj {n n' : Nat} (small : n < UInt64.size) (small' : n' < UInt64.size)
    (same : lengthBytes n = lengthBytes n') : n = n' := by
  have value : ofBytes (lengthBytes n) = ofBytes (lengthBytes n') := congrArg ofBytes same
  have eight : Nat.pow 256 8 = UInt64.size := rfl
  rw [lengthBytes, lengthBytes, ofBytes_shifts, ofBytes_shifts, eight] at value
  rwa [Nat.mod_eq_of_lt small, Nat.mod_eq_of_lt small'] at value

/-! ### Streams -/

/-- The length says where a part ends, whatever its bytes look like. -/
theorem keyPart_append_inj {label part part' : String} {x x' : List UInt8} (brief : Brief part) (brief' : Brief part')
    (same : keyPart label part ++ x = keyPart label part' ++ x') : part = part' ∧ x = x' := by
  unfold keyPart at same
  rw [List.append_assoc, List.append_assoc, List.append_assoc, List.append_assoc] at same
  have wide : ∀ n n' : Nat, (lengthBytes n).length = (lengthBytes n').length := fun _ _ => rfl
  obtain ⟨lengths, rest⟩ := List.append_inj (List.append_cancel_left same) (wide _ _)
  obtain ⟨parts, others⟩ := List.append_inj rest (lengthBytes_inj brief brief' lengths)
  exact ⟨utf8_inj parts, others⟩

section Streams

variable {file file' rule rule' model model' : String}

theorem keyStream_inj (brief : ∀ s ∈ [file, rule, model, file', rule', model'], Brief s)
    (same : keyStream file rule model = keyStream file' rule' model') : file = file' ∧ rule = rule' ∧ model = model' := by
  simp only [List.forall_mem_cons] at brief
  obtain ⟨first, second, third, first', second', third', _⟩ := brief
  unfold keyStream at same
  rw [List.append_assoc, List.append_assoc] at same
  obtain ⟨file, rest⟩ := keyPart_append_inj first first' same
  obtain ⟨rule, rest⟩ := keyPart_append_inj second second' rest
  rw [← List.append_nil (keyPart _ model), ← List.append_nil (keyPart _ model')] at rest
  exact ⟨file, rule, (keyPart_append_inj third third' rest).1⟩

/-- Streams are equal only if the three texts are, also where a text looks like a label or a length, and so are keys
if the digests of the streams do not collide. -/
theorem keyStream_eq_iff (brief : ∀ s ∈ [file, rule, model, file', rule', model'], Brief s) :
    (keyStream file rule model = keyStream file' rule' model' ↔ file = file' ∧ rule = rule' ∧ model = model') ∧
      ((Blake3.hex (keyStream file rule model) = Blake3.hex (keyStream file' rule' model') →
          keyStream file rule model = keyStream file' rule' model') →
        (Key.of file rule model = Key.of file' rule' model' ↔ file = file' ∧ rule = rule' ∧ model = model')) := by
  have streams : keyStream file rule model = keyStream file' rule' model' ↔
      file = file' ∧ rule = rule' ∧ model = model' := by
    refine ⟨keyStream_inj brief, ?_⟩
    rintro ⟨rfl, rfl, rfl⟩
    rfl
  refine ⟨streams, fun collisionless => ?_⟩
  constructor
  · intro same
    exact streams.mp (collisionless (congrArg Key.text same))
  · rintro ⟨rfl, rfl, rfl⟩
    rfl

/-- The file of one stream, and the rule of the other one, look like the end of a part, a label and a length. -/
theorem keyStream_eq_iff_of_label :
    let file := "xrule\x01\x00\x00\x00\x00\x00\x00\x00y"
    let rule := "yrule\x01\x00\x00\x00\x00\x00\x00\x00z"
    keyStream file "z" "" ≠ keyStream "x" rule "" ∧ Key.of file "z" "" ≠ Key.of "x" rule "" := by
  intro file rule
  have brief : ∀ s ∈ [file, "z", "", "x", rule, ""], Brief s := by decide +kernel
  have different : file ≠ "x" := by decide
  have collisionless : Blake3.hex (keyStream file "z" "") ≠ Blake3.hex (keyStream "x" rule "") := by decide +kernel
  obtain ⟨streams, keys⟩ := keyStream_eq_iff brief
  exact ⟨fun same => different (streams.mp same).1,
    fun same => different ((keys fun collides => absurd collides collisionless).mp same).1⟩

end Streams

end PolicyLint
