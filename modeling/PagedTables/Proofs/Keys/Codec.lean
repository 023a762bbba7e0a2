/-
# Reading keys and values

The bytes of a tuple determine it, and no other bytes are read as a tuple: for given types,
reading undoes writing, and what is read is written back byte for byte.

* `unescape_eq_ok_iff` : escaped byte strings;
* `decodeValue_eq_ok_iff` : a value in front of other bytes;
* `decodeTuple_eq_ok_iff`, `decodeKey_eq_ok_iff` : tuples and keys;
* `codec_exact` : all of them, and the strings that are passed on as they are.
-/
import Mathlib
import PagedTables.Key.Tuple
import PagedTables.Proofs.Action
import PagedTables.Proofs.Bytes

namespace PagedTables

/-! ## Numbers at the start of a string -/

namespace Bytes

variable {b : Bytes} {width n : Nat}

/-- A number that the bytes have room for is read back. -/
theorem toNatBE_ofNatBE_of_lt (h : n < 256 ^ width) : toNatBE (ofNatBE width n) = n := by
  rw [toNatBE_ofNatBE, Nat.mod_eq_of_lt h]

theorem toNatBE_take_lt (h : width ≤ b.length) : toNatBE (b.take width) < 256 ^ width := by
  have hbound := toNatLE_lt (b.take width).reverse
  rwa [List.length_reverse, List.length_take, Nat.min_eq_left h] at hbound

theorem ofNatBE_toNatBE_take (h : width ≤ b.length) :
    ofNatBE width (toNatBE (b.take width)) = b.take width := by
  have hback := ofNatBE_toNatBE (b.take width)
  rwa [List.length_take, Nat.min_eq_left h] at hback

end Bytes

/-! ## Byte strings -/

/-- What is read byte by byte was written so, if it contains no zero byte. -/
theorem eq_escapeEach_of_unescapeEach {x b : Bytes} (hzero : 0 ∉ x)
    (h : unescapeEach x = .ok b) : x = escapeEach b := by
  fun_induction unescapeEach x generalizing b with
  | case1 =>
    obtain rfl := Except.ok.inj h
    rfl
  | case2 => cases h
  | case3 y hy =>
    obtain rfl := Except.ok.inj h
    have hplain : ¬ mustEscape y = true := by
      rw [mustEscape_iff]
      rintro (rfl | rfl)
      · exact hzero List.mem_cons_self
      · exact hy rfl
    simp [escapeEach, hplain]
  | case4 next rest hnext ih =>
    obtain ⟨c, hc, rfl⟩ := Except.map_eq_ok_iff.mp h
    have hrest := ih (fun hmem => hzero (by simp [hmem])) hc
    rcases hnext with rfl | rfl <;> simp [escapeEach, mustEscape, hrest]
  | case5 => cases h
  | case6 y next rest hy ih =>
    obtain ⟨c, hc, rfl⟩ := Except.map_eq_ok_iff.mp h
    have hrest := ih (fun hmem => hzero (List.mem_cons_of_mem _ hmem)) hc
    have hplain : ¬ mustEscape y = true := by
      rw [mustEscape_iff]
      rintro (rfl | rfl)
      · exact hzero List.mem_cons_self
      · exact hy rfl
    simp [escapeEach, hplain, hrest]

/-- **Escaped byte strings**: a string without zero bytes is read exactly as the one that it was
written for. -/
theorem unescape_eq_ok_iff {x b : Bytes} (hzero : 0 ∉ x) : unescape x = .ok b ↔ x = escape b := by
  constructor
  · intro h
    rw [unescape_eq_unescapeEach] at h
    rw [escape_eq_escapeEach]
    exact eq_escapeEach_of_unescapeEach hzero h
  · rintro rfl
    exact unescape_escape b

/-! ## Values -/

/-- A number is read back from its ordered word. -/
theorem ofOrderedWord_orderedWord (n : Int64) : ofOrderedWord (orderedWord n) = n := by
  rw [ofOrderedWord, orderedWord, UInt64.xor_assoc, UInt64.xor_self, UInt64.xor_zero]
  rfl

theorem orderedWord_ofOrderedWord (w : UInt64) : orderedWord (ofOrderedWord w) = w := by
  rw [ofOrderedWord, orderedWord]
  show w ^^^ signBit ^^^ signBit = w
  rw [UInt64.xor_assoc, UInt64.xor_self, UInt64.xor_zero]

/-- The eight bytes of an integer are read as the integer. -/
theorem decodeValue_int64_eq_ok_iff {input rest : Bytes} {v : Value} :
    decodeValue .int64 input = .ok (v, rest) ↔
      ∃ n, v = .int64 n ∧ input = encodeValue (.int64 n) ++ rest := by
  simp only [decodeValue]
  split
  · next hshort =>
    constructor
    · intro h
      cases h
    · rintro ⟨n, -, rfl⟩
      rw [List.length_append, encodeValue, Bytes.length_ofNatBE] at hshort
      omega
  · next hlong =>
    have hlen : 8 ≤ input.length := Nat.le_of_not_lt hlong
    constructor
    · intro h
      obtain ⟨rfl, rfl⟩ := Prod.mk.inj (Except.ok.inj h)
      refine ⟨_, rfl, ?_⟩
      have hlt : Bytes.toNatBE (input.take 8) < UInt64.size := Bytes.toNatBE_take_lt hlen
      rw [encodeValue, orderedWord_ofOrderedWord, UInt64.toNat_ofNat_of_lt' hlt,
        Bytes.ofNatBE_toNatBE_take hlen, List.take_append_drop]
    · rintro ⟨n, rfl, rfl⟩
      have hwidth : (encodeValue (.int64 n)).length = 8 := Bytes.length_ofNatBE 8 _
      rw [List.take_left' hwidth, List.drop_left' hwidth, encodeValue,
        Bytes.toNatBE_ofNatBE_of_lt (orderedWord n).toNat_lt, UInt64.ofNat_toNat,
        ofOrderedWord_orderedWord]

/-- A string is split at its first zero byte. -/
theorem takeWhile_dropWhile_of_zero {a : Bytes} (rest : Bytes) (h : 0 ∉ a) :
    (a ++ 0 :: rest).takeWhile (· != 0) = a ∧ (a ++ 0 :: rest).dropWhile (· != 0) = 0 :: rest := by
  have hall : ∀ x ∈ a, (x != 0) = true := by
    intro x hx
    rw [bne_iff_ne]
    rintro rfl
    exact h hx
  rw [List.takeWhile_append_of_pos hall, List.dropWhile_append_of_pos hall]
  simp

/-- A byte string is read up to the zero byte that ends it. -/
theorem decodeValue_bytes_eq_ok_iff {input rest : Bytes} {v : Value} :
    decodeValue .bytes input = .ok (v, rest) ↔
      ∃ b, v = .bytes b ∧ input = encodeValue (.bytes b) ++ rest := by
  simp only [decodeValue]
  constructor
  · intro h
    have hsplit := List.takeWhile_append_dropWhile (p := fun x : UInt8 => x != 0) (l := input)
    split at h
    · cases h
    · next x tail hdrop =>
      obtain ⟨b, hb, hpair⟩ := Except.map_eq_ok_iff.mp h
      obtain ⟨rfl, rfl⟩ := Prod.mk.inj hpair
      refine ⟨b, rfl, ?_⟩
      have hzero : (0 : UInt8) ∉ input.takeWhile (· != 0) := by
        intro hmem
        have hne := List.mem_takeWhile_imp hmem
        simp at hne
      have hx : x = 0 := by
        have hnot := List.head?_dropWhile_not (fun x : UInt8 => x != 0) input
        rw [hdrop] at hnot
        simpa using hnot
      rw [(unescape_eq_ok_iff hzero).mp hb, hdrop, hx] at hsplit
      rw [encodeValue, List.append_assoc, List.singleton_append]
      exact hsplit.symm
  · rintro ⟨b, rfl, rfl⟩
    rw [encodeValue, List.append_assoc, List.singleton_append]
    obtain ⟨htake, hdrop⟩ := takeWhile_dropWhile_of_zero rest (zero_notMem_escape b)
    rw [htake, hdrop, unescape_escape]
    rfl

/-- **Values**: a value is read from exactly the inputs that start with its bytes. -/
theorem decodeValue_eq_ok_iff {type : ColumnType} {input rest : Bytes} {v : Value} :
    decodeValue type input = .ok (v, rest) ↔ v.type = type ∧ input = encodeValue v ++ rest := by
  cases type with
  | int64 =>
    rw [decodeValue_int64_eq_ok_iff]
    cases v <;> simp [Value.type]
  | bytes =>
    rw [decodeValue_bytes_eq_ok_iff]
    cases v <;> simp [Value.type]

/-! ## Tuples -/

/-- **Tuples**: reading accepts exactly the encodings of tuples of the given types. -/
theorem decodeTuple_eq_ok_iff {types : List ColumnType} {input : Bytes} {values : List Value} :
    decodeTuple types input = .ok values ↔
      values.map Value.type = types ∧ input = encodeTuple values := by
  induction types generalizing input values with
  | nil =>
    cases input with
    | nil => cases values <;> simp [decodeTuple, encodeTuple]
    | cons x input =>
      cases values <;> simp [decodeTuple, encodeTuple]
  | cons type types ih =>
    rw [decodeTuple, Except.bind_eq_ok_iff]
    constructor
    · rintro ⟨⟨v, rest⟩, hv, hrest⟩
      obtain ⟨vs, hvs, hpure⟩ := Except.bind_eq_ok_iff.mp hrest
      obtain rfl := Except.ok.inj hpure
      obtain ⟨rfl, rfl⟩ := decodeValue_eq_ok_iff.mp hv
      obtain ⟨rfl, rfl⟩ := ih.mp hvs
      exact ⟨rfl, rfl⟩
    · rintro ⟨htypes, rfl⟩
      cases values with
      | nil => cases htypes
      | cons v vs =>
        obtain ⟨htype, hrest⟩ := List.cons.inj htypes
        refine ⟨(v, encodeTuple vs), decodeValue_eq_ok_iff.mpr ⟨htype, rfl⟩, ?_⟩
        exact Except.bind_eq_ok_iff.mpr ⟨vs, ih.mpr ⟨hrest, rfl⟩, rfl⟩

/-- A tuple is read back under its types. -/
theorem decodeTuple_encodeTuple (values : List Value) :
    decodeTuple (values.map Value.type) (encodeTuple values) = .ok values :=
  decodeTuple_eq_ok_iff.mpr ⟨rfl, rfl⟩

/-- Tuples of one shape differ in their bytes. -/
theorem encodeTuple_inj {a b : List Value} (htypes : a.map Value.type = b.map Value.type)
    (h : encodeTuple a = encodeTuple b) : a = b := by
  have ha := decodeTuple_encodeTuple a
  rw [htypes, h, decodeTuple_encodeTuple b] at ha
  exact (Except.ok.inj ha).symm

/-! ## Keys -/

/-- **Keys**: reading accepts exactly the keys of the table with columns of the given types. -/
theorem decodeKey_eq_ok_iff {p : UInt32} {types : List ColumnType} {key : Bytes}
    {values : List Value} :
    decodeKey p types key = .ok values ↔
      values.map Value.type = types ∧ key = encodeKey p values := by
  have hsize : (prefixKey p).length = prefixSize := Bytes.length_ofNatBE _ _
  unfold decodeKey
  split
  · next hshort =>
    constructor
    · intro h
      cases h
    · rintro ⟨-, rfl⟩
      rw [encodeKey, List.length_append, hsize] at hshort
      omega
  · next hlong =>
    have hlen : prefixSize ≤ key.length := Nat.le_of_not_lt hlong
    have hlt : Bytes.toNatBE (key.take prefixSize) < UInt32.size := Bytes.toNatBE_take_lt hlen
    constructor
    · intro h
      simp only at h
      split at h
      · cases h
      · next hprefix =>
        obtain ⟨htypes, hdrop⟩ := decodeTuple_eq_ok_iff.mp h
        refine ⟨htypes, ?_⟩
        -- the first bytes are the prefix that is found there
        have hfound : prefixKey p = key.take prefixSize := by
          rw [← not_not.mp hprefix, prefixKey, UInt32.toNat_ofNat_of_lt' hlt,
            Bytes.ofNatBE_toNatBE_take hlen]
        rw [encodeKey, ← hdrop, hfound, List.take_append_drop]
    · rintro ⟨htypes, rfl⟩
      have hread : (encodeKey p values).take prefixSize = prefixKey p := List.take_left' hsize
      have hrest : (encodeKey p values).drop prefixSize = encodeTuple values :=
        List.drop_left' hsize
      simp only [hread, hrest]
      rw [prefixKey, Bytes.toNatBE_ofNatBE_of_lt p.toNat_lt, UInt32.ofNat_toNat,
        if_neg (not_not.mpr rfl)]
      exact decodeTuple_eq_ok_iff.mpr ⟨htypes, rfl⟩

/-! ## All together -/

/-- **Reading is exact.** Tuples, keys and escaped byte strings are read from exactly the bytes
that they are written as, and everything else is refused. A string in which nothing is to be
escaped, or that has no escape, is passed on as it is. -/
theorem codec_exact :
    (∀ (types : List ColumnType) (x : Bytes) (values : List Value),
      decodeTuple types x = .ok values ↔ values.map Value.type = types ∧ x = encodeTuple values) ∧
    (∀ (types : List ColumnType) (x : Bytes), (∃ e, decodeTuple types x = .error e) ↔
      ∀ values, values.map Value.type = types → x ≠ encodeTuple values) ∧
    (∀ (p : UInt32) (types : List ColumnType) (x : Bytes) (values : List Value),
      decodeKey p types x = .ok values ↔
        values.map Value.type = types ∧ x = encodeKey p values) ∧
    (∀ (p : UInt32) (types : List ColumnType) (x : Bytes), (∃ e, decodeKey p types x = .error e) ↔
      ∀ values, values.map Value.type = types → x ≠ encodeKey p values) ∧
    (∀ x b : Bytes, 0 ∉ x → (unescape x = .ok b ↔ x = escape b)) ∧
    (∀ x : Bytes, 0 ∉ x → ((∃ e, unescape x = .error e) ↔ ∀ b, x ≠ escape b)) ∧
    (∀ b : Bytes, 0 ∉ escape b) ∧
    (∀ b : Bytes, (∀ x ∈ b, 1 < x) → escape b = b) ∧
    (∀ b : Bytes, escapeByte ∉ b → unescape b = .ok b) := by
  refine ⟨?_, ?_, ?_, ?_, ?_, ?_, ?_, ?_, ?_⟩
  · intro types x values
    exact decodeTuple_eq_ok_iff
  · intro types x
    simp only [Except.exists_error_iff, ne_eq, decodeTuple_eq_ok_iff, not_and]
  · intro p types x values
    exact decodeKey_eq_ok_iff
  · intro p types x
    simp only [Except.exists_error_iff, ne_eq, decodeKey_eq_ok_iff, not_and]
  · intro x b hzero
    exact unescape_eq_ok_iff hzero
  · intro x hzero
    simp only [Except.exists_error_iff, ne_eq, unescape_eq_ok_iff hzero]
  · exact zero_notMem_escape
  · intro b hplain
    rw [escape_eq_escapeEach]
    apply escapeEach_of_plain
    rw [List.any_eq_false]
    intro x hx
    have hone : (1 : UInt8).toNat < x.toNat := hplain x hx
    rw [mustEscape_iff]
    rintro (rfl | rfl) <;> exact absurd hone (by decide)
  · intro b hplain
    rw [unescape_eq_unescapeEach, unescapeEach_of_plain hplain]

/-- An escape that is none, in a string without zero bytes. -/
theorem codec_exact_of_badEscape :
    (0 : UInt8) ∉ ([97, 1, 3] : Bytes) ∧ (∀ b, ([97, 1, 3] : Bytes) ≠ escape b) ∧
    decodeTuple [.bytes, .int64] (encodeTuple [.bytes [97, 0], .int64 (-1)]) =
      .ok [.bytes [97, 0], .int64 (-1)] := by
  obtain ⟨htuple, -, -, -, -, hrefused, -⟩ := codec_exact
  have hzero : (0 : UInt8) ∉ ([97, 1, 3] : Bytes) := by decide
  refine ⟨hzero, ?_, ?_⟩
  · exact (hrefused _ hzero).mp ⟨.badEscape 3, rfl⟩
  · exact (htuple _ _ _).mpr ⟨rfl, rfl⟩

end PagedTables
