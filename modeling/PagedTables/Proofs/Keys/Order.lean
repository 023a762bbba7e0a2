/-
# The order of keys

Values have an order of their own: integers by size, byte strings lexicographically, and tuples
column by column. The bytes of keys are in that order too, and the keys of two tables do not mix.

* `Bytes.compare_ofNatBE_append` : numbers of one width are ordered as their bytes;
* `compare_escapeEach_append` : so are byte strings, once they are escaped and ended;
* `compare_encodeTuple_append` : so are tuples, whatever follows them;
* `key_order` : keys of one table, of two tables, and the bounds of a table.
-/
import Mathlib
import PagedTables.Key.Tuple
import PagedTables.Proofs.Bytes

namespace PagedTables

/-! ## The order of values -/

namespace Value

/-- Integers are ordered by size and byte strings lexicographically, a proper prefix first. Where
the types differ, which never happens within a column, integers come first. -/
instance : Ord Value where
  compare
    | int64 m, int64 n => compare m.toInt n.toInt
    | bytes a, bytes b => compare a b
    | int64 _, bytes _ => .lt
    | bytes _, int64 _ => .gt

@[simp] theorem compare_int64 (m n : Int64) :
    compare (int64 m) (int64 n) = compare m.toInt n.toInt := rfl

@[simp] theorem compare_bytes (a b : Bytes) : compare (bytes a) (bytes b) = compare a b := rfl

/-- Numbers come before byte strings. -/
@[simp] theorem compare_int64_bytes (n : Int64) (b : Bytes) :
    compare (int64 n) (bytes b) = .lt := rfl

@[simp] theorem compare_bytes_int64 (b : Bytes) (n : Int64) :
    compare (bytes b) (int64 n) = .gt := rfl

instance : Std.OrientedOrd Value where
  eq_swap := by
    rintro (a | m) (b | n)
    · exact (inferInstance : Std.OrientedOrd Bytes).eq_swap
    · rfl
    · rfl
    · exact (inferInstance : Std.OrientedOrd Int).eq_swap

instance : Std.TransOrd Value where
  isLE_trans := by
    rintro (a | m) (b | n) (c | k) hab hbc
    · exact (inferInstance : Std.TransOrd Bytes).isLE_trans hab hbc
    · cases hbc
    · cases hab
    · cases hab
    · rfl
    · cases hbc
    · rfl
    · exact (inferInstance : Std.TransOrd Int).isLE_trans hab hbc

instance : Std.LawfulEqOrd Value where
  eq_of_compare := by
    rintro (a | m) (b | n) h
    · exact congrArg bytes ((inferInstance : Std.LawfulEqOrd Bytes).eq_of_compare h)
    · cases h
    · cases h
    · have hint := (inferInstance : Std.LawfulEqOrd Int).eq_of_compare h
      exact congrArg int64 (Int64.toInt_inj.mp hint)

end Value

/-! ## Numbers -/

/-- Numbers are ordered by their quotients, then by their remainders. -/
theorem compare_eq_compare_div_mod (m n d : Nat) :
    compare m n = (compare (m / d) (n / d)).then (compare (m % d) (n % d)) := by
  rcases Nat.lt_trichotomy (m / d) (n / d) with hlt | heq | hgt
  · rw [Nat.compare_eq_lt.mpr hlt, Nat.compare_eq_lt.mpr]
    · rfl
    · exact Nat.lt_of_not_le fun hle => Nat.not_le_of_lt hlt (Nat.div_le_div_right hle)
  · have hm := Nat.div_add_mod m d
    have hn := Nat.div_add_mod n d
    rw [heq] at hm
    rw [heq, Nat.compare_eq_eq.mpr rfl, Ordering.eq_then]
    -- equal quotients, so the numbers are as far apart as the remainders
    have hlt : m < n ↔ m % d < n % d := by omega
    have hgt : n < m ↔ n % d < m % d := by omega
    simp only [Nat.compare_eq_ite_lt, hlt, hgt]
  · rw [Nat.compare_eq_gt.mpr hgt, Nat.compare_eq_gt.mpr]
    · rfl
    · exact Nat.lt_of_not_le fun hle => Nat.not_le_of_lt hgt (Nat.div_le_div_right hle)

/-- The lowest byte of a number comes last. -/
theorem Bytes.ofNatBE_succ (width n : Nat) :
    ofNatBE (width + 1) n = ofNatBE width (n / 256) ++ [UInt8.ofNat n] := by
  simp [ofNatBE, ofNatLE]

/-- Numbers of one width are ordered as their bytes, most significant first. -/
theorem Bytes.compare_ofNatBE_append {width m n : Nat} (hm : m < 256 ^ width)
    (hn : n < 256 ^ width) (r s : Bytes) :
    compare (ofNatBE width m ++ r) (ofNatBE width n ++ s) =
      (compare m n).then (compare r s) := by
  induction width generalizing m n r s with
  | zero =>
    obtain rfl : m = 0 := by simpa using hm
    obtain rfl : n = 0 := by simpa using hn
    rfl
  | succ width ih =>
    have hdiv : ∀ k < 256 ^ (width + 1), k / 256 < 256 ^ width := by
      intro k hk
      exact Nat.div_lt_of_lt_mul (by rwa [Nat.pow_succ, Nat.mul_comm] at hk)
    have hbyte : compare (UInt8.ofNat m) (UInt8.ofNat n) = compare (m % 256) (n % 256) := by
      simp [UInt8.compare_eq_toNat_compare_toNat]
    simp only [ofNatBE_succ, List.append_assoc, List.singleton_append]
    rw [ih (hdiv m hm) (hdiv n hn), List.compare_cons_cons, hbyte,
      compare_eq_compare_div_mod m n 256, Ordering.then_assoc]

/-! ## Integers -/

/-- Turning the sign bit over moves the two halves of the words past each other. -/
theorem toNat_xor_signBit (w : UInt64) :
    (w ^^^ signBit).toNat = if w.toNat < 2 ^ 63 then w.toNat + 2 ^ 63 else w.toNat - 2 ^ 63 := by
  have hw := w.toNat_lt
  have hsmall : ∀ n < 2 ^ 63, n ^^^ 2 ^ 63 = n + 2 ^ 63 := by
    intro n hn
    have hor := Nat.two_pow_add_eq_or_of_lt hn 1
    rw [Nat.mul_one] at hor
    rw [Nat.xor_comm, Nat.add_comm, hor]
    apply Nat.eq_of_testBit_eq
    intro i
    rw [Nat.testBit_xor, Nat.testBit_or, Nat.testBit_two_pow]
    by_cases hi : 63 = i
    · rw [← hi, Nat.testBit_lt_two_pow hn]
      rfl
    · simp [hi]
  rw [UInt64.toNat_xor, show signBit.toNat = 2 ^ 63 from rfl]
  split
  · next hlt => exact hsmall _ hlt
  · next hge =>
    -- flipping the bit twice changes nothing
    have hback : w.toNat = (w.toNat - 2 ^ 63) ^^^ 2 ^ 63 := by
      rw [hsmall _ (by omega)]
      omega
    conv_lhs => rw [hback]
    rw [Nat.xor_assoc, Nat.xor_self, Nat.xor_zero]

/-- Flipping the sign bit moves the integers up to the natural numbers. -/
theorem toNat_orderedWord (n : Int64) : ((orderedWord n).toNat : Int) = n.toInt + 2 ^ 63 := by
  have hn := n.toUInt64.toNat_lt
  have hint : n.toInt = if 2 * n.toUInt64.toNat < 2 ^ 64 then (n.toUInt64.toNat : Int)
      else (n.toUInt64.toNat : Int) - 2 ^ 64 := BitVec.toInt_eq_toNat_cond n.toBitVec
  rw [orderedWord, toNat_xor_signBit, hint]
  split <;> split <;> omega

/-- Ordered words compare like the numbers. -/
theorem compare_orderedWord (m n : Int64) :
    compare (orderedWord m).toNat (orderedWord n).toNat = compare m.toInt n.toInt := by
  have hm := toNat_orderedWord m
  have hn := toNat_orderedWord n
  rcases Int.lt_trichotomy m.toInt n.toInt with hlt | heq | hgt
  · rw [Int.compare_eq_lt.mpr hlt, Nat.compare_eq_lt]
    omega
  · rw [heq, Int.compare_eq_eq.mpr rfl, Nat.compare_eq_eq]
    omega
  · rw [Int.compare_eq_gt.mpr hgt, Nat.compare_eq_gt]
    omega

/-! ## Byte strings -/

/-- Byte strings are ordered as their escaped forms, each ended by a zero byte. -/
theorem compare_escapeEach_append (a b r s : Bytes) :
    compare (escapeEach a ++ 0 :: r) (escapeEach b ++ 0 :: s) =
      (compare a b).then (compare r s) := by
  -- an escape is ordered as the byte that it stands for
  have hpos : ∀ x : UInt8, ¬ mustEscape x = true → 1 < x.toNat := by
    intro x hx
    rw [mustEscape_iff, ← UInt8.toNat_inj, ← UInt8.toNat_inj] at hx
    change ¬ (x.toNat = 0 ∨ x.toNat = 1) at hx
    omega
  have hlt : ∀ x y : UInt8, x.toNat < y.toNat → compare x y = .lt := by
    intro x y hxy
    rw [UInt8.compare_eq_toNat_compare_toNat]
    exact Nat.compare_eq_lt.mpr hxy
  have hgt : ∀ x y : UInt8, y.toNat < x.toNat → compare x y = .gt := by
    intro x y hxy
    rw [UInt8.compare_eq_toNat_compare_toNat]
    exact Nat.compare_eq_gt.mpr hxy
  induction a generalizing b with
  | nil =>
    cases b with
    | nil => simp [escapeEach]
    | cons y b =>
      by_cases hy : mustEscape y = true
      · simp [escapeEach, hy, hlt 0 escapeByte (by decide)]
      · simp [escapeEach, hy, hlt 0 y (Nat.lt_trans Nat.one_pos (hpos y hy))]
  | cons x a ih =>
    cases b with
    | nil =>
      by_cases hx : mustEscape x = true
      · simp [escapeEach, hx, hgt escapeByte 0 (by decide)]
      · simp [escapeEach, hx, hgt x 0 (Nat.lt_trans Nat.one_pos (hpos x hx))]
    | cons y b =>
      by_cases hx : mustEscape x = true <;> by_cases hy : mustEscape y = true
      · have hxy : compare (x + 1) (y + 1) = compare x y := by
          rcases mustEscape_iff.mp hx with rfl | rfl <;>
            rcases mustEscape_iff.mp hy with rfl | rfl <;> rfl
        simp [escapeEach, hx, hy, hxy, ih, Ordering.then_assoc]
      · have hx1 : x.toNat ≤ 1 := by
          rcases mustEscape_iff.mp hx with rfl | rfl <;> decide
        have hy1 := hpos y hy
        simp [escapeEach, hx, hy, hlt escapeByte y hy1,
          hlt x y (by omega)]
      · have hy1 : y.toNat ≤ 1 := by
          rcases mustEscape_iff.mp hy with rfl | rfl <;> decide
        have hx1 := hpos x hx
        simp [escapeEach, hx, hy, hgt x escapeByte hx1,
          hgt x y (by omega)]
      · simp [escapeEach, hx, hy, ih, Ordering.then_assoc]

/-! ## Tuples -/

theorem encodeTuple_cons (v : Value) (values : List Value) :
    encodeTuple (v :: values) = encodeValue v ++ encodeTuple values := rfl

/-- Values of one type are ordered as their bytes, whatever follows these. -/
theorem compare_encodeValue_append {v w : Value} (h : v.type = w.type) (r s : Bytes) :
    compare (encodeValue v ++ r) (encodeValue w ++ s) = (compare v w).then (compare r s) := by
  cases v with
  | bytes a =>
    cases w with
    | bytes b =>
      simp only [encodeValue, escape_eq_escapeEach, List.append_assoc, List.singleton_append]
      exact compare_escapeEach_append a b r s
    | int64 n => cases h
  | int64 m =>
    cases w with
    | bytes b => cases h
    | int64 n =>
      rw [Value.compare_int64, ← compare_orderedWord]
      exact Bytes.compare_ofNatBE_append (orderedWord m).toNat_lt (orderedWord n).toNat_lt r s

/-- Tuples of one shape are ordered as their bytes, whatever follows these. -/
theorem compare_encodeTuple_append {a b : List Value} (h : a.map Value.type = b.map Value.type)
    (r s : Bytes) :
    compare (encodeTuple a ++ r) (encodeTuple b ++ s) = (compare a b).then (compare r s) := by
  induction a generalizing b with
  | nil =>
    obtain rfl : b = [] := by simpa using h.symm
    rfl
  | cons v a ih =>
    cases b with
    | nil => cases h
    | cons w b =>
      obtain ⟨hhead, htail⟩ := List.cons.inj h
      rw [encodeTuple_cons, encodeTuple_cons, List.append_assoc, List.append_assoc,
        compare_encodeValue_append hhead, ih htail, List.compare_cons_cons, Ordering.then_assoc]

/-- Encoded tuples of the same types compare like the tuples. -/
theorem compare_encodeTuple {a b : List Value} (h : a.map Value.type = b.map Value.type) :
    compare (encodeTuple a) (encodeTuple b) = compare a b := by
  have happend := compare_encodeTuple_append h [] []
  rwa [List.append_nil, List.append_nil, List.compare_nil_nil, Ordering.then_eq] at happend

/-! ## Keys -/

/-- Prefixes are ordered as their bytes. -/
theorem compare_prefixKey_append (p q : UInt32) (r s : Bytes) :
    compare (prefixKey p ++ r) (prefixKey q ++ s) =
      (compare p.toNat q.toNat).then (compare r s) :=
  Bytes.compare_ofNatBE_append p.toNat_lt q.toNat_lt r s

/-- A prefix starts the keys of its own table, and no others. -/
theorem prefixKey_isPrefix_iff {p q : UInt32} {r : Bytes} :
    prefixKey p <+: prefixKey q ++ r ↔ p = q := by
  constructor
  · rintro ⟨s, h⟩
    have hcompare := compare_prefixKey_append p q s r
    have hself : compare (prefixKey q ++ r) (prefixKey q ++ r) = .eq := Std.ReflCmp.compare_self
    rw [h, hself] at hcompare
    exact UInt32.toNat_inj.mp (Nat.compare_eq_eq.mp (Ordering.then_eq_eq.mp hcompare.symm).1)
  · rintro rfl
    exact List.prefix_append _ _

/-- Keys of one table are ordered as the tuples of their columns. -/
theorem compare_encodeKey (p : UInt32) {a b : List Value}
    (h : a.map Value.type = b.map Value.type) :
    compare (encodeKey p a) (encodeKey p b) = compare a b := by
  rw [encodeKey, encodeKey, compare_prefixKey_append, Nat.compare_eq_eq.mpr rfl,
    Ordering.eq_then, compare_encodeTuple h]

/-- Every key of a table lies below all keys of a table with a greater prefix. -/
theorem compare_encodeKey_of_lt {p q : UInt32} (h : p < q) (a b : List Value) :
    compare (encodeKey p a) (encodeKey q b) = .lt := by
  have hlt : compare p.toNat q.toNat = .lt := Nat.compare_eq_lt.mpr h
  rw [encodeKey, encodeKey, compare_prefixKey_append, hlt, Ordering.lt_then]

/-- The bare prefix is no greater than the keys of its table. -/
theorem isLE_compare_prefixKey (p : UInt32) (a : List Value) :
    (compare (prefixKey p) (encodeKey p a)).isLE = true := by
  have hcompare := compare_prefixKey_append p p [] (encodeTuple a)
  rw [List.append_nil, Nat.compare_eq_eq.mpr rfl, Ordering.eq_then] at hcompare
  rw [encodeKey, hcompare]
  cases encodeTuple a <;> rfl

/-- The next prefix is larger by one, unless there is none. -/
theorem toNat_succ {p : UInt32} (h : p.toNat + 1 < UInt32.size) : (p + 1).toNat = p.toNat + 1 := by
  rw [UInt32.toNat_add]
  exact Nat.mod_eq_of_lt h

/-- The prefix after its own is greater than every key of a table. -/
theorem compare_encodeKey_prefixKey_succ {p : UInt32} (h : p.toNat + 1 < UInt32.size)
    (a : List Value) : compare (encodeKey p a) (prefixKey (p + 1)) = .lt := by
  have hcompare := compare_prefixKey_append p (p + 1) (encodeTuple a) []
  rw [List.append_nil, toNat_succ h, Nat.compare_eq_lt.mpr (Nat.lt_succ_self _)] at hcompare
  rw [encodeKey, hcompare]
  rfl

/-- **The order of keys.** Keys of one table are ordered as the tuples of their columns, all keys
of a table lie below those of a table with a greater prefix, and they lie between the prefix of
the table and the next one. -/
theorem key_order :
    (∀ (types : List ColumnType) (p : UInt32) (a b : List Value),
      a.map Value.type = types → b.map Value.type = types →
        compare (encodeKey p a) (encodeKey p b) = compare a b) ∧
    (∀ (p q : UInt32) (a b : List Value), p < q →
      compare (encodeKey p a) (encodeKey q b) = .lt) ∧
    (∀ (p : UInt32) (a : List Value), (compare (prefixKey p) (encodeKey p a)).isLE = true) ∧
    (∀ (p : UInt32) (a : List Value), p.toNat + 1 < UInt32.size →
      compare (encodeKey p a) (prefixKey (p + 1)) = .lt) := by
  refine ⟨?_, ?_, ?_, ?_⟩
  · intro types p a b ha hb
    exact compare_encodeKey p (ha.trans hb.symm)
  · intro p q a b hlt
    exact compare_encodeKey_of_lt hlt a b
  · intro p a
    exact isLE_compare_prefixKey p a
  · intro p a hnext
    exact compare_encodeKey_prefixKey_succ hnext a

/-- Keys that share a negative integer and the start of a byte string which must be escaped. -/
theorem key_order_of_shared_start :
    compare (encodeKey 7 [.int64 (-1), .bytes [0]]) (encodeKey 7 [.int64 (-1), .bytes [0, 1]]) =
      .lt ∧
    compare (encodeKey 7 [.int64 (-1), .bytes [0, 1]]) (encodeKey 8 []) = .lt ∧
    compare (encodeKey 7 [.int64 (-1), .bytes [0, 1]]) (prefixKey 8) = .lt := by
  obtain ⟨hsame, hless, -, hbelow⟩ := key_order
  refine ⟨?_, ?_, ?_⟩
  · rw [hsame [.int64, .bytes] 7 _ _ rfl rfl]
    decide
  · exact hless 7 8 _ _ (by decide)
  · exact hbelow 7 _ (by decide)

end PagedTables
