/-
# JSON is read back

What is written without blanks is read back as it was, whatever bytes its strings have, as long as
its numbers are natural numbers that fit a 64-bit word.

* `Json.readString_escaped` : strings of any bytes;
* `Json.readNumber_decimal` : natural numbers;
* `Json.readValue_compact` : values in front of anything that does not continue a number;
* `Json.parse_compact` : whole texts;
* `Json.fields?_record` : the fields of an object.
-/
import Mathlib
import PagedTables.Json.Forms
import PagedTables.Proofs.Action

namespace PagedTables

/-! ## Texts of plain characters -/

namespace Bytes

/-- A text of characters that take one byte each. -/
theorem ofText_ofList {l : List Char} (h : ∀ c ∈ l, c.toNat < 128) :
    ofText (String.ofList l) = l.map fun c => UInt8.ofNat c.toNat := by
  have hchar : ∀ c : Char, c.toNat < 128 →
      String.utf8EncodeChar c = [UInt8.ofNat c.toNat] := by
    intro c hc
    have hle : c.val.toNat ≤ 127 := Nat.le_of_lt_succ hc
    rw [String.utf8EncodeChar.eq_1, if_pos hle]
    rfl
  have hflat : l.flatMap String.utf8EncodeChar = l.map fun c => UInt8.ofNat c.toNat := by
    induction l with
    | nil => rfl
    | cons c l ih =>
      rw [List.flatMap_cons, List.map_cons, hchar c (h c List.mem_cons_self),
        ih fun d hd => h d (List.mem_cons_of_mem _ hd)]
      rfl
  rw [← hflat]
  simp [ofText, List.utf8Encode]

/-- A text is found in its encoding. -/
theorem toText?_ofText (s : String) : toText? (ofText s) = some s := by
  have hbytes : (ofText s).toByteArray = s.toByteArray := by
    apply ByteArray.ext
    rw [ofText, List.data_toByteArray, Array.toArray_toList]
  rw [toText?, hbytes, String.fromUTF8?, dif_pos s.isValidUTF8]
  rfl

/-- Different texts have different bytes. -/
theorem ofText_inj {s t : String} (h : ofText s = ofText t) : s = t := by
  have htext := toText?_ofText s
  rw [h, toText?_ofText] at htext
  exact (Option.some.inj htext).symm

/-- A text is read back from its bytes without loss. -/
theorem toTextLossy_ofText (s : String) : toTextLossy (ofText s) = s := by
  rw [toTextLossy, toText?_ofText]
  rfl

end Bytes

namespace Hex

theorem toNat_digitChar_lt {n : Nat} (h : n < 16) : (Nat.digitChar n).toNat < 128 := by
  revert n
  decide

/-- A digit is read back from its byte. -/
theorem digit?_digitChar {n : Nat} (h : n < 16) :
    digit? (Char.ofNat (UInt8.ofNat (Nat.digitChar n).toNat).toNat) = some n := by
  revert n
  decide

end Hex

namespace Json

/-! ## Strings -/

section Strings

variable {b : UInt8} {s : Bytes}

/-- A short escape is undone. -/
theorem readEscape_of_shortEscape {c : UInt8} (h : shortEscape? b = some c) :
    readEscape (c :: s) = .ok ([b], s) := by
  unfold shortEscape? at h
  split_ifs at h
  all_goals
    cases h
    subst_vars
    rfl

/-- A control character is written by its number. -/
theorem escapedByte_of_control (hshort : shortEscape? b = none) (h : b < 0x20) :
    escapedByte b = 0x5c :: 0x75 :: 0x30 :: 0x30 ::
      (Hex.digits [b]).map fun c => UInt8.ofNat c.toNat := by
  have hdigits : ∀ c ∈ Hex.digits [b], c.toNat < 128 := by
    have hb := b.toNat_lt
    simp only [Hex.digits, List.mem_cons, List.not_mem_nil, or_false, forall_eq_or_imp, forall_eq]
    exact ⟨Hex.toNat_digitChar_lt (by omega), Hex.toNat_digitChar_lt (by omega)⟩
  rw [escapedByte, hshort]
  simp only
  rw [if_pos h, Hex.text, Bytes.ofText_ofList hdigits]
  rfl

/-- The number of a control character is read. -/
theorem readCodeUnit_of_control (b : UInt8) :
    readCodeUnit (0x30 :: 0x30 :: ((Hex.digits [b]).map (fun c => UInt8.ofNat c.toNat) ++ s)) =
      .ok (b.toNat, s) := by
  have hb := b.toNat_lt
  have hzero : Hex.digit? (Char.ofNat (0x30 : UInt8).toNat) = some 0 := rfl
  have hhigh := Hex.digit?_digitChar (n := b.toNat / 16) (by omega)
  have hlow := Hex.digit?_digitChar (n := b.toNat % 16) (by omega)
  have hvalue : ((0 * 16 + 0) * 16 + b.toNat / 16) * 16 + b.toNat % 16 = b.toNat := by omega
  simp only [readCodeUnit, Hex.digits, List.map_cons, List.map_nil, List.cons_append,
    List.nil_append, List.take_succ_cons, List.take_zero, List.mapM_cons, List.mapM_nil, hzero,
    hhigh, hlow, Option.pure_def, Option.bind_eq_bind, Option.bind_some, List.drop_succ_cons,
    List.drop_zero, hvalue]

/-- A control character is read back from its number. -/
theorem readEscape_of_control (h : b < 0x20) :
    readEscape (0x75 :: 0x30 :: 0x30 ::
      ((Hex.digits [b]).map (fun c => UInt8.ofNat c.toNat) ++ s)) = .ok ([b], s) := by
  have hb : b.toNat < 32 := UInt8.lt_iff_toNat_lt.mp h
  rw [readEscape, readCodeUnit_of_control, Action.except_ok_bind]
  simp only
  rw [if_neg (by omega), codePointBytes, if_pos (by omega), UInt8.ofNat_toNat]
  rfl

/-- A byte of a string literal is read back. -/
theorem readString_escapedByte (b : UInt8) (fuel : Nat) :
    readString (fuel + 1) (escapedByte b ++ s) =
      (readString fuel s).map fun (more, rest) => (b :: more, rest) := by
  have hescape : ∀ {t : Bytes}, readEscape (t ++ s) = .ok ([b], s) →
      readString (fuel + 1) (0x5c :: t ++ s) =
        (readString fuel s).map fun (more, rest) => (b :: more, rest) := by
    intro t ht
    rw [List.cons_append, readString, if_neg (by decide), if_pos rfl, ht, Action.except_ok_bind]
    simp only [List.singleton_append]
    cases readString fuel s <;> rfl
  cases hshort : shortEscape? b with
  | some c =>
    have hb : escapedByte b = [0x5c, c] := by rw [escapedByte, hshort]
    rw [hb]
    exact hescape (readEscape_of_shortEscape hshort)
  | none =>
    by_cases hcontrol : b < 0x20
    · rw [escapedByte_of_control hshort hcontrol]
      exact hescape (readEscape_of_control hcontrol)
    · have hb : escapedByte b = [b] := by
        rw [escapedByte, hshort]
        exact if_neg hcontrol
      have hplain : b ≠ 0x22 ∧ b ≠ 0x5c := by
        constructor
        · rintro rfl
          cases hshort
        · rintro rfl
          cases hshort
      rw [hb, List.singleton_append, readString, if_neg hplain.1, if_neg hplain.2,
        if_neg hcontrol]
      cases readString fuel s <;> rfl

/-- **A string** of any bytes is read back up to its closing quote. -/
theorem readString_escaped (t : Bytes) {fuel : Nat} (hfuel : t.length < fuel) :
    readString fuel (t.flatMap escapedByte ++ 0x22 :: s) = .ok (t, s) := by
  induction t generalizing fuel with
  | nil =>
    obtain ⟨fuel, rfl⟩ := Nat.exists_eq_succ_of_ne_zero (Nat.ne_of_gt hfuel)
    rfl
  | cons b t ih =>
    obtain ⟨fuel, rfl⟩ := Nat.exists_eq_succ_of_ne_zero (Nat.ne_of_gt (Nat.zero_lt_of_lt hfuel))
    rw [List.flatMap_cons, List.append_assoc, readString_escapedByte,
      ih (Nat.lt_of_succ_lt_succ hfuel)]
    rfl

/-- Escaping never makes a string shorter. -/
theorem length_le_flatMap_escapedByte (t : Bytes) :
    t.length ≤ (t.flatMap escapedByte).length := by
  have hpos : ∀ b : UInt8, 1 ≤ (escapedByte b).length := by
    intro b
    unfold escapedByte
    split
    · exact Nat.le_add_left 1 1
    · split
      · rw [List.length_append]
        exact Nat.le_add_right_of_le (by decide)
      · exact Nat.le_refl 1
  induction t with
  | nil => exact Nat.le_refl 0
  | cons b t ih =>
    have hb := hpos b
    rw [List.flatMap_cons, List.length_append, List.length_cons]
    omega

end Strings

/-! ## Numbers -/

section Numbers

/-- What follows does not continue a number. -/
def EndsNumber (s : Bytes) : Prop :=
  ∀ b ∈ s.head?, isDigit b = false ∧ b ≠ 0x2e ∧ b ≠ 0x65 ∧ b ≠ 0x45

theorem ne_of_isDigit {b c : UInt8} (hb : isDigit b = true) (hc : isDigit c = false) : b ≠ c := by
  rintro rfl
  rw [hb] at hc
  cases hc

theorem isBlank_of_isDigit {b : UInt8} (hb : isDigit b = true) : isBlank b = false := by
  simp only [isBlank, Bool.or_eq_false_iff, beq_eq_false_iff_ne]
  exact ⟨⟨⟨ne_of_isDigit hb rfl, ne_of_isDigit hb rfl⟩, ne_of_isDigit hb rfl⟩,
    ne_of_isDigit hb rfl⟩

/-- A natural number in decimal. -/
def decimal (n : Nat) : Bytes :=
  Bytes.ofText (toString n)

variable {s : Bytes} {n : Nat}

/-- A number is spelled with its digits in base ten. -/
theorem decimal_eq (n : Nat) :
    decimal n = (Nat.toDigits 10 n).map fun c => UInt8.ofNat c.toNat := by
  rw [decimal, Nat.toString_eq_ofList_toDigits, Bytes.ofText_ofList]
  intro c hc
  have hdigit := Nat.isDigit_of_mem_toDigits (by decide) (by decide) hc
  rw [Char.isDigit, Bool.and_eq_true, decide_eq_true_eq, decide_eq_true_eq] at hdigit
  exact Nat.lt_of_le_of_lt (UInt32.le_iff_toNat_le.mp hdigit.2) (by decide)

theorem decimal_of_lt (h : n < 10) : decimal n = [UInt8.ofNat (0x30 + n)] := by
  revert n
  decide

/-- The last digit is split off. -/
theorem decimal_of_le (h : 10 ≤ n) :
    decimal n = decimal (n / 10) ++ [UInt8.ofNat (0x30 + n % 10)] := by
  have hlast : Nat.toDigits 10 (n % 10) = [(n % 10).digitChar] :=
    Nat.toDigits_of_lt_base (Nat.mod_lt n (by decide))
  rw [← decimal_of_lt (Nat.mod_lt n (by decide)), decimal_eq, decimal_eq, decimal_eq, hlast,
    Nat.toDigits_of_base_le (by decide) h, List.map_append]

/-- The cases of a decimal: a single digit, or some digits and one more. -/
theorem decimal_induction {p : Nat → Bytes → Prop}
    (hsingle : ∀ n < 10, p n [UInt8.ofNat (0x30 + n)])
    (hmore : ∀ n d, 0 < n → d < 10 → p n (decimal n) →
      p (10 * n + d) (decimal n ++ [UInt8.ofNat (0x30 + d)])) (n : Nat) : p n (decimal n) := by
  induction n using Nat.strong_induction_on with
  | _ n ih =>
    rcases Nat.lt_or_ge n 10 with hlt | hge
    · rw [decimal_of_lt hlt]
      exact hsingle n hlt
    · have hn : 10 * (n / 10) + n % 10 = n := Nat.div_add_mod n 10
      rw [decimal_of_le hge]
      have hnext := hmore (n / 10) (n % 10) (by omega) (by omega) (ih (n / 10) (by omega))
      rwa [hn] at hnext

theorem isDigit_digit {d : Nat} (h : d < 10) : isDigit (UInt8.ofNat (0x30 + d)) = true := by
  revert d
  decide

/-- A number is spelled with digits only. -/
theorem isDigit_of_mem_decimal : ∀ b ∈ decimal n, isDigit b = true := by
  refine decimal_induction (p := fun _ digits => ∀ b ∈ digits, isDigit b = true) ?_ ?_ n
  · intro n hn b hb
    rw [List.mem_singleton.mp hb]
    exact isDigit_digit hn
  · intro n d _ hd ih b hb
    rcases List.mem_append.mp hb with hb | hb
    · exact ih b hb
    · rw [List.mem_singleton.mp hb]
      exact isDigit_digit hd

/-- A number is read back from its digits. -/
theorem digitsValue_decimal (n : Nat) : digitsValue (decimal n) = n := by
  have hdigit : ∀ d < 10, (UInt8.ofNat (0x30 + d)).toNat - 0x30 = d := by decide
  refine decimal_induction (p := fun n digits => digitsValue digits = n) ?_ ?_ n
  · intro n hn
    rw [digitsValue, List.foldl_cons, List.foldl_nil, hdigit n hn, Nat.mul_zero, Nat.zero_add]
  · intro n d _ hd ih
    rw [digitsValue] at ih ⊢
    rw [List.foldl_append, ih, List.foldl_cons, List.foldl_nil, hdigit d hd]

theorem decimal_ne_nil (n : Nat) : decimal n ≠ [] :=
  decimal_induction (p := fun _ digits => digits ≠ []) (fun _ _ => List.cons_ne_nil _ _)
    (fun _ _ _ _ _ => List.concat_ne_nil _ _) n

/-- A decimal does not start with a superfluous zero. -/
theorem head?_decimal_ne (h : 0 < n) : (decimal n).head? ≠ some 0x30 := by
  have hdigit : ∀ d < 10, 0 < d → UInt8.ofNat (0x30 + d) ≠ 0x30 := by decide
  revert h
  refine decimal_induction (p := fun n digits => 0 < n → digits.head? ≠ some 0x30) ?_ ?_ n
  · intro n hn hpos heq
    exact hdigit n hn hpos (Option.some.inj heq)
  · intro n d hn _ ih _
    rw [List.head?_append_of_ne_nil _ (decimal_ne_nil n)]
    exact ih hn

/-- A decimal is read up to its end. -/
theorem readWhole_decimal (hs : EndsNumber s) :
    readWhole (decimal n ++ s) = .ok (decimal n, s) := by
  have hstop : s.takeWhile isDigit = [] ∧ s.dropWhile isDigit = s := by
    cases s with
    | nil => exact ⟨rfl, rfl⟩
    | cons b s =>
      have hb := (hs b rfl).1
      simp [hb]
  have hread : readDigits (decimal n ++ s) = .ok (decimal n, s) := by
    rw [readDigits, List.takeWhile_append_of_pos isDigit_of_mem_decimal,
      List.dropWhile_append_of_pos isDigit_of_mem_decimal, hstop.1, hstop.2, List.append_nil]
    exact if_neg (by simpa using decimal_ne_nil n)
  rw [readWhole, hread, Action.except_ok_bind]
  refine if_neg ?_
  rintro ⟨hlength, hhead⟩
  rcases Nat.eq_zero_or_pos n with rfl | hpos
  · exact absurd hlength (by decide)
  · exact head?_decimal_ne hpos hhead

/-- **A natural number** is read back. -/
theorem readNumber_decimal (hs : EndsNumber s) :
    readNumber (decimal n ++ s) = .ok (.integer n, s) := by
  have hfraction : readFraction s = .ok (none, s) := by
    cases s with
    | nil => rfl
    | cons b s =>
      have hb := (hs b rfl).2.1
      unfold readFraction
      split
      · next heq =>
        obtain ⟨rfl, -⟩ := List.cons.inj heq
        exact absurd rfl hb
      · rfl
  have hexponent : readExponent s = .ok (none, s) := by
    cases s with
    | nil => rfl
    | cons b s =>
      obtain ⟨-, -, hlower, hupper⟩ := hs b rfl
      unfold readExponent
      exact if_neg (not_or.mpr ⟨hlower, hupper⟩)
  have hunsigned : readUnsigned false (decimal n ++ s) = .ok (.integer n, s) := by
    rw [readUnsigned, readWhole_decimal hs, Action.except_ok_bind]
    simp only [hfraction, Action.except_ok_bind, hexponent, digitsValue_decimal]
    rfl
  -- a digit is no sign
  unfold readNumber
  split
  · next heq =>
    have hsign : (0x2d : UInt8) ∈ decimal n := by
      cases hd : decimal n with
      | nil => exact absurd hd (decimal_ne_nil n)
      | cons b rest =>
        rw [hd, List.cons_append] at heq
        obtain ⟨rfl, -⟩ := List.cons.inj heq
        exact List.mem_cons_self
    exact absurd (isDigit_of_mem_decimal _ hsign) (by decide)
  · exact hunsigned

end Numbers

/-! ## Values -/

mutual

/-- All numbers are natural numbers that fit a 64-bit word. -/
def Whole : Json → Prop
  | number n => ∃ k : Nat, n = .integer k ∧ k ≤ maxWord64
  | array items => WholeItems items
  | object fields => WholeFields fields
  | null | bool _ | string _ => True

/-- So are those in all items. -/
def WholeItems : List Json → Prop
  | [] => True
  | item :: rest => Whole item ∧ WholeItems rest

/-- So are those in all fields. -/
def WholeFields : List (Bytes × Json) → Prop
  | [] => True
  | (_, value) :: rest => Whole value ∧ WholeFields rest

end

/-- A number ends before every byte that is no digit, point or exponent. -/
theorem endsNumber_cons {b : UInt8} (s : Bytes) (h : isDigit b = false)
    (hb : b ≠ 0x2e ∧ b ≠ 0x65 ∧ b ≠ 0x45) : EndsNumber (b :: s) := by
  rintro _ ⟨⟩
  exact ⟨h, hb⟩

/-- A number that fits a word is written in decimal. -/
theorem compact_number {k : Nat} (h : k ≤ maxWord64) :
    compact (number (.integer k)) = decimal k := by
  have hsize : k < UInt64.size := Nat.lt_of_le_pred (by decide) h
  have hmin : Int64.minValue.toInt ≤ (k : Int) :=
    Int.le_trans (by decide : Int64.minValue.toInt ≤ 0) (Int.natCast_nonneg k)
  rw [compact, numberText, if_pos ⟨hmin, Int.ofNat_lt.mpr hsize⟩]
  rfl

/-- Nothing is skipped before a byte that is not blank. -/
theorem skipBlanks_cons {b : UInt8} (s : Bytes) (h : isBlank b = false) :
    skipBlanks (b :: s) = b :: s := by
  rw [skipBlanks, List.dropWhile_cons, if_neg (by rw [h]; decide)]

/-- A value starts with a byte that is no blank and closes no array. -/
theorem exists_cons_compact {j : Json} (hj : j.Whole) :
    ∃ b t, compact j = b :: t ∧ isBlank b = false ∧ b ≠ 0x5d := by
  cases j with
  | null => exact ⟨_, _, rfl, rfl, by decide⟩
  | bool b => cases b <;> exact ⟨_, _, rfl, rfl, by decide⟩
  | string t => exact ⟨_, _, rfl, rfl, by decide⟩
  | array items => exact ⟨_, _, rfl, rfl, by decide⟩
  | object fields => exact ⟨_, _, rfl, rfl, by decide⟩
  | number n =>
    obtain ⟨k, rfl, hk⟩ := hj
    rw [compact_number hk]
    cases hd : decimal k with
    | nil => exact absurd hd (decimal_ne_nil k)
    | cons b t =>
      have hb : isDigit b = true := isDigit_of_mem_decimal b (by rw [hd]; exact List.mem_cons_self)
      exact ⟨b, t, rfl, isBlank_of_isDigit hb, ne_of_isDigit hb rfl⟩

variable {fuel : Nat} {s : Bytes}

theorem readValue_null : readValue (fuel + 1) (compact null ++ s) = .ok (null, s) := rfl

theorem readValue_bool (b : Bool) :
    readValue (fuel + 1) (compact (bool b) ++ s) = .ok (bool b, s) := by
  cases b <;> rfl

theorem readValue_string (t : Bytes) :
    readValue (fuel + 1) (compact (string t) ++ s) = .ok (string t, s) := by
  have hfuel : t.length < (t.flatMap escapedByte ++ 0x22 :: s).length := by
    have hlength := length_le_flatMap_escapedByte t
    rw [List.length_append, List.length_cons]
    omega
  have hcompact : compact (string t) ++ s = 0x22 :: (t.flatMap escapedByte ++ 0x22 :: s) := by
    rw [compact, literal, List.append_assoc]
    rfl
  have hread := readString_escaped (s := s) t hfuel
  rw [hcompact, readValue, skipBlanks_cons _ rfl]
  simp only
  rw [if_neg (by decide), if_neg (by decide), if_neg (by decide), if_pos trivial, hread]
  rfl

/-- A number is read by its digits. -/
theorem readValue_number {k : Nat} (hk : k ≤ maxWord64) (hs : EndsNumber s) :
    readValue (fuel + 1) (compact (number (.integer k)) ++ s) =
      .ok (number (.integer k), s) := by
  have hread := readNumber_decimal (n := k) hs
  have hmem : ∀ b ∈ decimal k, isDigit b = true := isDigit_of_mem_decimal
  rw [compact_number hk]
  cases hd : decimal k with
  | nil => exact absurd hd (decimal_ne_nil k)
  | cons b t =>
    rw [hd] at hread hmem
    have hb := hmem b List.mem_cons_self
    rw [List.cons_append] at hread ⊢
    rw [readValue, skipBlanks_cons _ (isBlank_of_isDigit hb)]
    simp only
    rw [if_neg (ne_of_isDigit hb rfl), if_neg (ne_of_isDigit hb rfl),
      if_neg (ne_of_isDigit hb rfl), if_neg (ne_of_isDigit hb rfl),
      if_neg (ne_of_isDigit hb rfl), if_neg (ne_of_isDigit hb rfl), if_pos (.inr hb), hread]
    rfl

/-! ## Arrays and objects -/

theorem compactItems_cons (item : Json) {rest : List Json} (h : rest ≠ []) :
    compactItems (item :: rest) = compact item ++ 0x2c :: compactItems rest := by
  cases rest with
  | nil => exact absurd rfl h
  | cons second rest =>
    rw [compactItems]
    exact h

theorem compactFields_cons (name : Bytes) (value : Json) {rest : List (Bytes × Json)}
    (h : rest ≠ []) : compactFields ((name, value) :: rest) =
      literal name ++ 0x3a :: compact value ++ 0x2c :: compactFields rest := by
  cases rest with
  | nil => exact absurd rfl h
  | cons second rest =>
    rw [compactFields]
    exact h

/-- Items follow an opening bracket. -/
theorem readValue_array {items : List Json} (hne : items ≠ []) (hitems : WholeItems items)
    (h : readItems fuel (compactItems items ++ 0x5d :: s) = .ok (items, s)) :
    readValue (fuel + 1) (compact (array items) ++ s) = .ok (array items, s) := by
  -- the first byte of the first item opens no other array
  obtain ⟨b, t, hb, hblank, hclose⟩ : ∃ b t, compactItems items ++ 0x5d :: s = b :: t ∧
      isBlank b = false ∧ b ≠ 0x5d := by
    match items, hne, hitems with
    | [item], _, hitems =>
      obtain ⟨b, t, hb, hfirst⟩ := exists_cons_compact hitems.1
      rw [compactItems, hb]
      exact ⟨b, _, rfl, hfirst⟩
    | item :: second :: rest, _, hitems =>
      obtain ⟨b, t, hb, hfirst⟩ := exists_cons_compact hitems.1
      rw [compactItems_cons item (List.cons_ne_nil _ _), hb]
      exact ⟨b, _, rfl, hfirst⟩
  have hcompact : compact (array items) ++ s = 0x5b :: (compactItems items ++ 0x5d :: s) := by
    rw [compact, List.cons_append, List.cons_append, List.append_assoc]
    rfl
  rw [hcompact, readValue, skipBlanks_cons _ rfl]
  simp only
  rw [if_neg (by decide), if_neg (by decide), if_neg (by decide), if_neg (by decide),
    if_pos trivial, hb, skipBlanks_cons t hblank]
  rw [hb] at h
  split
  · next heq =>
    obtain ⟨rfl, -⟩ := List.cons.inj heq
    exact absurd rfl hclose
  · rw [h]
    rfl

/-- Fields follow an opening brace. -/
theorem readValue_object {fields : List (Bytes × Json)} (hne : fields ≠ [])
    (h : readFields fuel (compactFields fields ++ 0x7d :: s) = .ok (fields, s)) :
    readValue (fuel + 1) (compact (object fields) ++ s) = .ok (object fields, s) := by
  obtain ⟨t, ht⟩ : ∃ t, compactFields fields ++ 0x7d :: s = 0x22 :: t := by
    match fields, hne with
    | [field], _ => exact ⟨_, rfl⟩
    | field :: second :: rest, _ =>
      rw [compactFields_cons _ _ (List.cons_ne_nil _ _)]
      exact ⟨_, rfl⟩
  have hcompact : compact (object fields) ++ s = 0x7b :: (compactFields fields ++ 0x7d :: s) := by
    rw [compact, List.cons_append, List.cons_append, List.append_assoc]
    rfl
  rw [hcompact, readValue, skipBlanks_cons _ rfl]
  simp only
  rw [if_neg (by decide), if_neg (by decide), if_neg (by decide), if_neg (by decide),
    if_neg (by decide), if_pos trivial, ht, skipBlanks_cons t rfl]
  rw [ht] at h
  split
  · next heq => cases heq
  · rw [h]
    rfl

/-- A field ends at a comma or at the closing brace. -/
theorem readFields_field (name : Bytes) {value : Json} {b : UInt8} {t : Bytes}
    (hblank : isBlank b = false)
    (h : readValue fuel (compact value ++ b :: t) = .ok (value, b :: t)) :
    readFields (fuel + 1) (literal name ++ 0x3a :: compact value ++ b :: t) =
      if b = 0x7d then .ok ([(name, value)], t)
      else if b = 0x2c then
        (readFields fuel t).map fun (more, rest) => ((name, value) :: more, rest)
      else fail .unexpectedByte (b :: t) := by
  have hfuel : name.length <
      (name.flatMap escapedByte ++ 0x22 :: 0x3a :: (compact value ++ b :: t)).length := by
    have hlength := length_le_flatMap_escapedByte name
    rw [List.length_append, List.length_cons]
    omega
  have hname := readString_escaped (s := 0x3a :: (compact value ++ b :: t)) name hfuel
  have hsource : literal name ++ 0x3a :: compact value ++ b :: t =
      0x22 :: (name.flatMap escapedByte ++ 0x22 :: 0x3a :: (compact value ++ b :: t)) := by
    rw [literal, List.append_assoc, List.append_assoc]
    rfl
  rw [hsource, readFields, skipBlanks_cons _ rfl]
  simp only
  rw [hname, Action.except_ok_bind]
  simp only
  rw [skipBlanks_cons _ rfl]
  simp only
  rw [h, Action.except_ok_bind]
  simp only
  rw [skipBlanks_cons t hblank]
  simp only
  split_ifs
  · rfl
  · cases readFields fuel t <;> rfl
  · rfl

mutual

/-- **A value** is read back in front of anything that does not continue a number. -/
theorem readValue_compact (j : Json) (hj : j.Whole) (fuel : Nat) (s : Bytes)
    (hfuel : 2 * (compact j).length ≤ fuel) (hs : EndsNumber s) :
    readValue fuel (compact j ++ s) = .ok (j, s) := by
  obtain ⟨b, t, hb, -⟩ := exists_cons_compact hj
  have hlength : 0 < (compact j).length := by
    rw [hb]
    exact Nat.succ_pos _
  obtain ⟨fuel, rfl⟩ := Nat.exists_eq_succ_of_ne_zero (n := fuel) (by omega)
  cases j with
  | null => exact readValue_null
  | bool b => exact readValue_bool b
  | string t => exact readValue_string t
  | number n =>
    obtain ⟨k, rfl, hk⟩ := hj
    exact readValue_number hk hs
  | array items =>
    rw [compact, List.cons_append, List.length_cons, List.length_append] at hfuel
    cases items with
    | nil => rfl
    | cons item rest =>
      exact readValue_array (List.cons_ne_nil _ _) hj
        (readItems_compact (item :: rest) (List.cons_ne_nil _ _) hj fuel s (by omega))
  | object fields =>
    rw [compact, List.cons_append, List.length_cons, List.length_append] at hfuel
    cases fields with
    | nil => rfl
    | cons field rest =>
      exact readValue_object (List.cons_ne_nil _ _)
        (readFields_compact (field :: rest) (List.cons_ne_nil _ _) hj fuel s (by omega))

/-- Items are read back up to a closing bracket. -/
theorem readItems_compact (items : List Json) (hne : items ≠ []) (hitems : WholeItems items)
    (fuel : Nat) (s : Bytes) (hfuel : 2 * (compactItems items).length < fuel) :
    readItems fuel (compactItems items ++ 0x5d :: s) = .ok (items, s) := by
  obtain ⟨fuel, rfl⟩ := Nat.exists_eq_succ_of_ne_zero (n := fuel) (by omega)
  match items, hne, hitems with
  | [item], _, hitems =>
    rw [compactItems] at hfuel ⊢
    rw [readItems, readValue_compact item hitems.1 fuel (0x5d :: s) (by omega)
      (endsNumber_cons _ rfl (by decide)), Action.except_ok_bind]
    rfl
  | item :: second :: rest, _, hitems =>
    rw [compactItems_cons item (List.cons_ne_nil _ _)] at hfuel ⊢
    rw [List.length_append, List.length_cons] at hfuel
    rw [List.append_assoc, List.cons_append, readItems,
      readValue_compact item hitems.1 fuel _ (by omega) (endsNumber_cons _ rfl (by decide)),
      Action.except_ok_bind]
    simp only
    rw [skipBlanks_cons _ rfl]
    simp only
    rw [if_neg (by decide), if_pos trivial,
      readItems_compact (second :: rest) (List.cons_ne_nil _ _) hitems.2 fuel s (by omega)]
    rfl

/-- Fields are read back up to a closing brace. -/
theorem readFields_compact (fields : List (Bytes × Json)) (hne : fields ≠ [])
    (hfields : WholeFields fields) (fuel : Nat) (s : Bytes)
    (hfuel : 2 * (compactFields fields).length < fuel) :
    readFields fuel (compactFields fields ++ 0x7d :: s) = .ok (fields, s) := by
  obtain ⟨fuel, rfl⟩ := Nat.exists_eq_succ_of_ne_zero (n := fuel) (by omega)
  match fields, hne, hfields with
  | [(name, value)], _, hfields =>
    rw [compactFields] at hfuel ⊢
    rw [List.length_append, List.length_cons] at hfuel
    exact readFields_field name rfl
      (readValue_compact value hfields.1 fuel _ (by omega) (endsNumber_cons _ rfl (by decide)))
  | (name, value) :: second :: rest, _, hfields =>
    rw [compactFields_cons name value (List.cons_ne_nil _ _)] at hfuel ⊢
    rw [List.length_append, List.length_append, List.length_cons, List.length_cons] at hfuel
    have hvalue := readValue_compact value hfields.1 fuel
      (0x2c :: (compactFields (second :: rest) ++ 0x7d :: s)) (by omega)
      (endsNumber_cons _ rfl (by decide))
    rw [List.append_assoc, List.cons_append, readFields_field name rfl hvalue, if_neg (by decide),
      if_pos rfl,
      readFields_compact (second :: rest) (List.cons_ne_nil _ _) hfields.2 fuel s (by omega)]
    rfl

end

/-- **What is written is read back.** -/
theorem parse_compact {j : Json} (hj : j.Whole) : parse (compact j) = .ok j := by
  have hread := readValue_compact j hj (2 * (compact j).length + 2) [] (by omega) nofun
  rw [List.append_nil] at hread
  rw [parse, hread, Action.except_ok_bind]
  rfl

/-! ## Members of types -/

/-- Each item is read back. -/
theorem mapM_map_eq_some {α β γ : Type} {read : β → Option γ} {write : α → β} {value : α → γ}
    {l : List α} (h : ∀ a ∈ l, read (write a) = some (value a)) :
    (l.map write).mapM read = some (l.map value) := by
  induction l with
  | nil => rfl
  | cons a l ih =>
    rw [List.map_cons, List.mapM_cons, h a List.mem_cons_self,
      ih fun x hx => h x (List.mem_cons_of_mem _ hx)]
    rfl

theorem text?_text (t : String) : (text t).text? = some t :=
  Bytes.toText?_ofText t

theorem nat?_nat {k bound : Nat} (h : k ≤ bound) : (nat k).nat? bound = some k := by
  have hrange : (0 : Int) ≤ k ∧ (k : Int) ≤ bound :=
    ⟨Int.natCast_nonneg k, Int.ofNat_le.mpr h⟩
  rw [nat, int, nat?, if_pos hrange, Int.toNat_natCast]

theorem list?_map {α : Type} {read : Json → Option α} {write : α → Json} {l : List α}
    (h : ∀ a ∈ l, read (write a) = some a) : (array (l.map write)).list? read = some l := by
  have hitems : (l.map write).mapM read = some (l.map id) := mapM_map_eq_some h
  rwa [List.map_id] at hitems

/-- One field has a name, if the names are different. -/
theorem filter_of_nodup {fields : List (String × Json)} (hnodup : (fields.map (·.1)).Nodup)
    {name : String} {value : Json} (h : (name, value) ∈ fields) :
    fields.filter (fun f => f.1 == name) = [(name, value)] := by
  induction fields with
  | nil => exact absurd h List.not_mem_nil
  | cons f fields ih =>
    rw [List.map_cons, List.nodup_cons] at hnodup
    obtain ⟨hfirst, hrest⟩ := hnodup
    rcases List.mem_cons.mp h with rfl | h
    · have hothers : fields.filter (fun f => f.1 == name) = [] := by
        rw [List.filter_eq_nil_iff]
        intro g hg hname
        exact hfirst (List.mem_map.mpr ⟨g, hg, eq_of_beq hname⟩)
      rw [List.filter_cons, if_pos (beq_self_eq_true name), hothers]
    · have hne : ¬(f.1 == name) = true := by
        intro hname
        exact hfirst (List.mem_map.mpr ⟨_, h, (eq_of_beq hname).symm⟩)
      rw [List.filter_cons, if_neg hne, ih hrest h]

/-- A field is found under its name, if the names are different. -/
theorem uniqueField_of_mem {fields : List (String × Json)} (hnodup : (fields.map (·.1)).Nodup)
    {name : String} {value : Json} (h : (name, value) ∈ fields) :
    uniqueField (fields.map fun f => (Bytes.ofText f.1, f.2)) name = some (some value) := by
  have hname : (fun f : Bytes × Json => f.1 == Bytes.ofText name) ∘
      (fun f : String × Json => (Bytes.ofText f.1, f.2)) = fun f => f.1 == name := by
    funext f
    rw [Function.comp_apply, Bool.eq_iff_iff, beq_iff_eq, beq_iff_eq]
    exact ⟨fun hbytes => Bytes.ofText_inj hbytes, fun heq => by rw [heq]⟩
  rw [uniqueField, List.filter_map, hname, filter_of_nodup hnodup h]
  rfl

/-- **The fields of an object** are found under their names. -/
theorem fields?_record {fields : List (String × Json)} (hnodup : (fields.map (·.1)).Nodup) :
    (record fields).fields? (fields.map (·.1)) = some (fields.map fun f => some f.2) := by
  have htexts : (fields.map fun f => (Bytes.ofText f.1, f.2)).all
      (fun f => (Bytes.toText? f.1).isSome) = true := by
    simp [Bytes.toText?_ofText]
  rw [record, fields?, if_pos htexts]
  exact mapM_map_eq_some fun f hf => uniqueField_of_mem hnodup hf

end Json

end PagedTables
