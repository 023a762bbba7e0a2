/-
# The format of the meta page

A page is accepted exactly if it starts with the bytes of a meta page whose fields pass the check.
So writing and reading undo each other, and the page size of a file is found without reading the
rest of its meta page.

* `MetaPage.check_eq_ok_iff` : the fields that pass the check;
* `MetaPage.decode_eq_ok_iff` : the pages that are accepted;
* `MetaPage.recordedPageSize_of_take` : the page size of a file that starts with a meta page;
* `MetaPage.layout_exact` : writing and reading undo each other.
-/
import PagedTables.Page.Meta
import PagedTables.Proofs.Bytes
import PagedTables.Proofs.Damage

namespace PagedTables

namespace Bytes

variable {a b : Bytes} {off n : Nat}

/-- The first part of a string is cut out of its start. -/
theorem slice_append_left (h : a.length = n) : (a ++ b).slice 0 n = a := by
  rw [slice, List.drop_zero, List.take_left' h]

/-- Behind the first part, a slice is one of the second part. -/
theorem slice_append_right (h : a.length ≤ off) :
    (a ++ b).slice off n = b.slice (off - a.length) n := by
  rw [slice, slice, List.drop_append, List.drop_of_length_le h, List.nil_append]

theorem slice_take {len : Nat} (h : off + n ≤ len) :
    slice (b.take len) off n = b.slice off n := by
  apply List.ext_getElem?
  intro i
  rw [getElem?_slice, getElem?_slice, List.getElem?_take]
  by_cases hi : i < n
  · rw [if_pos hi, if_pos hi, if_pos (by omega)]
  · rw [if_neg hi, if_neg hi]

/-- A slice continues the part in front of it. -/
theorem take_append_slice : b.take off ++ b.slice off n = b.take (off + n) :=
  List.take_add.symm

end Bytes

namespace MetaPage

variable {m : MetaPage} {page : Bytes}

/-- The bytes of a meta page with their check value. -/
def sealed (m : MetaPage) : Bytes :=
  m.body ++ Bytes.ofNatLE 4 (checksum m.body).toNat

/-- A sealed meta page takes a fixed number of bytes. -/
@[simp] theorem length_sealed (m : MetaPage) : m.sealed.length = size := by
  rw [sealed, List.length_append, length_body, Bytes.length_ofNatLE]
  rfl

/-- A page starts with the meta page that was encoded in it. -/
theorem take_encode : (m.encode page).take size = m.sealed := by
  have hslice : (page.overwrite 0 m.sealed).slice 0 m.sealed.length = m.sealed :=
    Bytes.slice_overwrite
  rw [length_sealed, Bytes.slice, List.drop_zero] at hslice
  exact hslice

/-! ## Fields -/

/-- A word is read where its bytes stand. -/
theorem wordAt_eq {x : UInt64} {off : Nat} (h : page.slice off 8 = Bytes.ofNatLE 8 x.toNat) :
    wordAt page off = x := by
  rw [wordAt, h, Bytes.toNatLE_ofNatLE]
  apply UInt64.toNat_inj.mp
  rw [UInt64.toNat_ofNat']
  have := x.toNat_lt
  omega

theorem halfAt_eq {x : UInt32} {off : Nat} (h : page.slice off 4 = Bytes.ofNatLE 4 x.toNat) :
    halfAt page off = x := by
  rw [halfAt, h, Bytes.toNatLE_ofNatLE]
  apply UInt32.toNat_inj.mp
  rw [UInt32.toNat_ofNat']
  have := x.toNat_lt
  omega

/-- Each field is found at its position. -/
theorem fields_sealed (m : MetaPage) : fields m.sealed = m := by
  have hsig : signature.length = 16 := rfl
  unfold fields
  rw [halfAt_eq (x := m.pageSize), wordAt_eq (x := m.pageCount), wordAt_eq (x := m.dataHead),
    wordAt_eq (x := m.entryCount), wordAt_eq (x := m.headPage), wordAt_eq (x := m.headSeq),
    wordAt_eq (x := m.tailPage), wordAt_eq (x := m.tailSeq)]
  all_goals
    simp only [sealed, body, List.append_assoc]
    simp [Bytes.slice_append_right, Bytes.slice_append_left, hsig]

/-- The bytes of a word that is read are those of the page. -/
theorem ofNatLE_wordAt {off : Nat} (h : off + 8 ≤ page.length) :
    Bytes.ofNatLE 8 (wordAt page off).toNat = page.slice off 8 := by
  have hlt := Bytes.toNatLE_lt (page.slice off 8)
  have hback := Bytes.ofNatLE_toNatLE (page.slice off 8)
  rw [Bytes.length_slice h] at hlt hback
  rw [wordAt, UInt64.toNat_ofNat_of_lt' hlt, hback]

theorem ofNatLE_halfAt {off : Nat} (h : off + 4 ≤ page.length) :
    Bytes.ofNatLE 4 (halfAt page off).toNat = page.slice off 4 := by
  have hlt := Bytes.toNatLE_lt (page.slice off 4)
  have hback := Bytes.ofNatLE_toNatLE (page.slice off 4)
  rw [Bytes.length_slice h] at hlt hback
  rw [halfAt, UInt32.toNat_ofNat_of_lt' hlt, hback]

/-- The fields of a page that starts with the signature spell the bytes that they were read
from. -/
theorem body_fields (hlen : size ≤ page.length) (hsig : page.take signature.length = signature) :
    (fields page).body = page.take bodySize := by
  have hsize : size = 80 := rfl
  rw [body, fields, ofNatLE_halfAt (by omega), ofNatLE_wordAt (by omega),
    ofNatLE_wordAt (by omega), ofNatLE_wordAt (by omega), ofNatLE_wordAt (by omega),
    ofNatLE_wordAt (by omega), ofNatLE_wordAt (by omega), ofNatLE_wordAt (by omega), ← hsig,
    show signature.length = 16 from rfl]
  simp only [Bytes.take_append_slice, bodySize]

/-! ## Checking -/

/-- A node is accepted exactly if it is a page other than the meta page. -/
theorem checkNode_eq_ok_iff {node : UInt64} :
    m.checkNode node = .ok () ↔ 0 < node ∧ node < m.pageCount := by
  rw [checkNode, UInt64.pos_iff_ne_zero, ← UInt64.not_le, ← not_or]
  split <;> simp [*]

/-- The order of the sequence numbers and the bounds of the pages are all that is checked. -/
theorem check_eq_ok_iff : m.check = .ok () ↔ m.headSeq ≤ m.tailSeq ∧
    (0 < m.headPage ∧ m.headPage < m.pageCount) ∧
    (0 < m.tailPage ∧ m.tailPage < m.pageCount) ∧ m.dataHead < m.pageCount := by
  have hlast : (if m.pageCount ≤ m.dataHead then
        throw (.damaged (.dataHeadOutOfBounds m.dataHead.toNat))
      else pure () : Except StoreError Unit) = .ok () ↔ m.dataHead < m.pageCount := by
    rw [← UInt64.not_le]
    split <;> simp [*, throw, throwThe, MonadExceptOf.throw, pure, Except.pure]
  unfold check
  rw [Except.guard_eq_ok_iff, UInt64.not_lt]
  simp only [Except.bind_eq_ok_iff, hlast]
  constructor
  · rintro ⟨hseq, ⟨⟩, hhead, ⟨⟩, htail, hdata⟩
    exact ⟨hseq, checkNode_eq_ok_iff.mp hhead, checkNode_eq_ok_iff.mp htail, hdata⟩
  · rintro ⟨hseq, hhead, htail, hdata⟩
    exact ⟨hseq, (), checkNode_eq_ok_iff.mpr hhead, (), checkNode_eq_ok_iff.mpr htail, hdata⟩

/-! ## Decoding -/

/-- The fields lie in the part of the page that a meta page takes. -/
theorem fields_take : fields (page.take size) = fields page := by
  have hword : ∀ off, off + 8 ≤ size → wordAt (page.take size) off = wordAt page off := by
    intro off h
    rw [wordAt, wordAt, Bytes.slice_take h]
  have hhalf : halfAt (page.take size) 16 = halfAt page 16 := by
    rw [halfAt, halfAt, Bytes.slice_take (by decide)]
  unfold fields
  rw [hhalf, hword 20 (by decide), hword 28 (by decide), hword 36 (by decide),
    hword 44 (by decide), hword 52 (by decide), hword 60 (by decide), hword 68 (by decide)]

/-- A sealed meta page starts with the signature. -/
theorem take_signature (h : page.take size = m.sealed) :
    page.take signature.length = signature := by
  have hle : signature.length ≤ size := by decide
  rw [← Nat.min_eq_left hle, ← List.take_take, h]
  simp only [sealed, body, List.append_assoc]
  exact List.take_left

/-- What the checksum is taken of comes before it. -/
theorem take_body (h : page.take size = m.sealed) : page.take bodySize = m.body := by
  have hle : bodySize ≤ size := by decide
  rw [← Nat.min_eq_left hle, ← List.take_take, h]
  exact List.take_left' (length_body m)

/-- **A meta page is read back** from any page that starts with its bytes. -/
theorem decode_of_take (hlen : size ≤ page.length) (h : page.take size = m.sealed)
    (hcheck : m.check = .ok ()) : decode page = .ok m := by
  have hfields : fields page = m := by
    rw [← fields_take, h, fields_sealed]
  have hstored : halfAt page bodySize = checksum m.body := by
    apply halfAt_eq
    have hslice : Bytes.slice (page.take size) bodySize 4 = page.slice bodySize 4 :=
      Bytes.slice_take (by decide)
    rw [← hslice, h, sealed, Bytes.slice_append_right (Nat.le_of_eq (length_body m)),
      length_body, Nat.sub_self, Bytes.slice, List.drop_zero]
    exact List.take_of_length_le (Nat.le_of_eq (Bytes.length_ofNatLE 4 _))
  unfold decode
  rw [if_neg (Nat.not_lt.mpr hlen), if_neg (fun hne => hne (take_signature h))]
  show (if halfAt page bodySize ≠ checksum (page.take bodySize) then _ else _) = _
  rw [take_body h, hstored, if_neg (fun hne => hne rfl), hfields, hcheck]
  rfl

/-- **A page is accepted** exactly if it starts with the bytes of a meta page whose fields pass the
check. -/
theorem decode_eq_ok_iff :
    decode page = .ok m ↔ size ≤ page.length ∧ page.take size = m.sealed ∧ m.check = .ok () := by
  refine ⟨fun h => ?_, fun ⟨hlen, htake, hcheck⟩ => decode_of_take hlen htake hcheck⟩
  unfold decode at h
  split at h
  · cases h
  next hlen =>
    rw [Nat.not_lt] at hlen
    split at h
    · cases h
    next hsig =>
      simp only at h
      split at h
      · cases h
      next hsum =>
        obtain ⟨⟨⟩, hcheck, rfl⟩ := Except.map_eq_ok_iff.mp h
        refine ⟨hlen, ?_, hcheck⟩
        rw [sealed, body_fields hlen (not_not.mp hsig), ← not_not.mp hsum,
          ofNatLE_halfAt (Nat.le_trans (by decide) hlen), Bytes.take_append_slice]
        rfl

/-! ## Page size of a file -/

/-- The page size of a file that starts with a meta page. -/
theorem recordedPageSize_eq_of_take {file : Bytes} (hlen : size ≤ file.length)
    (h : file.take size = m.sealed) : recordedPageSize file =
      if validPageSize m.pageSize.toNat then .ok m.pageSize.toNat
      else .error (.damaged (.badPageSize m.pageSize.toNat)) := by
  have hsize : signature.length + 4 ≤ size := by decide
  have hnum : Bytes.toNatLE (file.slice signature.length 4) = m.pageSize.toNat := by
    have hfield : halfAt file 16 = m.pageSize := by
      have hfields : (fields file).pageSize = m.pageSize := by
        rw [← fields_take, h, fields_sealed]
      exact hfields
    have hbound := Bytes.toNatLE_lt (file.slice 16 4)
    rw [Bytes.length_slice (Nat.le_trans (by decide) hlen)] at hbound
    rw [← hfield, halfAt, UInt32.toNat_ofNat_of_lt' hbound]
    rfl
  unfold recordedPageSize
  rw [if_neg (by omega), if_neg (fun hne => hne (take_signature h))]
  simp only [hnum]

/-- The page size is read off a file that starts with a meta page. -/
theorem recordedPageSize_of_take {file : Bytes} (hlen : size ≤ file.length)
    (h : file.take size = m.sealed) (hvalid : validPageSize m.pageSize.toNat = true) :
    recordedPageSize file = .ok m.pageSize.toNat := by
  rw [recordedPageSize_eq_of_take hlen h, if_pos hvalid]

/-- The test for powers of two is exact. -/
theorem isPowerOfTwo_iff {n : Nat} : isPowerOfTwo n = true ↔ ∃ k, n = 2 ^ k := by
  rw [isPowerOfTwo, Bool.and_eq_true, bne_iff_ne, beq_iff_eq]
  constructor
  · rintro ⟨-, h⟩
    exact ⟨n.log2, h.symm⟩
  · rintro ⟨k, rfl⟩
    refine ⟨Nat.ne_of_gt (Nat.two_pow_pos k), ?_⟩
    rw [Nat.log2_two_pow]
    rfl

/-! ## Writing and reading -/

/-- Writing replaces the first bytes of a page. -/
theorem encode_eq (m : MetaPage) (page : Bytes) : m.encode page = m.sealed ++ page.drop size := by
  show page.overwrite 0 m.sealed = _
  rw [Bytes.overwrite, length_sealed, List.take_zero, Nat.zero_sub, Nat.zero_add, Bytes.zeros,
    List.replicate_zero, List.nil_append, List.nil_append]

/-- **Writing and reading undo each other.** Writing a meta page changes only the bytes that it
takes. What was written is read back if the sequence numbers are in order and all pages are in
bounds, and is reported as damage if not. A page that was read is left as it is when its meta page
is written again, and a file that starts with it records the page size of the meta page exactly if
a file may have this size. -/
theorem layout_exact :
    (∀ (m : MetaPage) (page : Bytes), size ≤ page.length →
      (m.encode page).length = page.length ∧ (m.encode page).drop size = page.drop size ∧
      (decode (m.encode page) = .ok m ↔ m.headSeq ≤ m.tailSeq ∧
        (0 < m.headPage ∧ m.headPage < m.pageCount) ∧
        (0 < m.tailPage ∧ m.tailPage < m.pageCount) ∧ m.dataHead < m.pageCount) ∧
      (decode (m.encode page) ≠ .ok m →
        ∃ e, decode (m.encode page) = .error e ∧ e.isDamage = true)) ∧
    ∀ (m : MetaPage) (page : Bytes), decode page = .ok m →
      m.encode page = page ∧
      ∀ rest : Bytes, let n := m.pageSize.toNat
        ((FileStatus.present (page ++ rest)).pageSize = .ok n ↔
          (∃ k, n = 2 ^ k) ∧ minPageSize ≤ n ∧ n ≤ maxPageSize) ∧
        ((FileStatus.present (page ++ rest)).pageSize ≠ .ok n →
          (FileStatus.present (page ++ rest)).pageSize = .error (.damaged (.badPageSize n))) := by
  constructor
  · intro m page hlen
    have hlength := m.length_encode hlen
    have hdecode : decode (m.encode page) = .ok m ↔ m.check = .ok () := by
      rw [decode_eq_ok_iff, hlength, take_encode]
      exact ⟨fun h => h.2.2, fun h => ⟨hlen, rfl, h⟩⟩
    refine ⟨hlength, ?_, hdecode.trans check_eq_ok_iff, fun hne => ?_⟩
    · rw [encode_eq, List.drop_left' m.length_sealed]
    · refine (reportsDamage_decode _).exists_error fun m' hm' => hne ?_
      -- no other meta page is read than the one that was written
      obtain ⟨-, htake, -⟩ := decode_eq_ok_iff.mp hm'
      rw [take_encode] at htake
      rw [hm', ← fields_sealed m', ← htake, fields_sealed]
  · intro m page hdecode
    obtain ⟨hlen, htake, -⟩ := decode_eq_ok_iff.mp hdecode
    refine ⟨by rw [encode_eq, ← htake, List.take_append_drop], fun rest => ?_⟩
    have hfile : size ≤ (page ++ rest).length := by
      rw [List.length_append]
      exact Nat.le_add_right_of_le hlen
    have hstart : (page ++ rest).take size = m.sealed := by
      rw [List.take_append_of_le_length hlen, htake]
    have hvalid : validPageSize m.pageSize.toNat = true ↔ (∃ k, m.pageSize.toNat = 2 ^ k) ∧
        minPageSize ≤ m.pageSize.toNat ∧ m.pageSize.toNat ≤ maxPageSize := by
      rw [validPageSize, Bool.and_eq_true, Bool.and_eq_true, isPowerOfTwo_iff, decide_eq_true_iff,
        decide_eq_true_iff, and_assoc]
    have hprobe : (FileStatus.present (page ++ rest)).pageSize = _ :=
      recordedPageSize_eq_of_take hfile hstart
    dsimp only
    rw [hprobe, ← hvalid]
    by_cases h : validPageSize m.pageSize.toNat = true
    · rw [if_pos h]
      exact ⟨iff_of_true rfl h, fun hne => absurd rfl hne⟩
    · rw [if_neg h]
      exact ⟨iff_of_false (fun heq => by cases heq) h, fun _ => rfl⟩

/-- The largest file: its last page is the tail node, and a larger one would be out of bounds. -/
theorem layout_exact_of_last_page :
    let m : MetaPage := ⟨256, 0xFFFFFFFFFFFFFFFF, 0, 0, 1, 5, 0xFFFFFFFFFFFFFFFE, 5⟩
    let outside : MetaPage := { m with tailPage := 0xFFFFFFFFFFFFFFFF }
    let page : Bytes := List.replicate 90 7
    decode (m.encode page) = .ok m ∧ (m.encode page).drop size = List.replicate 10 7 ∧
      m.encode (m.encode page) = m.encode page ∧
      (FileStatus.present (m.encode page ++ [1, 2, 3])).pageSize = .ok 256 ∧
      ∃ e, decode (outside.encode page) = .error e ∧ e.isDamage = true := by
  intro m outside page
  obtain ⟨hwrite, hread⟩ := layout_exact
  obtain ⟨-, hbehind, hok, -⟩ := hwrite m page (by decide)
  obtain ⟨-, -, hok', hdamage⟩ := hwrite outside page (by decide)
  have hdecode := hok.mpr (by decide)
  obtain ⟨hagain, hprobe⟩ := hread m _ hdecode
  exact ⟨hdecode, hbehind, hagain, (hprobe [1, 2, 3]).1.mpr ⟨⟨8, rfl⟩, by decide⟩,
    hdamage (mt hok'.mp (by decide))⟩

end MetaPage

end PagedTables
