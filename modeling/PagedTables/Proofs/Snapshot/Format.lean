/-
# The format of snapshots

A stream is accepted exactly if it spells entries with ascending keys, so that entries have one
stream only. Written into the pages of a chain, a stream is read back as it was, wherever it was
cut into pieces: the pieces need not end where entries do.

* `Snapshot.decodeEntries_eq_ok_iff` : the streams that are accepted;
* `Snapshot.exists_damage_of_decodeEntries` : all others are reported as damaged;
* `Snapshot.readChain_writeChain` : streams in pages;
* `Snapshot.format_exact` : the whole format.
-/
import PagedTables.Proofs.Snapshot.Chain
import PagedTables.Proofs.Snapshot.Stream

namespace PagedTables

namespace Snapshot

/-! ## Fields -/

/-- **A field is read** exactly where its bytes stand after their length. -/
theorem readField_eq_ok_iff {field : EntryField} {s b rest : Bytes} :
    readField field s = .ok (b, rest) ↔ b.length < 2 ^ 32 ∧ s = encodeField b ++ rest := by
  constructor
  · intro h
    unfold readField at h
    split at h
    · cases h
    · next hlen =>
      simp only at h
      split at h
      · cases h
      · next hrest =>
        obtain ⟨rfl, rfl⟩ := Prod.mk.inj (Except.ok.inj h)
        have htake : (s.take 4).length = 4 := by
          rw [List.length_take]
          omega
        have hlength : ((s.drop 4).take (Bytes.toNatLE (s.take 4))).length =
            Bytes.toNatLE (s.take 4) := by
          rw [List.length_take]
          omega
        have hword := Bytes.ofNatLE_toNatLE (s.take 4)
        rw [htake] at hword
        refine ⟨?_, ?_⟩
        · have hlt := Bytes.toNatLE_lt (s.take 4)
          rw [htake] at hlt
          rw [hlength]
          exact hlt
        · rw [encodeField, hlength, hword, List.append_assoc, List.take_append_drop,
            List.take_append_drop]
  · rintro ⟨hlen, rfl⟩
    exact readField_encodeField field rest hlen

/-- A field that cannot be read is damage. -/
theorem exists_damage_of_readField {field : EntryField} {s : Bytes} {e : StoreError}
    (h : readField field s = .error e) : ∃ d, e = .damaged d := by
  unfold readField at h
  split at h
  · cases h
    exact ⟨_, rfl⟩
  · simp only at h
    split at h
    · cases h
      exact ⟨_, rfl⟩
    · cases h

/-- A field starts with its length, cut off at 32 bits. -/
theorem toNatLE_take_encodeField (b rest : Bytes) :
    Bytes.toNatLE ((encodeField b ++ rest).take 4) = b.length % 2 ^ 32 := by
  have hlen : (Bytes.ofNatLE 4 b.length).length = 4 := Bytes.length_ofNatLE 4 _
  rw [encodeField, List.append_assoc, List.take_left' hlen]
  exact Bytes.toNatLE_ofNatLE 4 b.length

/-! ## Entries -/

/-- What reading entries answers, as long as the stream and the fuel last. -/
theorem spelled_of_readEntries {fuel : Nat} {last : Option Bytes} {s : Bytes} {es : List Entry}
    (hfuel : s.length ≤ fuel) (h : readEntries fuel last s = .ok es) :
    (∀ l ∈ last, ∀ e ∈ es, compare l e.1 = .lt) ∧
      (es.Pairwise fun a b => compare a.1 b.1 = .lt) ∧ (∀ e ∈ es, Fits e) ∧
      s = encodeEntries es := by
  -- each entry takes some bytes, so that the stream ends before the fuel does
  induction fuel generalizing last s es with
  | zero =>
    obtain rfl := List.length_eq_zero_iff.mp (Nat.le_zero.mp hfuel)
    cases h
    exact ⟨fun _ _ => nofun, .nil, nofun, rfl⟩
  | succ fuel ih =>
    by_cases hs : s = []
    · subst hs
      cases h
      exact ⟨fun _ _ => nofun, .nil, nofun, rfl⟩
    · rw [readEntries_succ hs] at h
      obtain ⟨⟨key, s'⟩, hkey, hvalueOn⟩ := Except.bind_eq_ok_iff.mp h
      obtain ⟨⟨value, s''⟩, hvalue, hon⟩ := Except.bind_eq_ok_iff.mp hvalueOn
      simp only at hon
      obtain ⟨hlast, hon⟩ := Except.guard_eq_ok_iff.mp hon
      obtain ⟨rest, hread, hes⟩ := Except.bind_eq_ok_iff.mp hon
      obtain rfl := Except.ok.inj hes
      obtain ⟨hkeyLen, rfl⟩ := readField_eq_ok_iff.mp hkey
      obtain ⟨hvalueLen, rfl⟩ := readField_eq_ok_iff.mp hvalue
      have hfuel' : s''.length ≤ fuel := by
        simp only [List.length_append, length_encodeField] at hfuel
        omega
      obtain ⟨habove, hascending, hfits, rfl⟩ := ih hfuel' hread
      have hfirst : ∀ l ∈ last, compare l key = .lt := by
        rintro l rfl
        have hgt : compare key l = .gt := by
          simpa using hlast
        exact Std.OrientedCmp.lt_of_gt hgt
      have hrest : ∀ e ∈ rest, compare key e.1 = .lt := habove key rfl
      refine ⟨?_, List.pairwise_cons.mpr ⟨hrest, hascending⟩, ?_,
        (encodeEntries_cons (key, value) rest).symm⟩
      · intro l hl e he
        rcases List.mem_cons.mp he with rfl | he
        · exact hfirst l hl
        · exact Std.TransCmp.lt_trans (hfirst l hl) (hrest e he)
      · rintro e he
        rcases List.mem_cons.mp he with rfl | he
        · exact ⟨hkeyLen, hvalueLen⟩
        · exact hfits e he

/-- Entries that cannot be read are damage. -/
theorem exists_damage_of_readEntries {fuel : Nat} {last : Option Bytes} {s : Bytes}
    {e : StoreError} (h : readEntries fuel last s = .error e) : ∃ d, e = .damaged d := by
  induction fuel generalizing last s with
  | zero => cases h
  | succ fuel ih =>
    by_cases hs : s = []
    · subst hs
      cases h
    · rw [readEntries_succ hs] at h
      rcases Except.bind_eq_error_iff.mp h with h | ⟨⟨key, s'⟩, -, h⟩
      · exact exists_damage_of_readField h
      rcases Except.bind_eq_error_iff.mp h with h | ⟨⟨value, s''⟩, -, h⟩
      · exact exists_damage_of_readField h
      simp only at h
      split at h
      · cases h
        exact ⟨_, rfl⟩
      · rcases Except.bind_eq_error_iff.mp h with h | ⟨rest, -, h⟩
        · exact ih h
        · cases h

/-! ## Streams -/

variable {s : Bytes} {n : Nat} {es : List Entry}

/-- **A stream is accepted** exactly if it spells as many entries as expected, with ascending
keys. -/
theorem decodeEntries_eq_ok_iff : decodeEntries s n = .ok es ↔
    es.length = n ∧ (es.Pairwise fun a b => compare a.1 b.1 = .lt) ∧ (∀ e ∈ es, Fits e) ∧
      s = encodeEntries es := by
  unfold decodeEntries
  constructor
  · intro h
    obtain ⟨entries, hread, h⟩ := Except.bind_eq_ok_iff.mp h
    split at h
    · next hcount =>
      obtain rfl := Except.ok.inj h
      exact ⟨hcount, (spelled_of_readEntries (Nat.le_refl _) hread).2⟩
    · cases h
  · rintro ⟨rfl, hascending, hfits, rfl⟩
    rw [readEntries_encodeEntries es _ none hfits (length_le_length_encodeEntries es) hascending
      nofun]
    exact if_pos rfl

/-- The stream of one entry is accepted only if its lengths can be written: a length that is cut off
at 32 bits leaves more bytes behind than another entry can take. -/
theorem fits_of_decodeEntries {e : Entry} (h : decodeEntries (encodeEntries [e]) 1 = .ok es) :
    Fits e := by
  obtain ⟨hcount, -, hfits, hstream⟩ := decodeEntries_eq_ok_iff.mp h
  obtain ⟨d, rfl⟩ := List.length_eq_one_iff.mp hcount
  obtain ⟨hkey, hvalue⟩ := hfits d List.mem_cons_self
  have hlength := congrArg List.length hstream
  simp only [encodeEntries_cons, List.length_append, length_encodeField] at hlength
  -- both streams start with the length of the key
  have hfirst := congrArg (fun s => Bytes.toNatLE (s.take 4)) hstream
  simp only [encodeEntries_cons, toNatLE_take_encodeField, Nat.mod_eq_of_lt hkey] at hfirst
  unfold Fits
  omega

/-- A stream that is not accepted is reported as damaged. -/
theorem exists_damage_of_decodeEntries {e : StoreError} (h : decodeEntries s n = .error e) :
    ∃ d, e = .damaged d := by
  unfold decodeEntries at h
  rcases Except.bind_eq_error_iff.mp h with h | ⟨entries, -, h⟩
  · exact exists_damage_of_readEntries h
  · split at h
    · cases h
    · cases h
      exact ⟨_, rfl⟩

/-! ## Streams in pages -/

section Pages

open PageView (page Sound)

variable {σ : Type} [PageStore σ] [PageView σ] [LawfulPageStore σ]

/-- **A stream in pages** is read back, with the pages in the order in which they are linked, and
no other page changes. -/
theorem readChain_writeChain {pages : σ} {ids : List PageId} (stream : Bytes)
    (hsound : Sound pages) (hsize : validPageSize (PageStore.pageSize pages) = true)
    (hcount : PageStore.pageCount pages < 2 ^ 64) (hnodup : ids.Nodup)
    (hids : ∀ id ∈ ids, id ≠ PageId.null ∧ id < PageStore.pageCount pages)
    (hlength : ids.length =
      (stream.chunks (payloadCapacity (PageStore.pageSize pages))).length) :
    ∃ t u, writeChain ids (stream.chunks (payloadCapacity (PageStore.pageSize pages))) pages =
        .ok () t ∧
      readChain (ids.headD PageId.null) t = .ok (stream, ids) u ∧
      (∀ id, id ∉ ids → page t id = page pages id) ∧ page u = page t := by
  have hbounds := bounds_of_validPageSize hsize
  have hcapacity : headerSize + payloadCapacity (PageStore.pageSize pages) =
      PageStore.pageSize pages := by
    rw [payloadCapacity, headerSize]
    omega
  obtain ⟨t, written, hwrite, hbecomes, hsame, hchain⟩ := writeChain_ok hsound
    (fun id hid => (hids id hid).2) hnodup hlength hcount hcapacity.le (by omega)
    fun _ => Bytes.length_of_mem_chunks
  -- distinct pages other than the first are fewer than all, so that no chain is taken for a cycle
  have hfuel : ids.length ≤ PageStore.pageCount t := by
    rw [hbecomes.pageCount_eq, ← List.length_range (n := PageStore.pageCount pages)]
    refine (hnodup.subperm ?_).length_le
    intro id hid
    exact List.mem_range.mpr (hids id hid).2
  rw [← hbecomes.page_eq, ← hbecomes.pageSize_eq] at hchain
  obtain ⟨u, hread, hbecomes', -⟩ := followChain_ok hbecomes.sound hchain
    (by
      intro id hid
      rw [hbecomes.pageCount_eq]
      exact hids id hid)
    hfuel
  refine ⟨t, u, hwrite, ?_, ?_, hbecomes'.page_eq⟩
  · rw [hbecomes.pageSize_eq, Bytes.flatten_chunks (by rw [headerSize] at hcapacity; omega)]
      at hread
    unfold readChain
    rw [Action.get_bind, hbecomes.pageSize_eq]
    exact hread
  · intro id hid
    rw [hbecomes.page_eq]
    exact hsame id hid

/-- **The format is exact.** A stream is accepted exactly if it is the encoding of as many entries
as expected, with keys that strictly ascend and lengths that fit their fields; every other stream
is reported as damaged. The stream of any entries, in order or not, can be cut into pieces that
fill their pages and written into any distinct pages of a store: following the links from the
first page then gives back the stream and the pages. -/
theorem format_exact :
    (∀ (s : Bytes) (n : Nat) (es : List Entry), decodeEntries s n = .ok es ↔
      es.length = n ∧ (es.Pairwise fun a b => compare a.1 b.1 = .lt) ∧ (∀ e ∈ es, Fits e) ∧
        s = encodeEntries es) ∧
    (∀ (s : Bytes) (n : Nat), (∀ es, decodeEntries s n ≠ .ok es) →
      ∃ d, decodeEntries s n = .error (.damaged d)) ∧
    ∀ (es : List Entry) (pages : σ) (ids : List PageId),
      let pieces := (encodeEntries es).chunks (payloadCapacity (PageStore.pageSize pages))
      Sound pages → validPageSize (PageStore.pageSize pages) = true →
      PageStore.pageCount pages < 2 ^ 64 → ids.Nodup →
      (∀ id ∈ ids, id ≠ PageId.null ∧ id < PageStore.pageCount pages) →
      ids.length = pieces.length →
      ∃ t u, writeChain ids pieces pages = .ok () t ∧
        readChain (ids.headD PageId.null) t = .ok (encodeEntries es, ids) u ∧
        (∀ id, id ∉ ids → page t id = page pages id) ∧ page u = page t := by
  refine ⟨fun s n es => decodeEntries_eq_ok_iff, fun s n hnone => ?_,
    fun es pages ids hsound hsize hcount hnodup hids hlength =>
      readChain_writeChain (encodeEntries es) hsound hsize hcount hnodup hids hlength⟩
  obtain ⟨e, he⟩ := Except.exists_error_iff.mpr hnone
  obtain ⟨d, rfl⟩ := exists_damage_of_decodeEntries he
  exact ⟨d, he⟩

end Pages

/-- Two entries in two pages that are linked backwards; the second key is cut. -/
theorem format_exact_of_two_pages :
    let pages : PageArray := ⟨128, List.replicate 4 (Bytes.zeros 128)⟩
    let es : List Entry := [([1], List.replicate 100 7), ([1, 2, 3, 4, 5, 6], [9])]
    (∃ t u, writeChain [3, 1] ((encodeEntries es).chunks 116) pages = .ok () t ∧
      readChain 3 t = .ok (encodeEntries es, [3, 1]) u) ∧
    decodeEntries (encodeEntries es) 2 = .ok es ∧
    ∃ d, decodeEntries (encodeEntries es.reverse) 2 = .error (.damaged d) := by
  intro pages es
  obtain ⟨haccepts, hrejects, hpages⟩ := format_exact (σ := PageArray)
  have hfits : ∀ e ∈ es, Fits e := by
    simp [es, Fits]
  refine ⟨?_, (haccepts _ _ _).mpr ⟨rfl, by decide, hfits, rfl⟩, hrejects _ _ ?_⟩
  · have hsound : PageView.Sound pages := by
      intro page hpage
      rw [List.eq_of_mem_replicate hpage]
      rfl
    obtain ⟨t, u, hwrite, hread, -⟩ := hpages es pages [3, 1] hsound (by decide) (by decide)
      (by decide) (by decide) (by decide +kernel)
    exact ⟨t, u, hwrite, hread⟩
  · intro es' h
    have hread : decodeEntries (encodeEntries es.reverse) 2 =
        .error (.damaged .keysOutOfOrder) := by
      decide +kernel
    rw [hread] at h
    cases h

end Snapshot

end PagedTables
