/-
# Streams of entries

The stream of a snapshot spells its entries, and the payloads of its pages spell the stream.

* `Snapshot.decodeEntries_encodeEntries` : the entries are read back from their stream;
* `Bytes.flatten_chunks` : the pieces of a stream put together are the stream.
-/
import PagedTables.Proofs.Action
import PagedTables.Proofs.Bytes
import PagedTables.Store.Memory

namespace PagedTables

/-! ## Pieces of a string -/

namespace Bytes

variable {size : Nat} {b : Bytes}

theorem flatten_chunks_go (hsize : 0 < size) (fuel : Nat) (b : Bytes) (hfuel : b.length ≤ fuel) :
    (chunks.go size fuel b).flatten = b := by
  induction fuel generalizing b with
  | zero =>
    rw [List.length_eq_zero_iff.mp (Nat.le_zero.mp hfuel)]
    rfl
  | succ fuel ih =>
    cases b with
    | nil => rfl
    | cons x rest =>
      rw [chunks.go, List.flatten_cons, ih, List.take_append_drop]
      rw [List.length_drop]
      rw [List.length_cons] at hfuel ⊢
      omega

/-- The pieces of a string put together are the string. -/
theorem flatten_chunks (hsize : 0 < size) : (b.chunks size).flatten = b :=
  flatten_chunks_go hsize b.length b (Nat.le_refl _)

theorem length_of_mem_chunks_go (fuel : Nat) (b : Bytes) {piece : Bytes}
    (h : piece ∈ chunks.go size fuel b) : piece.length ≤ size := by
  induction fuel generalizing b with
  | zero => cases h
  | succ fuel ih =>
    cases b with
    | nil => cases h
    | cons x rest =>
      rcases List.mem_cons.mp h with rfl | hrest
      · rw [List.length_take]
        exact Nat.min_le_left _ _
      · exact ih _ hrest

/-- No piece is longer than it may be. -/
theorem length_of_mem_chunks {piece : Bytes} (h : piece ∈ b.chunks size) :
    piece.length ≤ size :=
  length_of_mem_chunks_go b.length b h

theorem length_chunks_go_le (fuel : Nat) (b : Bytes) :
    (chunks.go size fuel b).length ≤ fuel := by
  induction fuel generalizing b with
  | zero => exact Nat.le_refl 0
  | succ fuel ih =>
    cases b with
    | nil => exact Nat.zero_le _
    | cons x rest => exact Nat.succ_le_succ (ih _)

/-- No piece is empty, so there are at most as many as bytes. -/
theorem length_chunks_le : (b.chunks size).length ≤ b.length :=
  length_chunks_go_le b.length b

end Bytes

/-! ## Entries -/

namespace Snapshot

/-- An entry whose lengths can be written. -/
def Fits (e : Entry) : Prop :=
  e.1.length < 2 ^ 32 ∧ e.2.length < 2 ^ 32

/-- A field is read back in front of whatever comes after it. -/
theorem readField_encodeField (field : EntryField) {b : Bytes} (rest : Bytes)
    (h : b.length < 2 ^ 32) : readField field (encodeField b ++ rest) = .ok (b, rest) := by
  have hlen : (Bytes.ofNatLE 4 b.length).length = 4 := Bytes.length_ofNatLE 4 _
  have htake : (encodeField b ++ rest).take 4 = Bytes.ofNatLE 4 b.length := by
    rw [encodeField, List.append_assoc, List.take_left' hlen]
  have hdrop : (encodeField b ++ rest).drop 4 = b ++ rest := by
    rw [encodeField, List.append_assoc, List.drop_left' hlen]
  have hnum : Bytes.toNatLE (Bytes.ofNatLE 4 b.length) = b.length := by
    rw [Bytes.toNatLE_ofNatLE]
    exact Nat.mod_eq_of_lt h
  unfold readField
  rw [htake, hdrop, hnum, if_neg, if_neg, List.take_left, List.drop_left]
  · rw [List.length_append]
    omega
  · rw [encodeField, List.length_append, List.length_append, hlen]
    omega

theorem encodeEntries_cons (e : Entry) (rest : List Entry) :
    encodeEntries (e :: rest) = encodeField e.1 ++ (encodeField e.2 ++ encodeEntries rest) := by
  rw [encodeEntries, List.flatMap_cons, encodeEntry, List.append_assoc, ← encodeEntries]

/-- A field takes four bytes more than what it holds. -/
theorem length_encodeField (b : Bytes) : (encodeField b).length = b.length + 4 := by
  rw [encodeField, List.length_append, Bytes.length_ofNatLE, Nat.add_comm]

/-- Every entry takes some bytes. -/
theorem length_le_length_encodeEntries (entries : List Entry) :
    entries.length ≤ (encodeEntries entries).length := by
  induction entries with
  | nil => exact Nat.le_refl 0
  | cons e rest ih =>
    rw [encodeEntries_cons, List.length_append, List.length_append, length_encodeField,
      List.length_cons]
    omega

/-- Reading the entries of a stream that has not ended. -/
theorem readEntries_succ {s : Bytes} (hs : s ≠ []) (fuel : Nat) (last : Option Bytes) :
    readEntries (fuel + 1) last s = (do
      let (key, s) ← readField .key s
      let (value, s) ← readField .value s
      if last.any fun l => (compare key l).isLE then
        throw (.damaged .keysOutOfOrder)
      return (key, value) :: (← readEntries fuel (some key) s)) := by
  cases s with
  | nil => exact absurd rfl hs
  | cons b rest => rfl

/-- Reading goes on from any key below those that follow. -/
theorem readEntries_encodeEntries (entries : List Entry) (fuel : Nat) (last : Option Bytes)
    (hfits : ∀ e ∈ entries, Fits e) (hfuel : entries.length ≤ fuel)
    (hasc : entries.Pairwise fun a b => compare a.1 b.1 = .lt)
    (hlast : ∀ l ∈ last, ∀ e ∈ entries, compare l e.1 = .lt) :
    readEntries fuel last (encodeEntries entries) = .ok entries := by
  induction entries generalizing fuel last with
  | nil => cases fuel <;> rfl
  | cons e rest ih =>
    obtain ⟨hkey, hvalue⟩ := hfits e List.mem_cons_self
    obtain ⟨hhead, hrest⟩ := List.pairwise_cons.mp hasc
    cases fuel with
    | zero => cases hfuel
    | succ fuel =>
      have hread := ih fuel (some e.1) (fun x hx => hfits x (List.mem_cons_of_mem _ hx))
        (Nat.le_of_succ_le_succ hfuel) hrest (by
          intro l hl x hx
          obtain rfl := Option.some.inj hl
          exact hhead x hx)
      have hord : (last.any fun l => (compare e.1 l).isLE) = false := by
        cases last with
        | none => rfl
        | some l =>
          have hgt : compare e.1 l = .gt :=
            Std.OrientedCmp.gt_of_lt (hlast l rfl e List.mem_cons_self)
          rw [Option.any_some, hgt]
          rfl
      -- the stream is not empty, since it starts with a length
      have hstream : encodeEntries (e :: rest) ≠ [] := by
        apply List.ne_nil_of_length_pos
        rw [encodeEntries_cons, List.length_append, length_encodeField]
        omega
      rw [readEntries_succ hstream, encodeEntries_cons, readField_encodeField .key _ hkey,
        Action.except_ok_bind]
      simp only [readField_encodeField .value _ hvalue, Action.except_ok_bind, hord, hread]
      rfl

/-- **Entries are read back from their stream.** -/
theorem decodeEntries_encodeEntries (m : Entries) (hfits : ∀ e ∈ m.toList, Fits e) :
    decodeEntries (encodeEntries m.toList) m.size = .ok m.toList := by
  have hread := readEntries_encodeEntries m.toList (encodeEntries m.toList).length none hfits
    (length_le_length_encodeEntries _) m.ascending nofun
  unfold decodeEntries
  rw [hread]
  exact if_pos rfl

end Snapshot

end PagedTables
