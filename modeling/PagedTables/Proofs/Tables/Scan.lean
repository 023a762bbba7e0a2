/-
# Scans of a store

A scan starts on the first entry, in its direction, that satisfies the start, and checks the end
at each entry. As the start, once satisfied, stays so, and the end, once missed, stays so too,
it visits the entries that satisfy both and no others.

* `Scan.Ahead` : the entries from the position of a scan on;
* `Scan.entry?_start` : where a scan starts;
* `Database.take_start` : the rows that a scan passes.
-/
import Mathlib
import PagedTables.Proofs.Action
import PagedTables.Proofs.OrderedMap
import PagedTables.Table.Database

namespace PagedTables

/-! ## Selections of a list -/

section Selections

variable {α : Type} {p : α → Bool} {l : List α}

/-- What an entry passes, and all behind it, is the end of the list. -/
theorem filter_not_append_filter (h : l.Pairwise fun a b => p a → p b) :
    l.filter (fun a => !p a) ++ l.filter p = l := by
  induction l with
  | nil => rfl
  | cons x l ih =>
    obtain ⟨hx, hl⟩ := List.pairwise_cons.mp h
    by_cases hp : p x
    · have hall : ∀ a ∈ l, p a = true := fun a ha => hx a ha hp
      have hnone : l.filter (fun a => !p a) = [] :=
        List.filter_eq_nil_iff.mpr fun a ha => by simp [hall a ha]
      simp [hp, hnone, List.filter_eq_self.mpr hall]
    · simp [hp, ih hl]

/-- What an entry misses, and all behind it, is left out by stopping there. -/
theorem takeWhile_eq_filter (h : l.Pairwise fun a b => p b → p a) : l.takeWhile p = l.filter p := by
  induction l with
  | nil => rfl
  | cons x l ih =>
    obtain ⟨hx, hl⟩ := List.pairwise_cons.mp h
    by_cases hp : p x
    · simp [hp, ih hl]
    · have hnone : l.filter p = [] :=
        List.filter_eq_nil_iff.mpr fun a ha hpa => hp (hx a ha hpa)
      simp [hp, hnone]

end Selections

/-! ## Comparisons along a scan -/

namespace Comparison

/-- How a key compares with one that a scan visits later. -/
def direction (forward : Bool) : Ordering :=
  if forward then .lt else .gt

/-- The comparison that the entries behind one satisfy in a direction. -/
def beyond (forward : Bool) : Comparison :=
  if forward then .above else .below

/-- An entry lies beyond another one if a scan visits it later. -/
theorem beyond_holds_iff {forward : Bool} {k k' : Bytes} :
    (beyond forward).holds k' k ↔ compare k k' = direction forward := by
  cases forward
  · simp only [beyond, direction, holds, accepts, Bool.false_eq_true, if_false,
      Ordering.isLT_iff_eq_lt]
    exact Std.OrientedCmp.gt_iff_lt.symm
  · simp only [beyond, direction, holds, accepts, if_true, Ordering.isGT_iff_eq_gt]
    exact Std.OrientedCmp.gt_iff_lt

/-- What is neither below nor above a reference is equal to it. -/
theorem accepts_atLeast_and_atMost (o : Ordering) :
    (atLeast.accepts o && atMost.accepts o) = (o == .eq) := by
  cases o <;> rfl

/-- A comparison stays satisfied in its own direction. -/
theorem accepts_of_direction {α : Type} [Ord α] [Std.TransOrd α] {c : Comparison}
    {k k' reference : α} (h : c.accepts (compare k reference))
    (hlater : compare k k' = direction c.ascends) : c.accepts (compare k' reference) := by
  cases c with
  | atLeast =>
    have hgt : compare k' k = .gt := Std.OrientedCmp.gt_of_lt hlater
    exact Ordering.isGE_of_eq_gt (Std.TransCmp.gt_of_gt_of_isGE hgt h)
  | above =>
    have hgt : compare k' k = .gt := Std.OrientedCmp.gt_of_lt hlater
    have hk : compare k reference = .gt := Ordering.isGT_iff_eq_gt.mp h
    exact Ordering.isGT_iff_eq_gt.mpr (Std.TransCmp.gt_trans hgt hk)
  | below =>
    have hlt : compare k' k = .lt := Std.OrientedCmp.lt_of_gt hlater
    have hk : compare k reference = .lt := Ordering.isLT_iff_eq_lt.mp h
    exact Ordering.isLT_iff_eq_lt.mpr (Std.TransCmp.lt_trans hlt hk)
  | atMost =>
    have hlt : compare k' k = .lt := Std.OrientedCmp.lt_of_gt hlater
    exact Ordering.isLE_of_eq_lt (Std.TransCmp.lt_of_lt_of_isLE hlt h)

/-- A comparison is not satisfied by what lies in front of the reference. -/
theorem ne_direction_of_accepts {c : Comparison} {o : Ordering} (h : c.accepts o) :
    o ≠ direction c.ascends := by
  revert h
  cases c <;> cases o <;> decide

/-- If two facing comparisons have something between their references, each accepts the reference
of the other. -/
theorem accepts_reference {α : Type} [Ord α] [Std.TransOrd α] {c d : Comparison} {k a b : α}
    (hfacing : c.ascends ≠ d.ascends) (hc : c.accepts (compare k a))
    (hd : d.accepts (compare k b)) : c.accepts (compare b a) := by
  have hend : compare k b = .eq ∨ compare k b = direction c.ascends := by
    have hne := ne_direction_of_accepts hd
    revert hfacing hne
    cases c.ascends <;> cases d.ascends <;> cases compare k b <;> decide
  rcases hend with heq | hlater
  · rwa [← Std.TransCmp.congr_left heq]
  · exact accepts_of_direction hc hlater

end Comparison

/-! ## Entries in the order of a scan -/

namespace OrderedMap

variable {α β : Type} [Ord α]

/-- The entries in the order in which a scan in a direction meets them. -/
def inOrder (m : OrderedMap α β) (forward : Bool) : List (α × β) :=
  if forward then m.toList else m.toList.reverse

/-- A scan of everything meets as many entries as there are. -/
theorem length_inOrder (m : OrderedMap α β) (forward : Bool) :
    (m.inOrder forward).length = m.size := by
  cases forward with
  | true => rfl
  | false => exact List.length_reverse

/-- A scan of everything meets the entries in its direction. -/
theorem pairwise_inOrder [Std.TransOrd α] (m : OrderedMap α β) (forward : Bool) :
    (m.inOrder forward).Pairwise fun a b => compare a.1 b.1 = Comparison.direction forward := by
  cases forward with
  | true => exact m.ascending
  | false =>
    refine List.pairwise_reverse.mpr (m.ascending.imp ?_)
    intro a b hlt
    exact Std.OrientedCmp.gt_of_lt hlt

/-- A scan of everything meets exactly what is stored. -/
theorem mem_inOrder_iff [Std.TransOrd α] [Std.LawfulEqOrd α] {m : OrderedMap α β}
    {forward : Bool} {key : α} {value : β} :
    (key, value) ∈ m.inOrder forward ↔ m.lookup key = some value := by
  rw [← mem_toList_iff]
  cases forward with
  | true => rfl
  | false => exact List.mem_reverse

end OrderedMap

namespace Entries

/-- A seek finds the first entry in its direction that satisfies the comparison. -/
theorem seek_eq_find? (m : Entries) (c : Comparison) (reference : Bytes) :
    m.seek c reference = (m.inOrder c.ascends).find? fun e => c.holds e.1 reference := by
  unfold seek OrderedMap.inOrder
  split <;> rfl

/-- The entry behind the current one. -/
theorem seek_beyond {m : Entries} {forward : Bool} {before rest : List Entry} {e : Entry}
    (h : m.inOrder forward = before ++ e :: rest) :
    m.seek (Comparison.beyond forward) e.1 = rest.head? := by
  have hdirection : (Comparison.beyond forward).ascends = forward := by cases forward <;> rfl
  have hpairs := m.pairwise_inOrder forward
  rw [h, List.pairwise_append, List.pairwise_cons] at hpairs
  obtain ⟨-, ⟨hrest, -⟩, hbefore⟩ := hpairs
  -- nothing up to this entry is beyond it, and everything later is
  rw [seek_eq_find?, hdirection, h, List.find?_append, List.find?_eq_none.mpr, Option.none_or,
    List.find?_cons_of_neg]
  · cases rest with
    | nil => rfl
    | cons x rest =>
      rw [List.find?_cons_of_pos]
      · rfl
      · exact Comparison.beyond_holds_iff.mpr (hrest x List.mem_cons_self)
  · have hself : compare e.1 e.1 = .eq := Std.ReflCmp.compare_self
    rw [Comparison.beyond_holds_iff, hself]
    cases forward <;> decide
  · intro x hx
    rw [Comparison.beyond_holds_iff]
    have hlater := hbefore x hx e List.mem_cons_self
    cases forward with
    | true =>
      rw [Std.OrientedCmp.gt_of_lt hlater]
      decide
    | false =>
      rw [Std.OrientedCmp.lt_of_gt hlater]
      decide

end Entries

/-! ## Positions -/

namespace Scan

/-- The entries in front of a scan, the one that it stands on first, whatever its end. -/
def Ahead (s : Scan) (rest : List Entry) : Prop :=
  (∃ before, s.cursor.entries.inOrder s.forward = before ++ rest) ∧ s.cursor.current = rest.head?

variable {s : Scan} {rest : List Entry} {e : Entry}

/-- The entries that a scan still passes before its end. -/
def untilStop (s : Scan) (rest : List Entry) : List Entry :=
  rest.takeWhile fun e => s.stopBound.holds e.1 s.stop

/-- A scan stands on the first entry before it, unless it has reached its end. -/
theorem Ahead.entry?_eq (h : s.Ahead rest) : s.entry? = (s.untilStop rest).head? := by
  unfold entry? untilStop
  rw [h.2]
  cases rest with
  | nil => rfl
  | cons e rest =>
    rw [List.head?_cons, List.takeWhile_cons]
    split
    · next hstop => simp [Option.filter, hstop]
    · next hstop => simp [Option.filter, hstop]

/-- A move passes one entry. -/
theorem Ahead.next (h : s.Ahead (e :: rest)) (hstop : s.stopBound.holds e.1 s.stop) :
    ∃ t : Scan, s.next = .ok t ∧ t.Ahead rest ∧ t.schema = s.schema ∧
      t.stopBound = s.stopBound ∧ t.stop = s.stop := by
  have hvalid : s.isValid = true := by
    rw [isValid, h.entry?_eq, untilStop, List.takeWhile_cons, if_pos hstop]
    rfl
  obtain ⟨⟨before, hbefore⟩, hcurrent⟩ := h
  have hseek := Entries.seek_beyond hbefore
  refine ⟨{ s with cursor := if s.forward then s.cursor.next else s.cursor.prev }, ?_, ?_, rfl,
    rfl, rfl⟩
  · rw [Scan.next, if_pos hvalid]
  · cases hforward : s.forward with
    | true =>
      rw [hforward] at hseek hbefore
      refine ⟨⟨before ++ [e], ?_⟩, ?_⟩
      · simpa [Cursor.next, hforward] using hbefore
      · simp only [Cursor.next, hcurrent, if_true, List.head?_cons, Option.bind_some]
        exact hseek
    | false =>
      rw [hforward] at hseek hbefore
      refine ⟨⟨before ++ [e], ?_⟩, ?_⟩
      · simpa [Cursor.prev, hforward] using hbefore
      · simp only [Cursor.prev, hcurrent, Bool.false_eq_true, if_false, List.head?_cons,
          Option.bind_some]
        exact hseek

/-! ## Starts -/

variable {entries : Entries} {schema : Schema} {startBound stopBound : Comparison}
variable {startKey stop : Bytes}

/-- The entries between two bounds, in the order of a scan. -/
def between (entries : Entries) (startBound : Comparison) (startKey : Bytes)
    (stopBound : Comparison) (stop : Bytes) : List Entry :=
  (entries.inOrder startBound.ascends).filter fun e =>
    startBound.holds e.1 startKey && stopBound.holds e.1 stop

/-- A scan starts before the entries that satisfy its start. -/
theorem ahead_start : (Scan.start entries schema startBound startKey stopBound stop).Ahead
    ((entries.inOrder startBound.ascends).filter fun e => startBound.holds e.1 startKey) := by
  refine ⟨⟨_, (filter_not_append_filter ?_).symm⟩, ?_⟩
  · refine (entries.pairwise_inOrder startBound.ascends).imp ?_
    intro a b hlater ha
    exact Comparison.accepts_of_direction ha hlater
  · rw [List.head?_filter]
    exact entries.seek_eq_find? startBound startKey

/-- Those before its end are the entries between its bounds, if these face each other. -/
theorem untilStop_start (hfacing : (startBound.ascends != stopBound.ascends) = true) :
    (Scan.start entries schema startBound startKey stopBound stop).untilStop
        ((entries.inOrder startBound.ascends).filter fun e => startBound.holds e.1 startKey) =
      between entries startBound startKey stopBound stop := by
  -- seen against the direction of the scan, the end stays satisfied
  have hturn : Comparison.direction stopBound.ascends =
      (Comparison.direction startBound.ascends).swap := by
    revert hfacing
    cases startBound.ascends <;> cases stopBound.ascends <;> decide
  have hstops : ((entries.inOrder startBound.ascends).filter fun e =>
      startBound.holds e.1 startKey).Pairwise fun a b =>
        stopBound.holds b.1 stop → stopBound.holds a.1 stop := by
    refine ((entries.pairwise_inOrder startBound.ascends).imp ?_).filter _
    intro a b hlater hb
    refine Comparison.accepts_of_direction hb ?_
    rw [hturn, ← hlater]
    exact Std.OrientedCmp.eq_swap
  rw [untilStop, between]
  show List.takeWhile (fun e : Entry => stopBound.holds e.1 stop) _ = _
  rw [takeWhile_eq_filter hstops, List.filter_filter]
  refine List.filter_congr fun e _ => ?_
  exact Bool.and_comm _ _

/-- **A scan starts** on the first entry between its bounds. -/
theorem entry?_start (hfacing : (startBound.ascends != stopBound.ascends) = true) :
    Scan.entry? (Scan.start entries schema startBound startKey stopBound stop) =
      (between entries startBound startKey stopBound stop).head? := by
  rw [Ahead.entry?_eq ahead_start, untilStop_start hfacing]

/-- A scan of a single key stands on its entry. -/
theorem entry?_point (key : Bytes) :
    Scan.entry? (Scan.start entries schema .atLeast key .atMost key) =
      (entries.lookup key).map fun value => (key, value) := by
  rw [entry?_start rfl, ← OrderedMap.head?_filter_eq, between]
  simp only [Comparison.holds, Comparison.accepts_atLeast_and_atMost]
  rfl

end Scan

/-! ## Rows -/

namespace Database

variable {κ : Type}

/-- A scan on an entry that can be decoded reads its row. -/
theorem fetch_eq {s : Scan} {e : Entry} {values : List Value} (hentry : s.entry? = some e)
    (hrow : Scan.decodeRow s.schema e = .ok values) (db : Database κ) :
    fetch s db = .ok (Record.ofRow s.schema values) db := by
  unfold fetch Scan.row
  rw [hentry]
  simp only [hrow]
  rfl

/-- A scan on an entry that cannot be decoded ends the use of the database. -/
theorem fetch_undecodable {s : Scan} {e : Entry} {error : CodecError} (hentry : s.entry? = some e)
    (hrow : Scan.decodeRow s.schema e = .error error) (db : Database κ) :
    fetch s db = .error (.undecodable error) { db with poison := some error.message } := by
  unfold fetch Scan.row
  rw [hentry]
  simp only [hrow, poisonWith, Action.modify_bind]
  rw [if_neg (by simp)]
  rfl

/-- Where the entry of a position can be decoded, one row is read, and the others from behind it. -/
theorem take_succ {s : Scan} {rest rows : List Entry} {e : Entry} {values : List Value}
    (h : s.Ahead rest) (hrows : s.untilStop rest = e :: rows)
    (hrow : Scan.decodeRow s.schema e = .ok values) :
    ∃ (t : Scan) (others : List Entry), t.Ahead others ∧ t.untilStop others = rows ∧
      t.schema = s.schema ∧ ∀ (n : Nat) (db : Database κ),
        take (n + 1) s db = ((Record.ofRow s.schema values :: ·) <$> take n t) db := by
  have hentry := h.entry?_eq
  rw [hrows] at hentry
  obtain ⟨others, rfl, hstop, hothers⟩ : ∃ others, rest = e :: others ∧
      s.stopBound.holds e.1 s.stop ∧ s.untilStop others = rows := by
    cases rest with
    | nil => cases hrows
    | cons x others =>
      rw [Scan.untilStop, List.takeWhile_cons] at hrows
      split at hrows
      · next hstop =>
        obtain ⟨rfl, hothers⟩ := List.cons.inj hrows
        exact ⟨others, rfl, hstop, hothers⟩
      · cases hrows
  obtain ⟨t, hnext, hahead, hschema, hbound, hstopKey⟩ := h.next hstop
  refine ⟨t, others, hahead, ?_, hschema, ?_⟩
  · rw [Scan.untilStop, hbound, hstopKey]
    exact hothers
  · intro n db
    rw [take, if_pos (by rw [Scan.isValid, hentry]; rfl),
      Action.bind_ok (fetch_eq hentry hrow db), hnext, Action.ofExcept_bind_ok]
    rfl

/-- At most `n` rows from a position on, where it is known what the entries up to the end are
decoded to. -/
theorem take_eq {α : Type} {stored : α → Entry} {values : α → List Value} {rows : List α}
    {rest : List Entry} (n : Nat) {s : Scan} (h : s.Ahead rest)
    (hrows : s.untilStop rest = rows.map stored)
    (hdecode : ∀ row ∈ rows, Scan.decodeRow s.schema (stored row) = .ok (values row))
    (db : Database κ) :
    take n s db = .ok ((rows.take n).map fun row => Record.ofRow s.schema (values row)) db := by
  -- each move passes one row, so the rows shrink with the number of moves
  induction n generalizing s rest rows with
  | zero => rfl
  | succ n ih =>
    cases rows with
    | nil =>
      have hentry := h.entry?_eq
      rw [hrows] at hentry
      rw [take, if_neg]
      · rfl
      · rw [Scan.isValid, hentry]
        exact Bool.false_ne_true
    | cons row rows =>
      obtain ⟨t, others, hahead, hothers, hschema, htake⟩ :=
        take_succ (κ := κ) h hrows (hdecode row List.mem_cons_self)
      have hrest := ih hahead hothers fun r hr => by
        rw [hschema]
        exact hdecode r (List.mem_cons_of_mem _ hr)
      rw [hschema] at hrest
      rw [htake, Action.map_ok _ hrest]
      rfl

/-- Reading stops at the first entry that cannot be decoded, and ends the use of the database. -/
theorem take_undecodable {passed rows rest : List Entry} {e : Entry} {error : CodecError}
    {n : Nat} {s : Scan} (h : s.Ahead rest) (hrows : s.untilStop rest = passed ++ e :: rows)
    (hpassed : ∀ x ∈ passed, ∃ values, Scan.decodeRow s.schema x = .ok values)
    (he : Scan.decodeRow s.schema e = .error error) (hn : passed.length < n) (db : Database κ) :
    take n s db = .error (.undecodable error) { db with poison := some error.message } := by
  induction passed generalizing n s rest with
  | nil =>
    obtain ⟨n, rfl⟩ := Nat.exists_eq_succ_of_ne_zero (Nat.ne_of_gt hn)
    have hentry : s.entry? = some e := by
      rw [h.entry?_eq, hrows]
      rfl
    rw [take, if_pos (by rw [Scan.isValid, hentry]; rfl),
      Action.bind_error (fetch_undecodable hentry he db)]
  | cons x passed ih =>
    obtain ⟨n, rfl⟩ := Nat.exists_eq_succ_of_ne_zero (Nat.ne_of_gt (Nat.zero_lt_of_lt hn))
    obtain ⟨values, hvalues⟩ := hpassed x List.mem_cons_self
    obtain ⟨t, others, hahead, hothers, hschema, htake⟩ := take_succ (κ := κ) h hrows hvalues
    rw [htake, Action.map_error]
    refine ih hahead hothers ?_ ?_ (Nat.lt_of_succ_lt_succ hn)
    · intro y hy
      rw [hschema]
      exact hpassed y (List.mem_cons_of_mem _ hy)
    · rw [hschema]
      exact he

/-- **The rows of a scan** are those of the entries between its bounds, in its direction. -/
theorem take_start {α : Type} {stored : α → Entry} {values : α → List Value} {rows : List α}
    {entries : Entries} {schema : Schema} {startBound stopBound : Comparison}
    {startKey stop : Bytes} (hfacing : (startBound.ascends != stopBound.ascends) = true)
    (hrows : Scan.between entries startBound startKey stopBound stop = rows.map stored)
    (hdecode : ∀ row ∈ rows, Scan.decodeRow schema (stored row) = .ok (values row)) (n : Nat)
    (db : Database κ) :
    take n (Scan.start entries schema startBound startKey stopBound stop) db =
      .ok ((rows.take n).map fun row => Record.ofRow schema (values row)) db :=
  take_eq n Scan.ahead_start ((Scan.untilStop_start hfacing).trans hrows) hdecode db

end Database

end PagedTables
