/-
# Cursors as positions

A cursor keeps the entry that it stands on and looks up its neighbour at each move. It moves as
an index into the entries in key order does, that is lost once it passes an end.

* `Entries.StartsAt` : the position of the least or greatest entry that satisfies a comparison;
* `Cursor.move_on` : a move of a cursor is a move of its position;
* `Cursor.trail_onward` : moving on in one direction visits all that lies ahead;
* `Cursor.seek_indexed` : a cursor that has sought an entry is an index, whatever its moves.
-/
import Mathlib
import PagedTables.Store.Cursor
import PagedTables.Proofs.Tables.Scan

namespace PagedTables

/-! ## Positions -/

namespace Entries

variable {m : Entries} {c : Comparison} {reference : Bytes}

/-- The number of an entry in key order. -/
abbrev Index (m : Entries) : Type :=
  Fin m.toList.length

/-- Where a cursor starts that seeks a comparison: on the entry with the least or greatest key
that satisfies it, or nowhere if there is none. -/
def StartsAt (m : Entries) (c : Comparison) (reference : Bytes) : Option m.Index → Prop
  | some i => c.holds (m.toList.get i).1 reference ∧
      ∀ e ∈ m.toList, c.holds e.1 reference →
        if c.ascends then (compare (m.toList.get i).1 e.1).isLE
        else (compare (m.toList.get i).1 e.1).isGE
  | none => ∀ e ∈ m.toList, ¬ c.holds e.1 reference

/-- The entries that satisfy a comparison, in its direction. -/
def satisfying (m : Entries) (c : Comparison) (reference : Bytes) : List Entry :=
  (m.inOrder c.ascends).filter fun e => c.holds e.1 reference

/-- A seek goes to the first of the entries that satisfy the comparison, in its direction. -/
theorem head?_satisfying : (m.satisfying c reference).head? = m.seek c reference := by
  rw [satisfying, List.head?_filter, seek_eq_find?]

/-- The candidates of a seek are all entries that satisfy the comparison. -/
theorem mem_satisfying_iff {e : Entry} :
    e ∈ m.satisfying c reference ↔ e ∈ m.toList ∧ c.holds e.1 reference := by
  rw [satisfying, List.mem_filter]
  unfold OrderedMap.inOrder
  split
  · rfl
  · rw [List.mem_reverse]

/-- The candidates of a seek stand in the direction of the cursor. -/
theorem pairwise_satisfying :
    (m.satisfying c reference).Pairwise fun a b =>
      compare a.1 b.1 = Comparison.direction c.ascends :=
  (m.pairwise_inOrder c.ascends).filter _

/-- What satisfies a comparison lies behind what does not. -/
theorem exists_before_satisfying :
    ∃ before, m.inOrder c.ascends = before ++ m.satisfying c reference := by
  refine ⟨_, (filter_not_append_filter ?_).symm⟩
  refine (m.pairwise_inOrder c.ascends).imp ?_
  intro a b hlater ha
  exact Comparison.accepts_of_direction ha hlater

/-- **A search lands** on the least or greatest entry that satisfies its comparison. -/
theorem startsAt_seek (m : Entries) (c : Comparison) (reference : Bytes) :
    ∃ start : Option m.Index,
      m.StartsAt c reference start ∧ m.seek c reference = start.map m.toList.get := by
  have hmem : ∀ e, e ∈ m.satisfying c reference ↔ e ∈ m.toList ∧ c.holds e.1 reference :=
    fun _ => mem_satisfying_iff
  have hpairs : (m.satisfying c reference).Pairwise fun a b =>
      compare a.1 b.1 = Comparison.direction c.ascends := pairwise_satisfying
  rw [← head?_satisfying]
  generalize m.satisfying c reference = found at hmem hpairs
  cases found with
  | nil =>
    refine ⟨none, ?_, rfl⟩
    intro e he hholds
    exact List.not_mem_nil ((hmem e).mpr ⟨he, hholds⟩)
  | cons x rest =>
    obtain ⟨hx, hholds⟩ := (hmem x).mp List.mem_cons_self
    obtain ⟨i, hi⟩ := List.mem_iff_get.mp hx
    refine ⟨some i, ?_, by rw [Option.map_some, hi]; rfl⟩
    show c.holds (m.toList.get i).1 reference ∧ _
    rw [hi]
    refine ⟨hholds, ?_⟩
    intro e he hsat
    -- any other entry that satisfies it comes later in its direction
    have hlater : compare x.1 e.1 = .eq ∨ compare x.1 e.1 = Comparison.direction c.ascends := by
      rcases List.mem_cons.mp ((hmem e).mpr ⟨he, hsat⟩) with rfl | hrest
      · exact .inl Std.ReflCmp.compare_self
      · exact .inr ((List.pairwise_cons.mp hpairs).1 e hrest)
    revert hlater
    cases c.ascends <;> cases compare x.1 e.1 <;> decide

end Entries

/-- The move in the direction of a comparison. -/
def Comparison.onward (c : Comparison) : Cursor.Move :=
  if c.ascends then .up else .down

namespace Cursor

/-! ## Moves of a position -/

/-- The position after a move. An end that is passed is not entered again. -/
def Move.step {n : Nat} : Option (Fin n) → Move → Option (Fin n)
  | none, _ => none
  | some i, .up => if h : i.val + 1 < n then some ⟨i.val + 1, h⟩ else none
  | some ⟨0, _⟩, .down => none
  | some ⟨i + 1, h⟩, .down => some ⟨i, Nat.lt_of_succ_lt h⟩

/-- A cursor at a position. -/
def on (m : Entries) (position : Option m.Index) : Cursor :=
  ⟨m, position.map m.toList.get⟩

variable {m : Entries}

/-- The entries above an index and, from it downwards, those below. -/
theorem inOrder_of_index (i : m.Index) :
    m.inOrder true = m.toList.take i ++ m.toList.get i :: m.toList.drop (i + 1) ∧
      m.inOrder false =
        (m.toList.drop (i + 1)).reverse ++ m.toList.get i :: (m.toList.take i).reverse := by
  have hsplit : m.toList = m.toList.take i ++ m.toList.get i :: m.toList.drop (i + 1) := by
    rw [List.get_eq_getElem, List.getElem_cons_drop, List.take_append_drop]
  refine ⟨hsplit, ?_⟩
  calc m.inOrder false
      = (m.toList.take i ++ m.toList.get i :: m.toList.drop (i + 1)).reverse :=
        congrArg List.reverse hsplit
    _ = _ := by
        rw [List.reverse_append, List.reverse_cons, List.append_assoc, List.singleton_append]

/-- **A move of a cursor** is a move of its position. -/
theorem move_on (position : Option m.Index) (move : Move) :
    (on m position).move move = on m (Move.step position move) := by
  cases position with
  | none => cases move <;> rfl
  | some i =>
    obtain ⟨hup, hdown⟩ := inOrder_of_index i
    cases move with
    | up =>
      have hseek : (on m (some i)).next = ⟨m, (m.toList.drop (i + 1)).head?⟩ :=
        congrArg (Cursor.mk m) (Entries.seek_beyond hup)
      rw [Cursor.move, hseek, List.head?_drop, Move.step]
      by_cases h : i.val + 1 < m.toList.length
      · rw [dif_pos h, List.getElem?_eq_getElem h]
        rfl
      · rw [dif_neg h, List.getElem?_eq_none (Nat.le_of_not_lt h)]
        rfl
    | down =>
      have hseek : (on m (some i)).prev = ⟨m, (m.toList.take i).reverse.head?⟩ :=
        congrArg (Cursor.mk m) (Entries.seek_beyond hdown)
      rw [Cursor.move, hseek, List.head?_reverse]
      obtain ⟨i, hi⟩ := i
      cases i with
      | zero => rw [List.take_zero]; rfl
      | succ i =>
        have hi' := Nat.lt_of_succ_lt hi
        rw [List.take_add_one, List.getElem?_eq_getElem hi', Option.toList_some,
          List.getLast?_concat]
        rfl

/-- A step up from an index that is not the last one is undone by a step down. -/
theorem step_up_down {n : Nat} {i : Fin n} (h : i.val + 1 < n) :
    Move.step (Move.step (some i) .up) .down = some i := by
  rw [Move.step, dif_pos h]
  rfl

/-- A step down from an index that is not the first one is undone by a step up. -/
theorem step_down_up {n : Nat} {i : Fin n} (h : 0 < i.val) :
    Move.step (Move.step (some i) .down) .up = some i := by
  obtain ⟨i, hi⟩ := i
  obtain ⟨i, rfl⟩ := Nat.exists_eq_succ_of_ne_zero (Nat.ne_of_gt h)
  exact dif_pos hi

/-! ## Sequences of moves -/

/-- The cursor after moves. -/
def after (c : Cursor) (moves : List Move) : Cursor :=
  moves.foldl move c

/-- Moves from a position lead to the position after these steps. -/
theorem after_on (position : Option m.Index) (moves : List Move) :
    (on m position).after moves = on m (moves.foldl Move.step position) := by
  induction moves generalizing position with
  | nil => rfl
  | cons move moves ih =>
    show ((on m position).move move).after moves = _
    rw [move_on, ih]
    rfl

/-- What a cursor shows on its way are the entries at the positions that it passes. -/
theorem trail_on (position : Option m.Index) (moves : List Move) :
    (on m position).trail moves =
      (moves.scanl Move.step position).map (Option.map m.toList.get) := by
  induction moves generalizing position with
  | nil => rfl
  | cons move moves ih =>
    rw [trail, move_on, ih, List.scanl_cons, List.map_cons]
    rfl

/-- A lost position stays lost. -/
theorem foldl_step_none {n : Nat} (moves : List Move) :
    moves.foldl Move.step (none : Option (Fin n)) = none := by
  induction moves with
  | nil => rfl
  | cons _ moves ih => exact ih

/-- Moves in one direction visit all entries that lie ahead, and then pass the end. -/
theorem trail_onward {cursor : Cursor} {c : Comparison} {before ahead : List Entry}
    (hentries : cursor.entries.inOrder c.ascends = before ++ ahead)
    (hcurrent : cursor.current = ahead.head?) :
    cursor.trail (List.replicate ahead.length c.onward) = ahead.map some ++ [none] := by
  -- each move passes one of the entries ahead
  induction ahead generalizing cursor before with
  | nil =>
    show [cursor.current] = _
    rw [hcurrent]
    rfl
  | cons e ahead ih =>
    have hmove : (cursor.move c.onward).entries = cursor.entries ∧
        (cursor.move c.onward).current = ahead.head? := by
      have hseek := Entries.seek_beyond hentries
      unfold Comparison.onward
      cases hup : c.ascends with
      | true =>
        rw [hup] at hseek
        refine ⟨rfl, ?_⟩
        show cursor.current.bind _ = _
        rw [hcurrent]
        exact hseek
      | false =>
        rw [hup] at hseek
        refine ⟨rfl, ?_⟩
        show cursor.current.bind _ = _
        rw [hcurrent]
        exact hseek
    have hahead : (cursor.move c.onward).entries.inOrder c.ascends = (before ++ [e]) ++ ahead := by
      rw [hmove.1, hentries, List.append_assoc, List.singleton_append]
    rw [List.length_cons, List.replicate_succ, trail, hcurrent, ih hahead hmove.2]
    rfl

/-! ## Cursors that have sought an entry -/

variable {c : Comparison} {reference : Bytes}

/-- An index whose entry is not the last one is not the last one. -/
theorem lt_of_get_ne_getLast? {i : m.Index} (h : m.toList.getLast? ≠ some (m.toList.get i)) :
    i.val + 1 < m.toList.length := by
  refine Nat.lt_of_le_of_ne i.isLt fun hlast => h ?_
  rw [List.getLast?_eq_getElem?, ← hlast, Nat.add_sub_cancel]
  exact List.getElem?_eq_getElem i.isLt

/-- An index whose entry is not the first one is not the first one. -/
theorem pos_of_get_ne_head? {i : m.Index} (h : m.toList.head? ≠ some (m.toList.get i)) :
    0 < i.val := by
  refine Nat.pos_of_ne_zero fun hfirst => h ?_
  rw [List.head?_eq_getElem?, ← hfirst]
  exact List.getElem?_eq_getElem i.isLt

/-- **A cursor is an index.** It starts at the least or greatest entry that satisfies what it
seeks, and each sequence of moves takes it to the entry whose index they lead to. Off the
entries it stays; next to an entry it can return to it; and moves in the direction of the
search visit what satisfies the comparison, in order and each entry once. -/
theorem seek_indexed (m : Entries) (c : Comparison) (reference : Bytes) :
    (∃ start : Option m.Index, m.StartsAt c reference start ∧
      ∀ moves, (seek m c reference).after moves = on m (moves.foldl Move.step start) ∧
        (seek m c reference).trail moves =
          (moves.scanl Move.step start).map (Option.map m.toList.get)) ∧
    (∀ moves more, ((seek m c reference).after moves).isValid = false →
      ((seek m c reference).after (moves ++ more)).isValid = false) ∧
    (∀ moves e, ((seek m c reference).after moves).current = some e →
      (m.toList.getLast? ≠ some e →
        (seek m c reference).after (moves ++ [.up, .down]) = (seek m c reference).after moves) ∧
      (m.toList.head? ≠ some e →
        (seek m c reference).after (moves ++ [.down, .up]) = (seek m c reference).after moves)) ∧
    (seek m c reference).trail (List.replicate (m.satisfying c reference).length c.onward) =
      (m.satisfying c reference).map some ++ [none] ∧
    (∀ e, e ∈ m.satisfying c reference ↔ e ∈ m.toList ∧ c.holds e.1 reference) ∧
    (m.satisfying c reference).Pairwise fun a b =>
      compare a.1 b.1 = Comparison.direction c.ascends := by
  obtain ⟨start, hstart, hseek⟩ := m.startsAt_seek c reference
  have hon : seek m c reference = on m start := congrArg (Cursor.mk m) hseek
  have hafter : ∀ moves, (seek m c reference).after moves = on m (moves.foldl Move.step start) :=
    fun moves => hon ▸ after_on start moves
  refine ⟨⟨start, hstart, ?_⟩, ?_, ?_, ?_, fun e => Entries.mem_satisfying_iff,
    Entries.pairwise_satisfying⟩
  · intro moves
    exact ⟨hafter moves, hon ▸ trail_on start moves⟩
  · intro moves more hinvalid
    rw [hafter] at hinvalid ⊢
    rw [List.foldl_append]
    cases hposition : moves.foldl Move.step start with
    | none =>
      rw [foldl_step_none]
      rfl
    | some i =>
      rw [hposition] at hinvalid
      cases hinvalid
  · intro moves e hcurrent
    rw [hafter] at hcurrent
    simp only [hafter, List.foldl_append]
    cases hposition : moves.foldl Move.step start with
    | none =>
      rw [hposition] at hcurrent
      cases hcurrent
    | some i =>
      rw [hposition] at hcurrent
      obtain rfl : m.toList.get i = e := Option.some.inj hcurrent
      refine ⟨fun hlast => ?_, fun hfirst => ?_⟩
      · exact congrArg (on m) (step_up_down (lt_of_get_ne_getLast? hlast))
      · exact congrArg (on m) (step_down_up (pos_of_get_ne_head? hfirst))
  · obtain ⟨before, hbefore⟩ : ∃ before, m.inOrder c.ascends =
        before ++ m.satisfying c reference := Entries.exists_before_satisfying
    exact trail_onward hbefore Entries.head?_satisfying.symm

end Cursor

end PagedTables
