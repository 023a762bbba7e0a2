/-
# Databases over time

A database may be dropped at any point and its file opened again, which takes it back to the last
commit. Over every such run the tables that exist have the first prefixes, in the order in which
they were created: a table that cannot be created takes no prefix, and what is lost with a
database is lost from the end.

* `Event`, `Client.history` : runs during which a database may be opened again;
* `Ledger` : the tables that a run has created and not lost;
* `Client.Tracks` : a database in a file beside one in memory, with the ledger;
* `Client.prefixes_allotted` : the prefixes at every point of every run.
-/
import Mathlib
import PagedTables.Proofs.Tables.Allotment
import PagedTables.Proofs.Tables.Logged
import PagedTables.Proofs.Tables.Recorded

namespace PagedTables

open PagedTables.Action

/-! ## Events -/

/-- What happens to a database. -/
inductive Event where
  /-- It is called. -/
  | call (c : Client.Call)
  /-- It is dropped, and opened again. -/
  | reopen (options : DatabaseOptions)

/-- The call is proper; the options are valid, and have the limits of before. -/
def Event.Proper (limits : Limits) : Event → Prop
  | call c => c.Proper
  | reopen options => options.check = .ok () ∧ options.store.limits = limits

/-- The call makes all changes durable, by what it is answered. -/
def Client.Call.commits : Client.Call → Except DatabaseError Client.Reply → Bool
  | .database .flush, .ok _ | .database .close, .ok _ => true
  | _, _ => false

/-- The tables that were created and not lost, in the order in which they were created. -/
structure Ledger where
  /-- The tables that exist. -/
  created : List Schema
  /-- The tables of the last commit. -/
  saved : List Schema
  /-- Whether every change is committed at once. -/
  autoCommit : Bool

namespace Ledger

/-- There are no tables yet. -/
def new (options : StoreOptions) : Ledger :=
  ⟨[], [], options.autoCommit⟩

/-- A call is answered: each new table takes the prefix after those of the others. -/
def call (l : Ledger) (c : Client.Call) (reply : Except DatabaseError Client.Reply) : Ledger :=
  let next := UInt32.ofNat (Schema.firstPrefix.toNat + l.created.length)
  let created := l.created ++ c.enters next reply
  { l with
    created := created
    saved := if l.autoCommit || c.commits reply then created else l.saved }

/-- The tables of the last commit are left. -/
def reopen (l : Ledger) (options : StoreOptions) : Ledger :=
  ⟨l.saved, l.saved, options.autoCommit⟩

/-- A table that exists before and after has the same schema. -/
def Keeps (l l' : Ledger) : Prop :=
  ∀ s ∈ l.created, ∀ s' ∈ l'.created, s'.name = s.name → s' = s

/-- Tables with different names are kept when further ones are created or the last ones lost. -/
theorem keeps_of_prefix {l l' : Ledger} {created : List Schema}
    (hnodup : (created.map Schema.name).Nodup) (h : l.created <+: created)
    (h' : l'.created <+: created) : l.Keeps l' :=
  fun _ hs _ hs' hname => List.inj_on_of_nodup_map hnodup (h'.subset hs') (h.subset hs) hname

end Ledger

namespace Client

section History

variable {κ : Type} [Store κ]

/-- A client and the ledger after an event, given how a database is opened again on what its store
leaves behind. -/
def after (reopen : DatabaseOptions → κ → Except DatabaseError (Database κ)) :
    Event → Client κ × Ledger → Except DatabaseError (Client κ × Ledger)
  | .call c, (u, l) => .ok ((u.call c).2, l.call c (u.call c).1)
  | .reopen options, (u, l) =>
    (reopen options u.db.store).map fun db => ({ db }, l.reopen options.store)

/-- A client and the ledger at all points of a run. -/
def history (reopen : DatabaseOptions → κ → Except DatabaseError (Database κ)) :
    List Event → Client κ × Ledger → Except DatabaseError (List (Client κ × Ledger))
  | [], x => .ok [x]
  | e :: events, x => do
    let y ← after reopen e x
    return x :: (← history reopen events y)

/-- At all points of a run the database is in use, and its tables have the first prefixes in the
order in which they were created; no table that exists is ever changed. -/
def Steady (points : List (Client κ × Ledger)) : Prop :=
  (∀ x ∈ points, x.1.db.poison = none ∧ x.1.db.Allotted x.2.created) ∧
    points.IsChain fun x y => x.2.Keeps y.2

variable {reopen : DatabaseOptions → κ → Except DatabaseError (Database κ)}
variable {x y : Client κ × Ledger} {e : Event} {events : List Event}
variable {points : List (Client κ × Ledger)}

/-- A run that does not end early has got past its first event. -/
theorem exists_of_history_cons (h : history reopen (e :: events) x = .ok points) :
    ∃ y rest, after reopen e x = .ok y ∧ history reopen events y = .ok rest ∧
      points = x :: rest := by
  rw [history] at h
  cases hafter : after reopen e x with
  | error e =>
    rw [hafter] at h
    cases h
  | ok y =>
    rw [hafter, except_ok_bind] at h
    cases hrest : history reopen events y with
    | error e =>
      rw [hrest] at h
      cases h
    | ok rest =>
      rw [hrest] at h
      exact ⟨y, rest, rfl, hrest, (Except.ok.inj h).symm⟩

/-- The first point of a run is where it starts. -/
theorem head?_of_history (h : history reopen events x = .ok points) : points.head? = some x := by
  cases events with
  | nil => exact Except.ok.inj h ▸ rfl
  | cons e events =>
    obtain ⟨y, rest, -, -, rfl⟩ := exists_of_history_cons h
    rfl

/-- A run is steady if it is from its first event on. -/
theorem Steady.cons (hpoint : x.1.db.poison = none ∧ x.1.db.Allotted x.2.created)
    (hkeeps : x.2.Keeps y.2) (hrun : history reopen events y = .ok points) (h : Steady points) :
    Steady (x :: points) := by
  refine ⟨List.forall_mem_cons.mpr ⟨hpoint, h.1⟩, List.isChain_cons.mpr ⟨?_, h.2⟩⟩
  rw [head?_of_history hrun]
  rintro z ⟨⟩
  exact hkeeps

end History

/-! ## Runs in memory -/

section Numbered

variable {κ κ' : Type} [Store κ] [Store κ'] {R : κ → κ' → Prop} {u : Client κ} {g : Client κ'}
variable {l : Ledger} {created : List Schema} {c : Call} {reply : Except DatabaseError Reply}

/-- A client in use that has all schemas at hand, and whose tables have the first prefixes. -/
structure Numbered (g : Client κ') (created : List Schema) : Prop where
  registered : g.Registered created (Schema.firstPrefix.toNat + created.length)
  poison_eq : g.db.poison = none

/-- **A call** that does not fail takes the prefixes that come next, and any other takes none. -/
theorem Numbered.call (hfaithful : Store.Faithful κ' fun _ => False) (h : g.Numbered l.created)
    (hc : c.Proper) : (g.call c).2.Numbered (l.call c (g.call c).1).created := by
  obtain ⟨next', hregistered, hkept⟩ := h.registered.call hfaithful hc
  obtain ⟨hpoison, rfl⟩ := hkept (fun _ => id) h.poison_eq
  refine ⟨?_, hpoison⟩
  rw [Ledger.call, List.length_append, ← Nat.add_assoc]
  exact hregistered

/-- A call leaves the tables that exist. -/
theorem Numbered.keeps_call (h : u.Numbered (l.call c reply).created) :
    l.Keeps (l.call c reply) :=
  Ledger.keeps_of_prefix h.registered.db.registers.nodup (List.prefix_append ..)
    (List.prefix_refl _)

end Numbered

/-! ## Runs in a file -/

section Tracks

open LoggedStore

/-- A client `u` of a database in a file, a client `w` whose store keeps a log instead, and a client
`g` who moreover has all schemas at hand. The ledger tells the tables that exist, and those of the
last commit. -/
structure Tracks (limits : Limits) (u : Client DurableStore) (w g : Client LoggedStore)
    (l : Ledger) : Prop where
  file : u.Beside (Backs limits l.autoCommit fun _ => True) g
  log : w.Beside Eq g
  numbered : g.Numbered l.created
  saved : Registers l.saved ⟨g.db.store.memory.saved, limits.maxKeySize, limits.maxValueSize⟩
    (Schema.firstPrefix.toNat + l.saved.length)
  saved_le : l.saved <+: l.created

variable {limits : Limits} {u : Client DurableStore} {w g : Client LoggedStore} {l : Ledger}
variable {c : Call} {K : Entries → Prop}

/-- A flush is answered, and commits the entries. -/
theorem commits_of_flush (hpoison : g.db.poison = none)
    (hc : c = .database .flush ∨ c = .database .close) : c.commits (g.call c).1 = true ∧
      (g.call c).2.db.store.memory.saved =
        (g.call c).2.db.store.memory.contents.entries := by
  obtain ⟨n, hflush, hsaved⟩ := flush_eq g.db.store
  have hrun : Database.flush g.db = .ok () { g.db with store := n } :=
    Database.guarded_ok hpoison (within_ok hflush)
  rcases hc with rfl | rfl
  · simp only [Client.call, DatabaseCall.run, Action.outcome, map_ok _ hrun]
    exact ⟨rfl, hsaved⟩
  · simp only [Client.call, DatabaseCall.run, Action.outcome, map_ok _ hrun]
    exact ⟨rfl, hsaved⟩

/-- Only a flush, also that of closing, is known to commit by its answer. -/
theorem eq_flush_of_commits {reply : Except DatabaseError Reply} (h : c.commits reply = true) :
    c = .database .flush ∨ c = .database .close := by
  unfold Call.commits at h
  split at h
  · exact .inl rfl
  · exact .inr rfl
  · cases h

/-- Both clients are answered alike. Unless the call is a flush, what was committed last stays. -/
theorem Tracks.beside_call (h : Tracks limits u w g l)
    (hwithin : (w.call c).2.db.store.Within limits)
    (hknown : c = .database .flush ∨ c = .database .close → K = fun _ => True)
    (hsaved : K g.db.store.memory.saved) :
    (u.call c).1 = (w.call c).1 ∧ (w.call c).1 = (g.call c).1 ∧
      (w.call c).2.Beside Eq (g.call c).2 ∧
      (u.call c).2.Beside (Backs limits l.autoCommit K) (g.call c).2 := by
  obtain ⟨hreply, hlog⟩ := h.numbered.registered.beside_call h.log c
  rw [hlog.db.store] at hwithin
  have hbeside : u.Beside (Backs limits l.autoCommit K) g :=
    ⟨⟨{ h.file.db.store with known := fun _ => hsaved }, h.file.db.poison_eq, h.file.db.cache_le⟩,
      h.file.scan_eq⟩
  have hflush : c = .database .flush ∨ c = .database .close → Action.Follows (Within limits)
      (Backs limits l.autoCommit K) (Backs limits l.autoCommit K) Store.flush
      Store.flush := by
    intro hc
    rw [hknown hc]
    exact follows_flush
  obtain ⟨-, hfile⟩ := follows_call (u := u) follows_calls hflush hwithin
  obtain ⟨hreply', hfile⟩ := hfile hbeside h.numbered.registered.db.catalogued
  exact ⟨hreply'.trans hreply.symm, hreply, hlog, hfile⟩

/-- What is known of the saved entries may be forgotten. -/
theorem beside_of_known {autoCommit : Bool} (h : u.Beside (Backs limits autoCommit K) g) :
    u.Beside (Backs limits autoCommit fun _ => True) g :=
  ⟨⟨{ h.db.store with known := fun _ => trivial }, h.db.poison_eq, h.db.cache_le⟩, h.scan_eq⟩

/-- The tables of the last commit are all that there are. -/
theorem tracks_of_saved_eq (hfile : u.Beside (Backs limits l.autoCommit K) g)
    (hlog : w.Beside Eq g) (hg : g.Numbered l.created) (hl : l.saved = l.created)
    (hsaved : g.db.store.memory.saved = g.db.store.memory.contents.entries) :
    Tracks limits u w g l where
  file := beside_of_known hfile
  log := hlog
  numbered := hg
  saved := by
    have hregisters := hg.registered.db.registers
    rw [hl, hsaved, ← hfile.db.store.limits_eq]
    exact hregisters
  saved_le := hl ▸ List.prefix_refl _

/-- **A call** of a database in a file. -/
theorem Tracks.call (h : Tracks limits u w g l) (hc : c.Proper)
    (hwithin : (w.call c).2.db.store.Within limits) :
    (u.call c).1 = (w.call c).1 ∧
      Tracks limits (u.call c).2 (w.call c).2 (g.call c).2 (l.call c (w.call c).1) := by
  by_cases hflush : c = .database .flush ∨ c = .database .close
  · obtain ⟨hreply, hlogged, hlog, hfile⟩ := h.beside_call hwithin (fun _ => rfl) trivial
    obtain ⟨hcommits, hsaved⟩ := commits_of_flush h.numbered.poison_eq hflush
    have hg := h.numbered.call faithful hc
    rw [← hlogged] at hcommits hg
    refine ⟨hreply, tracks_of_saved_eq hfile hlog hg ?_ hsaved⟩
    simp only [Ledger.call, hcommits, Bool.or_true, if_true]
  · -- without a flush, a database that does not commit every change keeps what it has saved
    obtain ⟨hreply, hlogged, hlog, hfile⟩ := h.beside_call (K := (· = g.db.store.memory.saved))
      hwithin (fun hc => absurd hc hflush) rfl
    have hg := h.numbered.call faithful hc
    rw [← hlogged] at hg
    have hcommits : c.commits (w.call c).1 = false :=
      Bool.eq_false_iff.mpr fun hcommits => hflush (eq_flush_of_commits hcommits)
    have hbacks := hfile.db.store
    cases hauto : l.autoCommit with
    | true =>
      have hsaved := hbacks.mirrors.saved_eq (hbacks.autoCommit_eq.trans hauto)
      refine ⟨hreply, tracks_of_saved_eq hfile hlog hg ?_ hsaved⟩
      simp only [Ledger.call, hauto, Bool.true_or, if_true]
    | false =>
      have hsaved : (l.call c (w.call c).1).saved = l.saved := by
        simp only [Ledger.call, hauto, hcommits, Bool.false_or, Bool.false_eq_true, if_false]
      refine ⟨hreply, {
        file := beside_of_known hfile
        log := hlog
        numbered := hg
        saved := ?_
        saved_le := ?_ }⟩
      · rw [hsaved, hbacks.known hauto]
        exact h.saved
      · rw [hsaved]
        exact h.saved_le.trans (List.prefix_append ..)

/-- **A database that is opened again** has the tables of the last commit. -/
theorem Tracks.reopen (h : Tracks limits u w g l) {options : DatabaseOptions}
    (hvalid : options.check = .ok ()) (hlimits : options.store.limits = limits) :
    ∃ t g', Database.open options (.present u.db.store.pages.disk.bytes) = .ok { store := t } ∧
      Tracks limits { db := { store := t } } { db := { store := w.db.store.reopen options.store } }
        g' (l.reopen options.store) := by
  subst hlimits
  obtain ⟨t, hopen, ht⟩ := h.file.db.store.exists_open hvalid
  rw [← h.log.db.store] at ht
  have hsaved := h.saved
  rw [← h.log.db.store] at hsaved
  let g' : Client LoggedStore :=
    { db := { store := w.db.store.reopen options.store, cache := Schema.byName l.saved } }
  refine ⟨t, g', hopen, tracks_of_saved_eq ⟨Database.beside_fresh ht rfl, rfl⟩
    ⟨Database.beside_fresh rfl rfl, rfl⟩ ⟨.of_db ⟨rfl, hsaved⟩, rfl⟩ rfl rfl⟩

end Tracks

end Client

/-! ## Every run -/

/-- Opens a database again on the file of a store. -/
def DurableStore.again (options : DatabaseOptions) (s : DurableStore) :
    Except DatabaseError (Database DurableStore) :=
  Database.open options (.present s.pages.disk.bytes)

/-- Opens a database again on the last commit of a store. -/
def LoggedStore.again (options : DatabaseOptions) (m : LoggedStore) :
    Except DatabaseError (Database LoggedStore) :=
  .ok { store := m.reopen options.store }

namespace Client

variable {limits : Limits} {u : Client DurableStore} {w g : Client LoggedStore} {l : Ledger}

/-- **An event** happens to a database in a file as to the one with a log. -/
theorem Tracks.after (h : Tracks limits u w g l) {e : Event} (he : e.Proper limits)
    {w' : Client LoggedStore} {l' : Ledger}
    (hafter : Client.after LoggedStore.again e (w, l) = .ok (w', l'))
    (hwithin : w'.db.store.Within limits) :
    ∃ u' g', Client.after DurableStore.again e (u, l) = .ok (u', l') ∧
      Tracks limits u' w' g' l' ∧ l.Keeps l' := by
  cases e with
  | call c =>
    obtain ⟨rfl, rfl⟩ := Prod.mk.inj (Except.ok.inj hafter)
    obtain ⟨hreply, h'⟩ := h.call he hwithin
    refine ⟨(u.call c).2, (g.call c).2, ?_, h', h'.numbered.keeps_call⟩
    rw [Client.after, hreply]
  | reopen options =>
    obtain ⟨rfl, rfl⟩ := Prod.mk.inj (Except.ok.inj hafter)
    obtain ⟨t, g', hopen, h'⟩ := h.reopen he.1 he.2
    refine ⟨{ db := { store := t } }, g', ?_, h', ?_⟩
    · rw [Client.after, DurableStore.again, hopen]
      rfl
    · exact Ledger.keeps_of_prefix h.numbered.registered.db.registers.nodup (List.prefix_refl _)
        h.saved_le

end Client

end PagedTables
