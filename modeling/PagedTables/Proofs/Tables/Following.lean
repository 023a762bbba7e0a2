/-
# Databases side by side

A database answers from the contents of its store. Which schemas are at hand does not matter, nor
does anything else about the store, as long as its changes end alike: two databases on such
stores, one of which may have to read schemas that the other has at hand, answer every call the
same.

* `Store.Follows` : stores whose changes end alike;
* `Database.Beside` : databases on such stores, the first one with fewer schemas at hand;
* `Database.follows_resolve` : a schema is the same at hand and in the catalog;
* `Client.follows_call` : every call.
-/
import PagedTables.Proofs.Following
import PagedTables.Proofs.Tables.Definition
import PagedTables.Proofs.Tables.Poison

namespace PagedTables

open PagedTables.Action

/-! ## Stores -/

/-- Related stores have the same entries. -/
def Store.Agrees {κ κ' : Type} [Store κ] [Store κ'] (R : κ → κ' → Prop) : Prop :=
  ∀ s s', R s s' → (Store.contents s).entries = (Store.contents s').entries

/-- Changes of a store end like those of another one, up to a bound on the latter. -/
structure Store.Follows {κ κ' : Type} [Store κ] [Store κ'] (Ok : κ' → Prop)
    (R : κ → κ' → Prop) : Prop where
  agrees : Store.Agrees R
  update : ∀ key value mode,
    Action.Follows Ok R R (Store.update key value mode) (Store.update key value mode)
  delete : ∀ key, Action.Follows Ok R R (Store.delete key) (Store.delete key)

/-- A store follows itself. -/
theorem Store.follows_self {κ : Type} [Store κ] : Store.Follows (κ := κ) (fun _ => True) Eq where
  agrees := fun _ _ h => by rw [h]
  update := fun _ _ _ => Action.follows_self _
  delete := fun _ => Action.follows_self _

namespace Database

variable {κ κ' : Type} {α : Type} {Ok : κ' → Prop} {R : κ → κ' → Prop}

/-- The databases have related stores, and are in use or not for the same reason. What the first
one has at hand, the second one has too. -/
structure Beside (R : κ → κ' → Prop) (db : Database κ) (db' : Database κ') : Prop where
  store : R db.store db'.store
  poison_eq : db.poison = db'.poison
  cache_le : ∀ {name s}, db.cache.lookup name = some s → db'.cache.lookup name = some s

/-- A fresh database is beside every one that is in use. -/
theorem beside_fresh {s : κ} {db' : Database κ'} (h : R s db'.store) (hpoison : db'.poison = none) :
    Beside R { store := s } db' where
  store := h
  poison_eq := hpoison.symm
  cache_le := by
    intro name s hs
    cases hs

/-- An action of databases side by side keeps them so. -/
abbrev Follows (Ok : κ' → Prop) (R : κ → κ' → Prop)
    (act : Action DatabaseError (Database κ) α) (act' : Action DatabaseError (Database κ') α) :
    Prop :=
  Action.Follows (fun db' => Ok db'.store) (Beside R) (Beside R) act act'

/-! ## Parts of calls -/

theorem follows_onStore {act : Action StoreError κ α} {act' : Action StoreError κ' α}
    (h : Action.Follows Ok R R act act') : Follows Ok R (onStore act) (onStore act') :=
  h.part (fun hdb => hdb.store) (fun hdb hstore => ⟨hstore, hdb.poison_eq, hdb.cache_le⟩)
    fun _ _ => rfl

theorem follows_poisonWith (reason : String) (replace : Bool) :
    Follows Ok R (poisonWith reason replace) (poisonWith reason replace) := by
  refine .change ?_ ?_
  · intro db'
    split <;> exact id
  · intro db db' hdb
    rw [hdb.poison_eq]
    split
    · exact hdb
    · exact ⟨hdb.store, rfl, hdb.cache_le⟩

theorem follows_fetch (s : Scan) : Follows Ok R (fetch s) (fetch s) := by
  unfold fetch
  split
  · exact .answer _
  · exact (follows_poisonWith _ _).bind fun _ => .fail _
  · exact .fail _

/-- What is done with a row under a stored key, in certain entries. -/
def rowUnder (s : Schema) (key : Bytes) (entries : Entries) :
    Action DatabaseError (Database κ) (Option Record) := do
  let scan := Scan.start entries s .atLeast key .atMost key
  if scan.isValid then
    return some (← fetch scan)
  else
    return none

theorem follows_rowUnder (s : Schema) (key : Bytes) (entries : Entries) :
    Follows Ok R (rowUnder s key entries) (rowUnder s key entries) := by
  unfold rowUnder
  simp only
  split
  · exact (follows_fetch _).bind fun _ => .answer _
  · exact .answer _

theorem follows_remember (s : Schema) : Follows Ok R (remember s) (remember s) := by
  refine .change (fun _ => id) ?_
  intro db db' hdb
  refine ⟨hdb.store, hdb.poison_eq, ?_⟩
  intro name t ht
  rw [OrderedMap.lookup_insert_eq_some_iff] at ht ⊢
  exact ht.imp_right fun ⟨hne, ht⟩ => ⟨hne, hdb.cache_le ht⟩

theorem follows_checkSchema (s : Schema) : Follows Ok R (checkSchema s) (checkSchema s) := by
  unfold checkSchema
  split
  · exact .answer _
  · exact .fail _

section Store

variable [Store κ] [Store κ']

/-- Databases side by side have the same entries. -/
theorem Beside.entries_eq (h : Store.Agrees R) {db : Database κ} {db' : Database κ'}
    (hdb : Beside R db db') : db.entries = db'.entries :=
  h _ _ hdb.store

theorem follows_getRow (h : Store.Agrees R) (s : Schema) (r : Record) :
    Follows Ok R (getRow s r) (getRow s r) := by
  refine (Follows.ofExcept _).bind fun values => ?_
  refine Follows.read (f := entries) (g := entries) (k := rowUnder s (encodeKey s.keyPrefix values))
    (l := rowUnder s (encodeKey s.keyPrefix values)) (Beside.entries_eq h) ?_
  exact fun entries => follows_rowUnder s _ entries

theorem follows_readCounter (h : Store.Agrees R) : Follows Ok R readCounter readCounter := by
  refine (follows_getRow h _ _).bind fun row => ?_
  cases row with
  | none => exact .answer _
  | some r => exact (Follows.ofExcept (counterOf r)).map _

variable (h : Store.Follows Ok R)

include h

theorem follows_setRow (s : Schema) (r : Record) (mode : WriteMode) :
    Follows Ok R (setRow s r mode) (setRow s r mode) :=
  (Follows.ofExcept _).bind fun _ => follows_onStore (h.update _ _ _)

theorem follows_deleteRow (s : Schema) (r : Record) :
    Follows Ok R (deleteRow s r) (deleteRow s r) :=
  (Follows.ofExcept _).bind fun _ => follows_onStore (h.delete _)

theorem follows_restoreCounter (previous : Option UInt32) :
    Follows Ok R (restoreCounter previous) (restoreCounter previous) := by
  unfold restoreCounter
  cases previous with
  | none =>
    refine Follows.bind (.attempt ?_) fun _ => .answer _
    exact (follows_deleteRow h _ _).bind fun _ => .answer _
  | some counter =>
    refine Follows.bind (.attempt ?_) fun _ => .answer _
    exact (follows_setRow h _ _ _).bind fun _ => .answer _

theorem follows_enter (previous : Option UInt32) (s : Schema) :
    Follows Ok R (enter previous s) (enter previous s) := by
  refine (Follows.attempt (follows_setRow h _ _ _)).bind fun outcome => ?_
  split
  · exact follows_remember _
  · exact (follows_restoreCounter h _).bind fun _ => .fail _

/-- A table is created the same way. -/
theorem follows_addTable (s : Schema) : Follows Ok R (addTable s) (addTable s) := by
  unfold addTable
  refine (follows_checkSchema s).bind fun _ => .guard (.guard ?_)
  refine (follows_checkSchema _).bind fun _ => ?_
  refine (follows_getRow h.agrees _ _).bind fun row => .guard ?_
  refine (follows_readCounter h.agrees).bind fun previous => .guard ?_
  exact (follows_setRow h _ _ _).bind fun _ => follows_enter h _ _

end Store

/-! ## Schemas -/

section Catalog

variable [Store κ] {db : Database κ}

/-- The catalog has the schemas at hand, each in a row that can be read back, and no others. -/
structure Catalogued (db : Database κ) : Prop where
  row : ∀ name, getRow Schema.catalog (textRecord [("name", Bytes.ofText name)]) db =
    .ok ((db.cache.lookup name).map catalogRecord) db
  name_eq : ∀ {name s}, db.cache.lookup name = some s → s.name = name
  storable : ∀ {name s}, db.cache.lookup name = some s → s.Storable

/-- The store is the same. -/
def SameStore (db t : Database κ) : Prop :=
  t.store = db.store

instance : Std.Refl (SameStore (κ := κ)) :=
  ⟨fun _ => rfl⟩

instance : Trans (SameStore (κ := κ)) SameStore SameStore :=
  ⟨fun h h' => h'.trans h⟩

omit [Store κ] in
theorem sameStore_fetch (s : Scan) : Keeps SameStore (fetch s) db := by
  refine (retires_fetch s).mono fun t ht => ?_
  show t.store = db.store
  rw [ht.rest_eq]

theorem sameStore_getRow (s : Schema) (r : Record) : Keeps SameStore (getRow s r) db := by
  refine (Keeps.ofExcept _).bind fun values _ _ => ?_
  refine Keeps.read ?_
  simp only
  split
  · exact (sameStore_fetch _).bind fun _ _ _ => .answer _
  · exact .answer _

/-- Resolving a schema stores nothing. -/
theorem sameStore_resolve (name : String) : Keeps SameStore (resolve name) db := by
  refine Keeps.read ?_
  split
  · exact .answer _
  · refine (sameStore_getRow _ _).bind fun row _ _ => ?_
    split
    · exact .fail _
    · split
      · exact .fail _
      · refine Keeps.bind ?_ fun _ _ _ => .answer _
        exact .change rfl

end Catalog

variable [Store κ] [Store κ']

/-- The databases are side by side, and the second one has all schemas at hand. -/
def Informed (R : κ → κ' → Prop) (db : Database κ) (db' : Database κ') : Prop :=
  Beside R db db' ∧ db'.Catalogued

/-- **A schema is resolved** the same way, at hand or from the catalog. -/
theorem follows_resolve (h : Store.Agrees R) (name : String) :
    Action.Follows (fun db' => Ok db'.store) (Informed R) (Beside R) (resolve name)
      (resolve name) := by
  intro db db' hok
  have hstore : ((resolve name).outcome db').2.store = db'.store := sameStore_resolve name
  rw [hstore] at hok
  refine ⟨hok, ?_⟩
  rintro ⟨hdb, hcatalog⟩
  -- what is read in the first database is in the catalog of both
  have hrow : ∀ found, (db'.cache.lookup name).map catalogRecord = found →
      ∃ t, getRow Schema.catalog (textRecord [("name", Bytes.ofText name)]) db = .ok found t ∧
        Beside R t db' := by
    rintro found rfl
    have hfollows : FollowsAt (fun db' => Ok db'.store) (Beside R) (Beside R) _ _ db db' :=
      follows_getRow h Schema.catalog (textRecord [("name", Bytes.ofText name)]) db db'
    unfold FollowsAt Action.outcome at hfollows
    rw [hcatalog.row] at hfollows
    have halike := (hfollows hok).2 hdb
    generalize hrun : getRow Schema.catalog (textRecord [("name", Bytes.ofText name)]) db = r
      at halike
    cases halike with
    | @ok _ t _ ht => exact ⟨t, rfl, ht⟩
  unfold resolve
  rw [get_bind, get_bind]
  cases hbuiltIn : Schema.builtIn? name with
  | some s => exact .ok hdb
  | none =>
    simp only [Option.none_or]
    cases hcache' : db'.cache.lookup name with
    | none =>
      have hcache : db.cache.lookup name = none := by
        cases hfound : db.cache.lookup name with
        | none => rfl
        | some s => rw [hdb.cache_le hfound] at hcache'; cases hcache'
      obtain ⟨t, hrun, ht⟩ := hrow none (by rw [hcache']; rfl)
      have hrun' := hcatalog.row name
      rw [hcache'] at hrun'
      rw [hcache]
      simp only
      rw [bind_ok hrun, bind_ok hrun']
      exact .error ht
    | some s =>
      cases hcache : db.cache.lookup name with
      | some s' =>
        have heq := hdb.cache_le hcache
        rw [hcache'] at heq
        obtain rfl := Option.some.inj heq
        exact .ok hdb
      | none =>
        obtain ⟨t, hrun, ht⟩ := hrow (some (catalogRecord s)) (by rw [hcache']; rfl)
        obtain rfl := hcatalog.name_eq hcache'
        simp only
        rw [bind_ok hrun]
        simp only [schemaFromRow_of_storable (hcatalog.storable hcache')]
        refine .ok ⟨ht.store, ht.poison_eq, ?_⟩
        intro name t' ht'
        rcases OrderedMap.lookup_insert_eq_some_iff.mp ht' with ⟨rfl, rfl⟩ | ⟨-, ht'⟩
        · exact hcache'
        · exact ht.cache_le ht'

/-! ## Whole calls -/

section Guarded

omit [Store κ] [Store κ']

/-- What a guard does, given the reason why the database is out of use, if it is. -/
def guardedUnder (act : Action DatabaseError (Database κ) α) :
    Option String → Action DatabaseError (Database κ) α
  | some reason => throw (.poisoned reason)
  | none => do
    match ← Action.attempt act with
    | .ok a => return a
    | .error e =>
      if e.isFatal then
        poisonWith e.message false
      throw e

/-- Guarded calls follow each other if the calls do. -/
theorem follows_guarded {P : Database κ → Database κ' → Prop}
    (hP : ∀ {db db'}, P db db' → Beside R db db') {act : Action DatabaseError (Database κ) α}
    {act' : Action DatabaseError (Database κ') α}
    (hact : Action.Follows (fun db' => Ok db'.store) P (Beside R) act act') :
    Action.Follows (fun db' => Ok db'.store) P (Beside R) (guarded act) (guarded act') := by
  have hend : ∀ reason, Action.Follows (fun db' => Ok db'.store) P (Beside R)
      (guardedUnder act reason) (guardedUnder act' reason) := by
    intro reason
    cases reason with
    | some reason => exact (Follows.fail _).weaken hP
    | none =>
      refine hact.attempt.bind fun outcome => ?_
      cases outcome with
      | ok a => exact .answer a
      | error e =>
        simp only
        split
        · exact (follows_poisonWith _ _).bind fun _ => .fail e
        · exact .fail e
  exact Follows.read (f := Database.poison) (g := Database.poison) (k := guardedUnder act)
    (l := guardedUnder act') (fun h => (hP h).poison_eq) hend

theorem follows_take (n : Nat) (s : Scan) : Follows Ok R (take n s) (take n s) := by
  induction n generalizing s with
  | zero => exact .answer _
  | succ n ih =>
    unfold take
    split
    · refine (follows_fetch s).bind fun row => ?_
      refine (Follows.ofExcept _).bind fun s' => ?_
      exact (ih s').bind fun rows => .answer _
    · exact .answer _

end Guarded

/-- A call that starts with the schema of a table. -/
theorem follows_resolve_bind (h : Store.Agrees R) {name : String}
    {act : Schema → Action DatabaseError (Database κ) α}
    {act' : Schema → Action DatabaseError (Database κ') α}
    (hact : ∀ s, Follows Ok R (act s) (act' s)) :
    Action.Follows (fun db' => Ok db'.store) (Informed R) (Beside R)
      (guarded (resolve name >>= act)) (guarded (resolve name >>= act')) :=
  follows_guarded And.left ((follows_resolve h name).bind hact)

theorem follows_schemaOf (h : Store.Agrees R) (name : String) :
    Action.Follows (fun db' => Ok db'.store) (Informed R) (Beside R) (schemaOf name)
      (schemaOf name) :=
  follows_guarded And.left (follows_resolve h name)

theorem follows_prepareScan (h : Store.Agrees R) (name : String) (range : KeyRange) :
    Action.Follows (fun db' => Ok db'.store) (Informed R) (Beside R) (prepareScan name range)
      (prepareScan name range) := by
  unfold prepareScan
  split
  · refine (follows_resolve h name).bind fun s => ?_
    refine (Follows.ofExcept _).bind fun start => ?_
    exact (Follows.ofExcept _).bind fun stop => .answer _
  · exact (Follows.fail _).weaken And.left

theorem follows_scan (h : Store.Agrees R) (name : String) (range : KeyRange) :
    Action.Follows (fun db' => Ok db'.store) (Informed R) (Beside R) (scan name range)
      (scan name range) := by
  refine (follows_guarded And.left (follows_prepareScan h name range)).bind ?_
  rintro ⟨s, start, stop⟩
  exact Follows.read (f := entries) (g := entries)
    (k := fun e => pure (Scan.start e s range.startBound start range.stopBound stop))
    (l := fun e => pure (Scan.start e s range.startBound start range.stopBound stop))
    (Beside.entries_eq h) fun _ => .answer _

theorem follows_scanTable (h : Store.Agrees R) (name : String) :
    Action.Follows (fun db' => Ok db'.store) (Informed R) (Beside R) (scanTable name)
      (scanTable name) := by
  refine (follows_guarded And.left (follows_resolve h name)).bind fun s => ?_
  exact Follows.read (f := entries) (g := entries)
    (k := fun e => pure (Scan.start e s .atLeast (prefixKey s.keyPrefix) .below
      (tableEnd s.keyPrefix)))
    (l := fun e => pure (Scan.start e s .atLeast (prefixKey s.keyPrefix) .below
      (tableEnd s.keyPrefix)))
    (Beside.entries_eq h) fun _ => .answer _

theorem follows_tableNames (h : Store.Agrees R) :
    Action.Follows (fun db' => Ok db'.store) (Informed R) (Beside R)
      (tableNames : Action DatabaseError (Database κ) _) tableNames := by
  refine (follows_scanTable h _).bind fun s => ?_
  refine (follows_take _ s).bind fun rows => ?_
  exact .ofExcept _

end Database

/-! ## Every call -/

open Database

variable {κ κ' : Type} {Ok : κ' → Prop} {R : κ → κ' → Prop}

theorem ScanCall.follows_run (s : Scan) (call : ScanCall) :
    Database.Follows Ok R (call.run s) (call.run s) := by
  cases call with
  | isValid => exact .answer _
  | next => exact (Follows.ofExcept _).map _
  | row => exact (follows_fetch s).map _
  | collect => exact (follows_take _ s).map _

variable [Store κ] [Store κ']

theorem TableCall.follows_run (h : Store.Follows Ok R) (call : TableCall) :
    Action.Follows (fun db' => Ok db'.store) (Informed R) (Beside R)
      (call.run : Action DatabaseError (Database κ) _) call.run := by
  have hset : ∀ name r mode, Action.Follows (fun db' => Ok db'.store) (Informed R) (Beside R)
      (Database.set name r mode : Action DatabaseError (Database κ) _)
      (Database.set name r mode) :=
    fun name r mode => follows_resolve_bind h.agrees fun s => follows_setRow h s r mode
  cases call with
  | create s =>
    exact ((follows_guarded id (follows_addTable h s)).weaken And.left).map _
  | get name r => exact (follows_resolve_bind h.agrees fun s => follows_getRow h.agrees s r).map _
  | set name r mode => exact (hset name r mode).map _
  | insert name r => exact ((hset name r .insert).map _).map _
  | update name r => exact ((hset name r .update).map _).map _
  | upsert name r => exact ((hset name r .upsert).map _).map _
  | delete name r => exact (follows_resolve_bind h.agrees fun s => follows_deleteRow h s r).map _

/-- **Every call** of a database, if making changes durable follows too. -/
theorem DatabaseCall.follows_run (h : Store.Follows Ok R) (call : DatabaseCall)
    (hflush : call = .flush ∨ call = .close → Action.Follows Ok R R Store.flush Store.flush) :
    Action.Follows (fun db' => Ok db'.store) (Informed R) (Beside R)
      (call.run : Action DatabaseError (Database κ) _) call.run := by
  have hguarded : (call = .flush ∨ call = .close) →
      Action.Follows (fun db' => Ok db'.store) (Informed R) (Beside R)
        (Database.flush : Action DatabaseError (Database κ) _) Database.flush :=
    fun hcall => (follows_guarded id (follows_onStore (hflush hcall))).weaken And.left
  cases call with
  | table call => exact (call.follows_run h).map _
  | schemaOf name => exact (follows_schemaOf h.agrees name).map _
  | tableNames => exact (follows_tableNames h.agrees).map _
  | scan name range => exact (follows_scan h.agrees name range).map _
  | scanTable name => exact (follows_scanTable h.agrees name).map _
  | flush => exact (hguarded (.inl rfl)).map _
  | close => exact (hguarded (.inr rfl)).map _

/-! ## Clients -/

namespace Client

/-- The databases of two clients are side by side, and the same scan is open on them. -/
structure Beside (R : κ → κ' → Prop) (u : Client κ) (u' : Client κ') : Prop where
  db : Database.Beside R u.db u'.db
  scan_eq : u.scan = u'.scan

variable {u : Client κ} {u' : Client κ'}

omit [Store κ] in
theorem beside_self (u : Client κ) : u.Beside Eq u :=
  ⟨⟨rfl, rfl, id⟩, rfl⟩

/-- **A call** of two clients, the second of whom has all schemas at hand: both are answered the
same. -/
theorem follows_call (h : Store.Follows Ok R) {c : Call}
    (hflush : c = .database .flush ∨ c = .database .close →
      Action.Follows Ok R R Store.flush Store.flush) (hok : Ok (u'.call c).2.db.store) :
    Ok u'.db.store ∧ (u.Beside R u' → u'.db.Catalogued →
      (u.call c).1 = (u'.call c).1 ∧ (u.call c).2.Beside R (u'.call c).2) := by
  cases c with
  | database call =>
    have hcall := call.follows_run h
      (fun hcall => hflush (hcall.imp (congrArg _) (congrArg _))) u.db u'.db hok
    refine ⟨hcall.1, fun hu hcatalog => ?_⟩
    obtain ⟨hreply, hdb⟩ := (hcall.2 ⟨hu.db, hcatalog⟩).outcome
    simp only [Client.call, hreply]
    exact ⟨trivial, hdb, rfl⟩
  | scan call =>
    unfold Client.call at hok ⊢
    cases hscan' : u'.scan with
    | none =>
      rw [hscan'] at hok
      refine ⟨hok, fun hu hcatalog => ?_⟩
      rw [hu.scan_eq, hscan']
      exact ⟨rfl, hu⟩
    | some s =>
      rw [hscan'] at hok
      have hrun : Database.Follows Ok R (call.run s) (call.run s) := call.follows_run s
      have hcall := hrun u.db u'.db hok
      refine ⟨hcall.1, fun hu _ => ?_⟩
      obtain ⟨hreply, hdb⟩ := (hcall.2 hu.db).outcome
      rw [hu.scan_eq, hscan']
      simp only [hreply]
      exact ⟨trivial, hdb, rfl⟩

end Client

end PagedTables
