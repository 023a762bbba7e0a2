/-
# Options

How a store lays out its file and which entries it accepts, and where a database lives.

* `StoreOptions.check` : the first rule that the options break, if any;
* `validPageSize` : the page sizes that a file may have.
-/

namespace PagedTables

/-! ## Page sizes -/

/-- The least page size. -/
def minPageSize : Nat := 128

/-- The greatest page size. -/
def maxPageSize : Nat := 65536

/-- The page size of a store that asks for no other. -/
def defaultPageSize : Nat := 4096

/-- Tells whether a number is a power of two. -/
def isPowerOfTwo (n : Nat) : Bool :=
  n != 0 && Nat.pow 2 n.log2 == n

/-- Tells whether a file may have pages of this size. -/
def validPageSize (n : Nat) : Bool :=
  isPowerOfTwo n && minPageSize ≤ n && n ≤ maxPageSize

theorem bounds_of_validPageSize {n : Nat} (h : validPageSize n = true) : 128 ≤ n ∧ n ≤ 65536 := by
  simp only [validPageSize, minPageSize, maxPageSize, Bool.and_eq_true] at h
  exact ⟨of_decide_eq_true h.1.2, of_decide_eq_true h.2⟩

/-! ## Store options -/

/-- How a store lays out its file and which entries it accepts. -/
structure StoreOptions where
  /-- Bytes per page. -/
  pageSize : Nat := defaultPageSize
  /-- The most bytes that a key may have. -/
  maxKeySize : Nat := 1000
  /-- The most bytes that a value may have. -/
  maxValueSize : Nat := 3000
  /-- Whether a commit waits until its pages are on stable storage. -/
  syncOnCommit : Bool := true
  /-- Whether every change is committed at once. -/
  autoCommit : Bool := true
  /-- Whether a file that does not exist is created. -/
  createIfMissing : Bool := true
  deriving DecidableEq, Repr, Inhabited

/-- Why options are refused. -/
inductive OptionsFault where
  /-- The page size is no power of two. -/
  | pageSizeNotPowerOfTwo
  /-- The page size is too small or too large. -/
  | pageSizeOutOfRange
  /-- No key is short enough. -/
  | noKeyFits
  /-- No value is short enough but the empty one. -/
  | noValueFits
  /-- There is no file to open. -/
  | emptyPath
  deriving DecidableEq, Repr

/-- The wording of a fault. -/
def OptionsFault.message : OptionsFault → String
  | pageSizeNotPowerOfTwo => "page_size must be a power of 2"
  | pageSizeOutOfRange => "page_size must be between 128 and 65536 bytes"
  | noKeyFits => "max_key_size must be greater than 0"
  | noValueFits => "max_value_size must be greater than 0"
  | emptyPath => "path must not be empty"

namespace StoreOptions

/-- Small pages and no waiting, for a store that need not last. -/
def throwaway : StoreOptions :=
  { pageSize := 256, syncOnCommit := false }

/-- Reports the first rule that the options break. -/
def check (o : StoreOptions) : Except OptionsFault Unit :=
  if !isPowerOfTwo o.pageSize then .error .pageSizeNotPowerOfTwo
  else if o.pageSize < minPageSize ∨ maxPageSize < o.pageSize then .error .pageSizeOutOfRange
  else if o.maxKeySize = 0 then .error .noKeyFits
  else if o.maxValueSize = 0 then .error .noValueFits
  else .ok ()

/-- Options that pass the check have a page size that a file may have. -/
theorem validPageSize_of_check {o : StoreOptions} (h : o.check = .ok ()) :
    validPageSize o.pageSize = true := by
  unfold check at h
  split at h
  · cases h
  next hp =>
    split at h
    · cases h
    next hr =>
      simp only [validPageSize, Bool.and_eq_true, decide_eq_true_eq]
      simp only [Bool.not_eq_true', Bool.not_eq_false] at hp
      exact ⟨⟨hp, by omega⟩, by omega⟩

end StoreOptions

/-! ## Database options -/

/-- Where a database lives and how its store is laid out. -/
structure DatabaseOptions where
  /-- The file that holds the database. -/
  path : String
  /-- The options of the store in that file. -/
  store : StoreOptions := {}
  deriving DecidableEq, Repr, Inhabited

/-- Reports the first rule that the options break; the path comes before the store. -/
def DatabaseOptions.check (o : DatabaseOptions) : Except OptionsFault Unit :=
  if o.path.isEmpty then .error .emptyPath else o.store.check

end PagedTables
