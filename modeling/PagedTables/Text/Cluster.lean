/-
# Clusters

What a reader takes for one character may be written with several: a letter and its marks, a
syllable, a pictograph that others are joined to, a flag. A text is cut into such clusters from its
start, with a look at what the cluster so far ends in.

* `Cluster.Kind.ofChar` : what a character does to a cluster;
* `Cluster.add?` : a cluster with one more character, if it belongs to it;
* `Cluster.ofText` : the clusters of a text;
* `Cluster.flatten_ofText` : the clusters make up the text.
-/
import PagedTables.Text.Width

namespace PagedTables

namespace Cluster

/-! ## Kinds of characters -/

/-- What a character does to the cluster before it and after it. -/
inductive Kind where
  /-- Stands alone. -/
  | control
  /-- Stands alone, or before a line feed. -/
  | carriageReturn
  /-- Stands alone, or after a carriage return. -/
  | lineFeed
  /-- A mark over the character before it. -/
  | mark
  /-- A mark that joins a consonant to the next one. -/
  | linker
  /-- Joins pictographs. -/
  | joiner
  /-- Keeps letters from joining. -/
  | nonJoiner
  /-- A mark beside the character before it. -/
  | spacing
  /-- A mark that belongs to the character after it. -/
  | leading
  /-- The first consonant of a Hangul syllable. -/
  | initial
  /-- The vowel of a Hangul syllable. -/
  | vowel
  /-- The last consonant of a Hangul syllable. -/
  | final
  /-- A Hangul syllable that ends in its vowel. -/
  | syllable
  /-- A Hangul syllable that ends in a consonant. -/
  | closedSyllable
  /-- A consonant of a script that writes several of them as one. -/
  | consonant
  /-- A pictograph. -/
  | pictograph
  /-- A letter of a flag. -/
  | flagLetter
  /-- Any other character. -/
  | other
  deriving DecidableEq, Repr

namespace Kind

/-- The kind of a character that forms Hangul syllables or is one. -/
def hangul? (c : Char) : Option Kind :=
  let n := c.toNat
  if 0x1100 ≤ n ∧ n ≤ 0x115f ∨ 0xa960 ≤ n ∧ n ≤ 0xa97c then some initial
  else if 0x1160 ≤ n ∧ n ≤ 0x11a7 ∨ 0xd7b0 ≤ n ∧ n ≤ 0xd7c6 then some vowel
  else if n = 0x16d63 ∨ 0x16d67 ≤ n ∧ n ≤ 0x16d6a then some vowel
  else if 0x11a8 ≤ n ∧ n ≤ 0x11ff ∨ 0xd7cb ≤ n ∧ n ≤ 0xd7fb then some final
  else if 0xac00 ≤ n ∧ n ≤ 0xd7a3 then
    some (if (n - 0xac00) % 28 = 0 then syllable else closedSyllable)
  else none

/-- Tells whether a character is a mark over the one before it. -/
def isMark (c : Char) : Bool :=
  CharClass.combining.contains c || Width.isTone c || c == '\uff9e' || c == '\uff9f'

/-- The kind of a character. -/
def ofChar (c : Char) : Kind :=
  if c = '\r' then carriageReturn
  else if c = '\n' then lineFeed
  else if c = Width.joiner then joiner
  else if c = '\u200c' then nonJoiner
  else if CharClass.control.contains c then control
  else if CharClass.linker.contains c then linker
  else if isMark c then mark
  else if CharClass.spacing.contains c then spacing
  else if CharClass.leading.contains c then leading
  else if Width.isFlagLetter c then flagLetter
  else if CharClass.consonant.contains c then consonant
  else if CharClass.pictograph.contains c then pictograph
  else (hangul? c).getD other

/-- Tells whether a character stands alone. -/
def standsAlone : Kind → Bool
  | control | carriageReturn | lineFeed => true
  | _ => false

end Kind

/-! ## Ends of clusters -/

/-- What a cluster ends in, as far as it takes more than the last character to tell. -/
inductive Ending where
  /-- Nothing of the following. -/
  | plain
  /-- A pictograph and its marks. -/
  | pictograph
  /-- A pictograph, its marks and a joiner. -/
  | joinedPictograph
  /-- A consonant and its marks. -/
  | consonant
  /-- The same, with a mark among them that joins the next consonant. -/
  | linkedConsonant
  /-- A letter of a flag that has no partner yet. -/
  | flagLetter
  deriving DecidableEq, Repr

/-- The ending of a cluster after one more character. -/
def Ending.next (ending : Ending) : Kind → Ending
  | .pictograph => pictograph
  | .consonant => consonant
  | .flagLetter => if ending = flagLetter then plain else flagLetter
  | .mark =>
    match ending with
    | pictograph => pictograph
    | consonant => consonant
    | linkedConsonant => linkedConsonant
    | _ => plain
  | .linker =>
    match ending with
    | pictograph => pictograph
    | consonant | linkedConsonant => linkedConsonant
    | _ => plain
  | .joiner =>
    match ending with
    | pictograph => joinedPictograph
    | consonant => consonant
    | linkedConsonant => linkedConsonant
    | _ => plain
  | .nonJoiner => if ending = pictograph then pictograph else plain
  | _ => plain

/-- Tells whether a character belongs to the cluster before it, given the kind of that cluster's
last character, its ending and the kind of the character. -/
def joins (last : Kind) (ending : Ending) (next : Kind) : Bool :=
  if last.standsAlone || next.standsAlone then last = .carriageReturn && next = .lineFeed
  else
    match last, next with
    | _, .mark | _, .linker | _, .joiner | _, .nonJoiner | _, .spacing | .leading, _ => true
    | .initial, .initial | .initial, .vowel | .initial, .syllable | .initial, .closedSyllable =>
      true
    | .vowel, .vowel | .syllable, .vowel => true
    | .vowel, .final | .syllable, .final | .final, .final | .closedSyllable, .final => true
    | _, .consonant => ending = .linkedConsonant
    | _, .pictograph => ending = .joinedPictograph
    | _, .flagLetter => ending = .flagLetter
    | _, _ => false

end Cluster

/-! ## Clusters -/

/-- Characters that are read as one. -/
structure Cluster where
  /-- The characters, with the last one first. -/
  reversed : List Char
  /-- The kind of the last one. -/
  last : Cluster.Kind
  /-- What it ends in. -/
  ending : Cluster.Ending

namespace Cluster

/-- The cluster of one character. -/
def ofChar (c : Char) : Cluster :=
  ⟨[c], .ofChar c, Ending.plain.next (.ofChar c)⟩

/-- A cluster with one more character, if it belongs to it. -/
def add? (k : Cluster) (c : Char) : Option Cluster :=
  let kind := Kind.ofChar c
  if joins k.last k.ending kind then some ⟨c :: k.reversed, kind, k.ending.next kind⟩ else none

/-- Adds a character to clusters, of which the last one stands first. -/
def push (clusters : List Cluster) (c : Char) : List Cluster :=
  match clusters with
  | [] => [ofChar c]
  | k :: before =>
    match k.add? c with
    | some k => k :: before
    | none => ofChar c :: k :: before

/-- The characters of a cluster. -/
def toList (k : Cluster) : List Char :=
  k.reversed.reverse

/-- The clusters of a text. -/
def ofText (s : List Char) : List (List Char) :=
  ((s.foldl push []).map toList).reverse

/-- A character that is added comes last. -/
theorem flatMap_push (clusters : List Cluster) (c : Char) :
    (push clusters c).flatMap reversed = c :: clusters.flatMap reversed := by
  cases clusters with
  | nil => rfl
  | cons k before =>
    by_cases h : joins k.last k.ending (Kind.ofChar c)
    · simp [push, add?, h]
    · simp [push, add?, h, ofChar]

/-- Characters that are added one by one come last. -/
theorem flatMap_foldl_push (s : List Char) (clusters : List Cluster) :
    (s.foldl push clusters).flatMap reversed = s.reverse ++ clusters.flatMap reversed := by
  induction s generalizing clusters with
  | nil => rfl
  | cons c s ih => rw [List.foldl_cons, ih, flatMap_push]; simp

/-- The clusters make up the text. -/
theorem flatten_ofText (s : List Char) : (ofText s).flatten = s := by
  have h := congrArg List.reverse (flatMap_foldl_push s [])
  rw [List.reverse_flatMap, List.flatMap_nil, List.append_nil, List.reverse_reverse] at h
  rw [ofText, ← List.map_reverse, ← List.flatMap_def]
  exact h

end Cluster

end PagedTables
