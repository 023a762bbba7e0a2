/-
# Broken lines

A line that is too wide for its place is broken at blanks. A word that is too wide by itself is
broken between its clusters, as soon as the line before it has room for more than two columns.

* `Wrap.fitting` : how much of a word a number of columns has room for;
* `Wrap.fill` : the lines that words fill one by one;
* `Wrap.lines` : the lines that a text is broken into.
-/
import PagedTables.Text.Cluster

namespace PagedTables.Wrap

/-- A line under construction. -/
structure Line where
  /-- The words so far. -/
  text : String := ""
  /-- The columns that they take. -/
  columns : Nat := 0
  deriving DecidableEq, Repr

/-- The columns of a line with a blank after it; an empty line needs none. -/
def Line.next (line : Line) : Nat :=
  if line.text = "" then line.columns else line.columns + 1

/-- A line with one more word, that takes the given columns. -/
def Line.add (line : Line) (word : String) (columns : Nat) : Line where
  text := if line.text = "" then word else line.text ++ " " ++ word
  columns := line.next + columns

/-- The number of characters in the clusters at the start of a word that some columns have room
for, after those that are counted already. -/
def fittingAfter (count columns : Nat) : List (List Char) → Nat
  | [] => count
  | cluster :: rest =>
    let needed := Width.ofText (String.ofList cluster)
    if needed ≤ columns then fittingAfter (count + cluster.length) (columns - needed) rest
    else count

/-- The number of characters at the start of a word that some columns have room for. Clusters are
kept together. -/
def fitting (columns : Nat) (word : String) : Nat :=
  fittingAfter 0 columns (Cluster.ofText word.toList)

/-- The first characters of a word. -/
def first (count : Nat) (word : String) : String :=
  String.ofList (word.toList.take count)

/-- The other characters of a word. -/
def others (count : Nat) (word : String) : String :=
  String.ofList (word.toList.drop count)

/-- What is left of a word is shorter. -/
theorem length_others_lt {count : Nat} {word : String} (hcount : 0 < count) (h : word ≠ "") :
    (others count word).length < word.length := by
  have hpos : 0 < word.length := by
    rw [← String.length_toList]
    exact List.length_pos_iff.2 (by simpa using h)
  simp only [others, String.length_ofList, List.length_drop, String.length_toList]
  omega

/-- The lines that words fill one by one, from a line under construction on. A line with room
for at most one column is as good as full. -/
def fill (width : Nat) (line : Line) : List String → List String
  | [] => if line.text = "" then [] else [line.text]
  | word :: words =>
    let columns := Width.ofText word
    if line.next + columns ≤ width then
      let line := line.add word columns
      if width - 2 < line.columns then line.text :: fill width {} words
      else fill width line words
    else if line.text ≠ "" ∧ (width - line.next ≤ 2 ∨ columns ≤ width) then
      line.text :: fill width {} (word :: words)
    else if word = "" then fill width line words
    else
      let count := fitting (width - line.next) word
      if line.text ≠ "" ∧ count = 0 then line.text :: fill width {} (word :: words)
      else
        let part := first (max 1 count) word
        let line := line.add part (Width.ofText part)
        let words := others (max 1 count) word :: words
        if width - 2 < line.columns then line.text :: fill width {} words
        else fill width line words
termination_by words =>
  (words.foldr (fun word n => word.length + 1 + n) 0, if line.text = "" then 0 else 1)
decreasing_by
  all_goals simp_wf
  all_goals grind [length_others_lt]

/-- The lines that a text is broken into. -/
def lines (width : Nat) (text : String) : List String :=
  if Width.ofText text ≤ width then [text] else fill width {} (text.splitOn " ")

end PagedTables.Wrap
