/-
# Display width

The number of columns that a text takes on a display of fixed-width cells. Most characters count
by themselves. Pictographs with their selectors, tones and joiners, flags, and some letters that
join others take fewer columns together than one by one, so a text is read from its end, and each
character is counted in view of what follows it.

* `Width.ofChar` : the columns of a character by itself;
* `Width.step` : the columns that a character adds before what follows it;
* `Width.ofText` : the columns of a line of text.
-/
import PagedTables.Text.CharClass

namespace PagedTables.Width

/-! ## Single characters -/

/-- The columns of a character by itself; a control character takes one. -/
def ofChar (c : Char) : Nat :=
  if c = '\u2d7f' then 1
  else if c = '\u17a4' then 2
  else if c = '\u17d8' then 3
  else if CharClass.combining.contains c || CharClass.invisible.contains c then 0
  else if CharClass.wide.contains c then 2
  else 1

/-- Joins what stands on its two sides. -/
def joiner : Char := '\u200d'

/-- Tells whether two of a character form a flag. -/
def isFlagLetter (c : Char) : Bool :=
  0x1f1e6 ≤ c.toNat && c.toNat ≤ 0x1f1ff

/-- Tells whether a character gives a skin tone to the pictograph before it. -/
def isTone (c : Char) : Bool :=
  0x1f3fb ≤ c.toNat && c.toNat ≤ 0x1f3ff

/-- Tells whether a character is a letter of the tag that makes a black flag a regional one. -/
def isTagLetter (c : Char) : Bool :=
  0xe0061 ≤ c.toNat && c.toNat ≤ 0xe007a

/-- Tells whether a character is a digit of such a tag. -/
def isTagDigit (c : Char) : Bool :=
  0xe0030 ≤ c.toNat && c.toNat ≤ 0xe0039

/-- Tells whether a character is a curved quotation mark. -/
def isCurvedQuote (c : Char) : Bool :=
  c == '\u2018' || c == '\u2019' || c == '\u201c' || c == '\u201d'

/-- Tells whether a selector turns a pictograph into a narrow text form. Ideographs in a square
stay wide. -/
def hasTextForm (c : Char) : Bool :=
  CharClass.selectable.contains c && CharClass.picture.contains c &&
    !(0x1f200 ≤ c.toNat && c.toNat ≤ 0x1f2ff)

/-! ## What follows -/

/-- What a selector asks for. -/
inductive Selector where
  /-- The pictograph form. -/
  | picture
  /-- The text form. -/
  | text
  /-- The form of a quotation mark that takes two columns. -/
  | wideQuote
  deriving DecidableEq, Repr

/-- The selector that a character is. -/
def selector? (c : Char) : Option Selector :=
  if c = '\ufe0f' then some .picture
  else if c = '\ufe0e' then some .text
  else if c = '\ufe01' then some .wideQuote
  else none

/-- What follows a character, as far as it may join it. The letters of scripts may have a joiner
before them. -/
inductive Tail where
  /-- Nothing that joins. -/
  | plain
  /-- The end of a line. -/
  | lineFeed
  /-- A pictograph with what belongs to it. -/
  | picture
  /-- A skin tone. -/
  | tone
  /-- A letter of a flag. -/
  | flagLetter
  /-- Several letters of flags. -/
  | flagLetters
  /-- A joiner and a pictograph. -/
  | joinedPicture
  /-- The frame of a key, a joiner and a pictograph. -/
  | joinedKey
  /-- One letter of a flag, before a joiner and a pictograph. -/
  | joinedFlagLetter
  /-- Whole flags, before a joiner and a pictograph. -/
  | joinedFlags
  /-- A letter of a flag and whole flags, before a joiner and a pictograph. -/
  | joinedFlagsAndLetter
  /-- Letters and digits at the end of a tag, before a joiner and a pictograph. -/
  | joinedTag (letters digits : Nat)
  /-- An Arabic alef. -/
  | alef
  /-- A Hebrew lamed. -/
  | lamed (joined : Bool)
  /-- A Buginese ya. -/
  | ya (joined : Bool)
  /-- The Buginese vowel sign i and a joined ya. -/
  | vowelAndYa
  /-- A Tifinagh consonant. -/
  | tifinagh (joined : Bool)
  /-- The Tifinagh consonant joiner and a consonant. -/
  | joinerAndTifinagh
  /-- A Lisu tone letter that combines with the one before it. -/
  | lisuTone
  /-- An Old Turkic i. -/
  | oldTurkicI (joined : Bool)
  /-- A Khmer letter that may be written below another one. -/
  | coengLetter
  /-- The Kirat Rai vowel sign e. -/
  | kiratRaiE
  /-- The Kirat Rai vowel sign ai. -/
  | kiratRaiAi
  deriving DecidableEq, Repr

namespace Tail

/-- Tells whether what follows is a letter that may join the one before it. -/
def isLetter : Tail → Bool
  | alef | lamed _ | ya _ | vowelAndYa | tifinagh _ | joinerAndTifinagh | lisuTone
  | oldTurkicI _ | coengLetter => true
  | _ => false

/-- What follows a character after a joiner is put between, if it can be joined. -/
def join? : Tail → Option Tail
  | picture | tone | flagLetters | joinedFlags | joinedFlagsAndLetter => some joinedPicture
  | lamed _ => some (lamed true)
  | ya _ => some (ya true)
  | vowelAndYa => some vowelAndYa
  | tifinagh _ => some (tifinagh true)
  | joinerAndTifinagh => some joinerAndTifinagh
  | lisuTone => some lisuTone
  | oldTurkicI _ => some (oldTurkicI true)
  | coengLetter => some coengLetter
  | _ => none

/-- What follows the character before the given one, if that one joins nothing. -/
def ofChar (c : Char) : Tail :=
  if CharClass.picture.contains c then picture
  else if isTone c then tone
  else if isFlagLetter c then flagLetter
  else if CharClass.alef.contains c then alef
  else if c = '\u05dc' then lamed false
  else if c = '\u1a10' then ya false
  else if CharClass.tifinagh.contains c then tifinagh false
  else if c = '\ua4fc' ∨ c = '\ua4fd' then lisuTone
  else if c.toNat = 0x10c03 then oldTurkicI false
  else if CharClass.coengLetter.contains c then coengLetter
  else if c.toNat = 0x16d67 then kiratRaiE
  else if c.toNat = 0x16d68 then kiratRaiAi
  else plain

end Tail

/-- What follows a character: the forms that selectors right after it ask for, and what comes
next. -/
structure After where
  /-- A selector asks for the pictograph form. -/
  picture : Bool := false
  /-- A selector asks for the text form. -/
  text : Bool := false
  /-- A selector asks for a quotation mark of two columns. -/
  wideQuote : Bool := false
  /-- What comes next. -/
  tail : Tail := .plain
  deriving DecidableEq, Repr

/-- What follows a character after a selector is put between. Before letters selectors gather. -/
def After.select (after : After) (s : Selector) : After :=
  let kept : After := if after.tail.isLetter then after else {}
  match s with
  | .text => { kept with text := true }
  | .wideQuote => { kept with wideQuote := true }
  | .picture =>
    if after.tail = .joinedPicture ∨ after.tail = .joinedKey then
      { picture := true, tail := after.tail }
    else { kept with picture := true }

/-- What follows a character that has no pictograph form to be asked for. -/
def After.withoutPicture (after : After) : After :=
  if !after.picture then after
  else if after.tail.isLetter then { after with picture := false }
  else {}

/-! ## Joining -/

/-- The columns that a character adds if it belongs to a joined pictograph, and what then
follows the character before it. -/
def Tail.addToJoined? (c : Char) : Option (Int × Tail) :=
  if c = '\u20e3' then some (0, .joinedKey)
  else if isFlagLetter c then some (1, .joinedFlagLetter)
  else if isTone c then some (0, .tone)
  else if c.toNat = 0xe007f then some (0, .joinedTag 0 0)
  else if CharClass.picture.contains c then some (0, .picture)
  else none

/-- The same inside a tag. The tag of a country has three digits or at least three letters and
digits, the last of which are given. -/
def Tail.addToTag? (c : Char) (letters digits : Nat) : Option (Int × Tail) :=
  if isTagLetter c ∧ digits = 0 ∧ letters < 6 then some (0, .joinedTag (letters + 1) 0)
  else if isTagDigit c ∧ digits = 0 ∧ letters < 5 then some (0, .joinedTag 0 1)
  else if isTagDigit c ∧ 0 < digits ∧ digits < 3 then some (0, .joinedTag 0 (digits + 1))
  else if c.toNat = 0x1f3f4 ∧ (3 ≤ letters ∨ digits = 3) then some (0, .picture)
  else none

/-- The columns that a character adds if it joins what follows it, and what then follows the
character before it. -/
def Tail.add? (tail : Tail) (c : Char) : Option (Int × Tail) :=
  match tail with
  | .tone => if CharClass.toned.contains c then some (0, .picture) else none
  | .flagLetter | .flagLetters => if isFlagLetter c then some (1, .flagLetters) else none
  | .joinedPicture => addToJoined? c
  | .joinedFlagLetter | .joinedFlagsAndLetter =>
    if isFlagLetter c then some (-1, .joinedFlags) else none
  | .joinedFlags => if isFlagLetter c then some (3, .joinedFlagsAndLetter) else none
  | .joinedTag letters digits => addToTag? c letters digits
  | .alef =>
    if CharClass.lam.contains c then some (0, .plain)
    else if Width.ofChar c = 0 ∧ !CharClass.parting.contains c then some (0, .alef)
    else none
  | .lamed true => if c = '\u05d0' then some (0, .plain) else none
  | .ya true => if c = '\u1a17' then some (0, .vowelAndYa) else none
  | .vowelAndYa => if c = '\u1a15' then some (0, .plain) else none
  | .tifinagh joined =>
    if c = '\u2d7f' then some (1, .joinerAndTifinagh)
    else if joined ∧ CharClass.tifinagh.contains c then some (0, .plain)
    else none
  | .joinerAndTifinagh => if CharClass.tifinagh.contains c then some (-1, .plain) else none
  | .lisuTone => if CharClass.lisuTone.contains c then some (0, .plain) else none
  | .oldTurkicI true => if c.toNat = 0x10c32 then some (0, .plain) else none
  | .coengLetter => if c = '\u17d2' then some (-1, .plain) else none
  | .kiratRaiE =>
    if c.toNat = 0x16d63 ∨ c.toNat = 0x16d69 then some (0, .plain)
    else if c.toNat = 0x16d67 then some (0, .kiratRaiAi)
    else if c.toNat = 0x16d68 then some (1, .kiratRaiE)
    else none
  | .kiratRaiAi => if c.toNat = 0x16d63 then some (0, .plain) else none
  | _ => none

/-- The same with joiners and with marks that only select the form of a letter. -/
def Tail.attach? (tail : Tail) (c : Char) : Option (Int × Tail) :=
  let next :=
    if c = joiner then tail.join?
    else if CharClass.selectors.contains c ∧ tail.isLetter ∧ tail ≠ .alef then some tail
    else none
  match next with
  | some tail => some (0, tail)
  | none => tail.add? c

/-! ## Texts -/

/-- The columns that a character adds before what follows it, and what then follows the character
before it. -/
def step (c : Char) (after : After) : Int × After :=
  if after.picture && CharClass.selectable.contains c then
    (if after.tail = .joinedPicture ∨ after.tail = .joinedKey then 0 else 2, { tail := .picture })
  else
    let after := after.withoutPicture
    if c = '\n' then (1, { tail := .lineFeed })
    else if c = '\r' ∧ after.tail = .lineFeed then (0, {})
    else if c ≤ '\u00a0' then (1, {})
    else
      match selector? c with
      | some s => (0, after.select s)
      | none =>
        if after.text && hasTextForm c then (1, {})
        else if after.wideQuote && isCurvedQuote c then (2, {})
        else
          let (added, tail) := (after.tail.attach? c).getD (ofChar c, .ofChar c)
          (added, { tail })

/-- The columns of a line of text, counted from its end. -/
def ofText (s : String) : Nat :=
  let (columns, _) := s.toList.foldr
    (fun c (columns, after) =>
      let (added, before) := step c after
      (columns + added, before))
    ((0 : Int), ({} : After))
  columns.toNat

end PagedTables.Width
