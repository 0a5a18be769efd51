/-!
Tables of characters. A table names ranges of code points, ends included, or runs of characters that all move
by the same distance.

The tables for lower-casing and for quoted texts hold for all of Unicode 17.0. Those that only the conversion of
names to ASCII reads (mapping, composition, writing direction, joining) hold for the repertoire of names:

* U+0000 to U+06FF: Latin, phonetic, Greek, Cyrillic, Armenian, Hebrew and Arabic letters with their marks,
* U+1E00 to U+206F: further Latin and Greek letters, general punctuation,
* U+3000 to U+30FF: CJK punctuation, Hiragana and Katakana,
* U+4E00 to U+9FFF and U+AC00 to U+D7A3: unified ideographs and Hangul syllables,
* U+FF00 to U+FFEF: half-width and full-width forms.

Of other blocks they hold single characters and ranges, with what these become. A character in none of the
tables becomes its lower-case form, is written from left to right, joins nothing and neither decomposes nor
combines; outside the repertoire the standard may say otherwise.
-/

namespace Bailiwick.Unicode

/-- Whether a character lies in one of the ranges. -/
def inRanges (ranges : List (Nat × Nat)) (c : Char) : Bool :=
  ranges.any fun range => range.1 ≤ c.toNat && c.toNat ≤ range.2

/-- The value of the first range that a character lies in. -/
def valueIn? {α : Type} (ranges : List (Nat × Nat × α)) (c : Char) : Option α :=
  (ranges.find? fun range => range.1 ≤ c.toNat && c.toNat ≤ range.2.1).map fun range => range.2.2

/-- The characters from `first` to `last` in steps of `step`. The first of them becomes `image`, and the others
follow at the same distance. -/
structure Run where
  first : Nat
  last : Nat
  step : Nat
  image : Nat

/-- Whether a code point is one of the run. -/
def Run.Has (run : Run) (n : Nat) : Prop := run.first ≤ n ∧ n ≤ run.last ∧ (n - run.first) % run.step = 0

instance (run : Run) (n : Nat) : Decidable (run.Has n) := inferInstanceAs (Decidable (_ ∧ _ ∧ _))

/-- The code point that a code point of the run becomes. -/
def Run.move (run : Run) (n : Nat) : Nat := run.image + (n - run.first)

/-- What the first run that has the character makes of it. -/
def moved? (runs : List Run) (c : Char) : Option Char :=
  (runs.find? fun run => run.Has c.toNat).map fun run => Char.ofNat (run.move c.toNat)

end Bailiwick.Unicode
