/-
Tables of characters, in which code points are written in hexadecimal digits:

* `CodeTable`: runs of code points in ascending order, each with what belongs to it;
* `CodeTable.find?`: what belongs to a character;
* `CodeTable.ofRuns`, `CodeTable.ofValues`, `CodeTable.ofForms`: tables from their written forms.

A written table is a list of lines, and a line is a list of entries between single spaces.
-/
import ReplicatedCache.Text.Numeral
import ReplicatedCache.Text.Pieces

namespace ReplicatedCache

/-- The code points from the first to the last of a run. -/
structure CodeRun where
  first : Nat
  last : Nat
  deriving DecidableEq, Repr

/-- Runs of code points in ascending order, each with what belongs to all of its characters. -/
abbrev CodeTable (α : Type) := Array (CodeRun × α)

namespace CodeTable

/-- What belongs to a code point, if one of the entries from `low` on and before `high` has it. -/
def findBetween? {α : Type} (table : CodeTable α) (code low high : Nat) : Option α :=
  if low < high then
    match table[(low + high) / 2]? with
    | none => none
    | some (run, value) =>
        if code < run.first then findBetween? table code low ((low + high) / 2)
        else if run.last < code then findBetween? table code ((low + high) / 2 + 1) high
        else some value
  else none
termination_by high - low
decreasing_by all_goals omega

/-- What belongs to a character, if a run has it. -/
def find? {α : Type} (table : CodeTable α) (c : Char) : Option α :=
  findBetween? table c.toNat 0 table.size

/-- Whether a run has a character. -/
def has {α : Type} (table : CodeTable α) (c : Char) : Bool := (find? table c).isSome

/-! ### Written tables -/

/-- The pieces between the occurrences of a character. -/
def pieces (separator : Char) (cs : List Char) : List (List Char) :=
  Text.splitWhere (fun c => c = separator) cs

/-- The entries of a written table. -/
def entries (lines : List String) : List (List Char) :=
  lines.flatMap fun line => pieces ' ' line.toList

/-- A code point, or another number. -/
def number (cs : List Char) : Nat := (Text.inBase? 16 cs).getD 0

/-- A run: its first and its last code point with a hyphen between them, or its only one. -/
def run (cs : List Char) : CodeRun :=
  match pieces '-' cs with
  | [first, last] => ⟨number first, number last⟩
  | _ => ⟨number cs, number cs⟩

/-- A table of runs. -/
def ofRuns (lines : List String) : CodeTable Unit :=
  ((entries lines).map fun entry => (run entry, ())).toArray

/-- A table of runs with numbers, which stand behind colons. -/
def ofValues (lines : List String) : CodeTable Nat :=
  ((entries lines).filterMap fun entry =>
    match pieces ':' entry with
    | [place, value] => some (run place, number value)
    | _ => none).toArray

/-- The characters with the code points that stand between plus signs. -/
def form (cs : List Char) : List Char :=
  if cs = [] then [] else (pieces '+' cs).map fun code => Char.ofNat (number code)

/-- The forms of characters in a row: `A*n` is the form `A` of all `n` of them, and `A~n` are the
`n` characters from `A` on, one for each. -/
def forms (cs : List Char) : List (List Char) :=
  match pieces '*' cs, pieces '~' cs with
  | [common, count], _ => List.replicate (number count) (form common)
  | _, [start, count] => (List.range (number count)).map fun i => [Char.ofNat (number start + i)]
  | _, _ => [form cs]

/-- The entry of one code point. -/
def single {α : Type} (code : Nat) (value : α) : CodeRun × α := (⟨code, code⟩, value)

/-- The entries that an entry of a table of forms stands for. Behind the code point of a character
and a colon stand the forms of this character and of those behind it, with commas between them.
Behind a run stands the first of the characters that the first, the third, the fifth character of
the run and so on have as their forms; these are as far from each other. -/
def formsOf (entry : List Char) : List (CodeRun × List Char) :=
  match pieces ':' entry with
  | [place, written] =>
      match pieces '-' place with
      | [first, last] =>
          (List.range ((number last - number first) / 2 + 1)).map fun i =>
            single (number first + 2 * i) [Char.ofNat (number written + 2 * i)]
      | _ =>
          ((pieces ',' written).flatMap forms).mapIdx fun i form => single (number place + i) form
  | _ => []

/-- A table of forms: lists of characters, one for each character. -/
def ofForms (lines : List String) : CodeTable (List Char) :=
  ((entries lines).flatMap formsOf).toArray

end CodeTable

end ReplicatedCache
