import SchemaNotation.Notation.Constraint
import SchemaNotation.Notation.TypeExpr

/-! Reading a field line.

A field line is `sigils names : type [constraints] # comment`, as in
`* ! email, mail : String(255) [UK,INDEX] # login`. Sigils may stand apart (`* - name`). The
names are a comma list; the type text is what remains after the constraint groups are taken
out. Faults in the constraint groups are found before faults in the type. -/

namespace SchemaNotation.Notation

open Text

/-- The sigils at the start of `cs`, in reverse onto `acc`, and the characters after them.
Blanks between sigils are skipped; a blank before anything else ends the sigils. -/
def sigilsFrom : List Char → List Sigil → List Sigil × List Char
  | [], acc => (acc.reverse, [])
  | c :: rest, acc =>
    if isBlank c && !acc.isEmpty then
      match dropBlanks rest with
      | d :: _ => if (Sigil.ofChar? d).isSome then sigilsFrom rest acc else (acc.reverse, c :: rest)
      | [] => (acc.reverse, c :: rest)
    else
      match Sigil.ofChar? c with
      | some s => sigilsFrom rest (s :: acc)
      | none => (acc.reverse, c :: rest)

/-- Reads the sigils that open a field line, and the rest of the line, trimmed. -/
def readSigils (text : String) (line : Option Nat) : Parse (List Sigil × String) :=
  match sigilsFrom (trimList text.toList) [] with
  | ([], _) => throw ⟨.missingSigil, line⟩
  | (sigils, rest) => pure (sigils, trim (String.ofList rest))

/-- Reads a field line. -/
def readField (text : String) (line : Option Nat) : Parse Field := do
  let (sigils, rest) ← readSigils text line
  let some (namesPart, remainder) := breakOn? rest ":"
    | throw ⟨.missingColon (trim text), line⟩
  let names := (namesPart.toList.splitOn ',').map fun cs => trim (String.ofList cs)
  if names.any (·.isEmpty) then throw ⟨.emptyFieldName (trim namesPart), line⟩
  let (content, comment) := splitComment (trim remainder)
  let (typeText, groups) ← extractGroups content line
  if typeText.isEmpty then throw ⟨.missingFieldType (", ".intercalate names), line⟩
  let constraints ← groups.flatMapM (readConstraintList · line)
  let type ← readType typeText line
  return { sigils, names, type, constraints, comment }

end SchemaNotation.Notation
