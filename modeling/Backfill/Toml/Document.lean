import Backfill.Toml.Number

/-!
# TOML documents

A document is a list of lines: a pair of a key and a value, or the header of a table or of an
element of an array of tables, to which the pairs after it belong. `parse` gives the members of the
document, or nothing where the text breaks a rule of the language.
-/

namespace Backfill.Toml

/-! ### Arrays and inline tables -/

/-- The elements of an array after its first bracket or a comma, with at most `fuel` of them. -/
def elements? (value? : Reader Value) : (fuel : Nat) → Reader (List Value)
  | 0, _ => none
  | fuel + 1, cs => do
    match ← skipLines? false cs with
    | ']' :: rest => return ([], rest)
    | cs =>
      let (v, rest) ← value? cs
      match ← skipLines? false rest with
      | ',' :: rest =>
        let (vs, rest) ← elements? value? fuel rest
        return (v :: vs, rest)
      | ']' :: rest => return ([v], rest)
      | _ => none

/-- A key, an equals sign and a value, with the rest after the value. -/
def pair? (value? : Reader Value) : Reader ((List String × String) × Value) := fun cs => do
  let (key, rest) ← key? cs
  let (v, rest) ← value? (skipBlanks (← char1? '=' rest))
  return ((key, v), rest)

/-- The pairs of an inline table, at most `fuel` of them, added to the ones before. -/
def members? (value? : Reader Value) : (fuel : Nat) → Entries → Reader Entries
  | 0, _, _ => none
  | fuel + 1, es, cs => do
    let (((path, key), v), rest) ← pair? value? cs
    let es ← es.insert? path key v
    match skipBlanks rest with
    | ',' :: rest => members? value? fuel es rest
    | '\x7d' :: rest => return (es, rest)
    | _ => none

/-- A value in which arrays and inline tables nest at most so deep. -/
def value? : (depth : Nat) → Reader Value
  | 0, cs => scalar? cs
  | depth + 1, cs =>
    match cs with
    | '[' :: rest => (elements? (value? depth) cs.length rest).map fun (vs, rest) => (.array vs, rest)
    | '\x7b' :: rest =>
      match skipBlanks rest with
      | '\x7d' :: rest => some (.table .inline [], rest)
      | rest =>
        (members? (value? depth) cs.length [] rest).map fun (es, rest) => (.table .inline es, rest)
    | cs => scalar? cs

/-! ### Lines -/

/-- A document of which some lines have been read. -/
structure Draft where
  entries : Entries := []
  /-- The path of the table to which further pairs belong. -/
  current : List String := []

namespace Draft

/-- The document with one more pair. -/
def add? (d : Draft) (path : List String) (key : String) (v : Value) : Option Draft := do
  let entries ← Entries.descend? .parent (fun _ es => es.insert? path key v) d.current .header d.entries
  return { d with entries := entries }

def openTable? (d : Draft) (path : List String) (key : String) : Option Draft := do
  return ⟨← d.entries.openTable? path key, path ++ [key]⟩

def openElement? (d : Draft) (path : List String) (key : String) : Option Draft := do
  return ⟨← d.entries.openElement? path key, path ++ [key]⟩

end Draft

/-- The lines of a document, at most `fuel` of them. -/
def lines? : (fuel : Nat) → Draft → List Char → Option Draft
  | 0, _, _ => none
  | fuel + 1, d, cs =>
    match skipBlanks cs with
    | [] => some d
    | '[' :: '[' :: rest => do
      let ((path, key), rest) ← key? rest
      let rest ← lineEnd? (← char1? ']' (← char1? ']' rest))
      lines? fuel (← d.openElement? path key) rest
    | '[' :: rest => do
      let ((path, key), rest) ← key? rest
      let rest ← lineEnd? (← char1? ']' rest)
      lines? fuel (← d.openTable? path key) rest
    | c :: rest =>
      if c = '\n' ∨ c = '\r' ∨ c = '#' then do
        let rest ← lineEnd? (c :: rest)
        lines? fuel d rest
      else do
        let (((path, key), v), rest) ← pair? (value? maxDepth) (c :: rest)
        let rest ← lineEnd? rest
        lines? fuel (← d.add? path key v) rest

/-- A byte order mark at the start is not part of a document. -/
def dropMark : List Char → List Char
  | '\ufeff' :: rest => rest
  | cs => cs

/-- The members of a document. -/
def parse? (text : String) : Option Entries :=
  let cs := dropMark text.toList
  (lines? (cs.length + 1) {} cs).map (·.entries)

end Backfill.Toml
