import Migrations.Toml.Value

namespace Migrations.Toml

def readHeader (closing : Text) (t : Text) : Option (List Key × Key × Text) := do
  let (path, key, rest) ← readKey t
  let rest ← Text.dropLead? rest closing
  return (path, key, rest)

/-- Reads lines into a document. `current` leads to the table whose header came last. The fuel
bounds the number of lines. -/
def readLines : Nat → Item → List Key → Text → Option Item
  | 0, _, _, _ => none
  | fuel + 1, root, current, t =>
    let t := skipBlanks t
    match t with
    | [] => some root
    | '[' :: '[' :: inner => do
      let (path, key, rest) ← readHeader "]]" inner
      let root ← root.openElement? path key (.between t rest)
      readLines fuel root (path ++ [key]) (← closeLine? rest)
    | '[' :: inner => do
      let (path, key, rest) ← readHeader "]" inner
      let root ← root.openTable? path key (.between t rest)
      readLines fuel root (path ++ [key]) (← closeLine? rest)
    | c :: _ =>
      if c = '#' ∨ c = '\n' ∨ c = '\r' then do
        readLines fuel root current (← closeLine? t)
      else do
        let (path, key, item, rest) ← readPair (readValue (depthLimit - 1)) t
        let root ← root.insertBelow? current path key item
        readLines fuel root current (← closeLine? rest)

def byteOrderMark : Char := '\uFEFF'

def read (source : Text) : Option Item :=
  let t := if source.head? = some byteOrderMark then source.tail else source
  readLines (t.length + 1) .emptyTable [] t

end Migrations.Toml
