import UsageReports.Toml.Scalar

/-!
# Reading TOML

A document is a list of lines: keys with values, and headers that open a table. A table is defined
once; tables that a longer key only passes through may be opened later, those that a dotted key made
may not.
-/

namespace UsageReports.Toml

/-- A place in the document under construction. -/
inductive Node where
  | value (d : Data)
  /-- A table. `implicit` says that no header opened it, `dotted` that a dotted key made it. -/
  | table (implicit dotted : Bool) (entries : List (String × Node))
  /-- The tables that one repeated header opened. -/
  | tables (items : List Node)

/-- A table under construction. -/
structure Table where
  implicit : Bool
  dotted : Bool
  entries : List (String × Node)

/-- A table as a place of the document. -/
def Table.toNode (t : Table) : Node := .table t.implicit t.dotted t.entries

/-- Set the entry of a key: in its place, or at the end. -/
def setEntry (key : String) (n : Node) : List (String × Node) → List (String × Node)
  | [] => [(key, n)]
  | (k, old) :: rest => if k = key then (k, n) :: rest else (k, old) :: setEntry key n rest

/-- Change the table that a path leads to, making the tables on the way that are missing. With
`dotted` the path is the front of a dotted key, which may not enter a table that a header opened. -/
def descend (dotted : Bool) (change : Table → Option Table) : List String → Table → Option Table
  | [], t => change t
  | key :: path, t =>
    match t.entries.lookup key with
    | none => do
      let child ← descend dotted change path ⟨true, dotted, []⟩
      pure { t with entries := setEntry key child.toNode t.entries }
    | some (.table i d es) =>
      if dotted ∧ ¬ i then none
      else do
        let child ← descend dotted change path ⟨i, d, es⟩
        pure { t with entries := setEntry key child.toNode t.entries }
    | some (.tables items) =>
      match items.getLast? with
      | some (.table i d es) => do
        let child ← descend dotted change path ⟨i, d, es⟩
        pure { t with entries := setEntry key (.tables (items.dropLast ++ [child.toNode])) t.entries }
      | _ => none
    | some (.value _) => none

/-- Put the value of a key into a table. A plain key may not add to a table that a dotted key made,
nor a dotted key to any other; no key may be given twice. -/
def putValue (path : List String) (key : String) (n : Node) (t : Table) : Option Table :=
  descend true (fun t =>
    if t.dotted = path.isEmpty ∨ (t.entries.lookup key).isSome then none
    else some { t with entries := t.entries ++ [(key, n)] }) path t

mutual

/-- The data of a place of the document. -/
def Node.toData : Node → Data
  | .value d => d
  | .table _ _ entries => .table (entryData entries)
  | .tables items => .list (itemData items)

/-- The data of the entries of a table. -/
def entryData : List (String × Node) → List (String × Data)
  | [] => []
  | (key, n) :: rest => (key, n.toData) :: entryData rest

/-- The data of several tables. -/
def itemData : List Node → List Data
  | [] => []
  | n :: rest => n.toData :: itemData rest

end

/-- Put the pairs of an inline table together. -/
def inlineTable? (pairs : List (List String × Data)) : Option Data :=
  let put (t : Table) (pair : List String × Data) : Option Table :=
    pair.1.getLast?.bind fun last => putValue pair.1.dropLast last (.value pair.2) t
  (pairs.foldlM put ⟨true, false, []⟩).map fun t => t.toNode.toData

mutual

/-- Read a value. `depth` bounds how deep lists and tables are nested in it, `fuel` its length. -/
def value? : Nat → Nat → List Char → Option (Data × List Char)
  | 0, _, _ => none
  | fuel + 1, depth, cs =>
    match cs with
    | '"' :: _ | '\'' :: _ => (text? cs).map fun (t, rest) => (.text (String.ofList t), rest)
    | '[' :: rest =>
      match depth with
      | 0 => none
      | depth + 1 => (items? fuel depth rest).map fun (items, rest) => (.list items, rest)
    | '\x7b' :: rest =>
      match depth with
      | 0 => none
      | depth + 1 =>
        match skipBlanks rest with
        | '\x7d' :: rest => some (.table [], rest)
        | rest => do
          let (pairs, rest) ← pairs? fuel depth rest
          (inlineTable? pairs).map (·, rest)
    | 't' :: 'r' :: 'u' :: 'e' :: rest => some (.bool true, rest)
    | 'f' :: 'a' :: 'l' :: 's' :: 'e' :: rest => some (.bool false, rest)
    | _ =>
      match moment? cs with
      | some (m, rest) => some (momentData m, rest)
      | none => number? cs

/-- Read the items of a list up to its closing bracket. Line breaks and comments may stand between
them, and a comma after the last. -/
def items? : Nat → Nat → List Char → Option (List Data × List Char)
  | 0, _, _ => none
  | fuel + 1, depth, cs =>
    match skipLines (cs.length + 1) cs with
    | ']' :: rest => some ([], rest)
    | cs => do
      let (item, rest) ← value? fuel depth cs
      match skipLines (rest.length + 1) rest with
      | ',' :: rest => do
        let (items, rest) ← items? fuel depth rest
        pure (item :: items, rest)
      | ']' :: rest => pure ([item], rest)
      | _ => none

/-- Read the pairs of an inline table that has at least one, up to its closing brace. -/
def pairs? : Nat → Nat → List Char → Option (List (List String × Data) × List Char)
  | 0, _, _ => none
  | fuel + 1, depth, cs => do
    let (key, rest) ← key? cs
    let '=' :: rest := rest | none
    let (d, rest) ← value? fuel depth (skipBlanks rest)
    match skipBlanks rest with
    | ',' :: rest => do
      let (pairs, rest) ← pairs? fuel depth rest
      pure ((key, d) :: pairs, rest)
    | '\x7d' :: rest => pure ([(key, d)], rest)
    | _ => none

end

/-- The document under construction: what is finished, and the table that the last header opened. -/
structure Draft where
  root : Table
  current : Table
  path : List String
  repeated : Bool

/-- Put the table of the last header in its place. -/
def Draft.close? (d : Draft) : Option Table :=
  match d.path.getLast? with
  | none => some d.current
  | some key =>
    descend false (fun parent =>
      match parent.entries.lookup key, d.repeated with
      | none, true =>
        some { parent with entries := parent.entries ++ [(key, .tables [d.current.toNode])] }
      | some (.tables items), true =>
        some { parent with
          entries := setEntry key (.tables (items ++ [d.current.toNode])) parent.entries }
      | none, false => some { parent with entries := parent.entries ++ [(key, d.current.toNode)] }
      | _, _ => none) d.path.dropLast d.root

/-- The table that a path leads to, where all tables on the way are there. -/
def tableAt? : List String → Table → Option Table
  | [], t => some t
  | key :: path, t =>
    match t.entries.lookup key with
    | some (.table i d es) => tableAt? path ⟨i, d, es⟩
    | some (.tables items) =>
      match items.getLast? with
      | some (.table i d es) => tableAt? path ⟨i, d, es⟩
      | _ => none
    | _ => none

/-- Open the table of a header. A table that longer headers made on their way goes on; any other of
its name is in the way. -/
def Draft.openTable? (d : Draft) (path : List String) : Option Draft := do
  let root ← d.close?
  let key ← path.getLast?
  let entries := match (tableAt? path.dropLast root).bind (·.entries.lookup key) with
    | some (.table _ _ entries) => entries
    | _ => []
  let root ← descend false (fun parent =>
    match parent.entries.lookup key with
    | none | some (.table true false _) =>
      some { parent with entries := parent.entries.filter (·.1 ≠ key) }
    | some _ => none) path.dropLast root
  pure ⟨root, ⟨false, false, entries⟩, path, false⟩

/-- Open one more table of a repeated header. -/
def Draft.openRepeated? (d : Draft) (path : List String) : Option Draft := do
  let root ← d.close?
  let key ← path.getLast?
  let root ← descend false (fun parent =>
    match parent.entries.lookup key with
    | none | some (.tables _) => some parent
    | _ => none) path.dropLast root
  pure ⟨root, ⟨false, false, []⟩, path, true⟩

/-- Put the value of a key into the table of the last header. -/
def Draft.put? (d : Draft) (key : List String) (value : Data) : Option Draft := do
  let last ← key.getLast?
  let current ← putValue key.dropLast last (.value value) d.current
  pure { d with current }

/-- Read one line with the draft so far, and give what follows it. -/
def line? (d : Draft) (cs : List Char) : Option (Draft × List Char) :=
  match skipBlanks cs with
  | '[' :: '[' :: rest => do
    let (path, rest) ← key? rest
    let ']' :: ']' :: rest := rest | none
    let rest ← lineEnd? rest
    (d.openRepeated? path).map (·, rest)
  | '[' :: rest => do
    let (path, rest) ← key? rest
    let ']' :: rest := rest | none
    let rest ← lineEnd? rest
    (d.openTable? path).map (·, rest)
  | cs =>
    match lineEnd? cs with
    | some rest => some (d, rest)
    | none => do
      let (key, rest) ← key? cs
      let '=' :: rest := rest | none
      let (v, rest) ← value? (rest.length + 1) maxDepth (skipBlanks rest)
      let rest ← lineEnd? rest
      (d.put? key v).map (·, rest)

/-- Read all lines; `fuel` bounds their number. -/
def lines? : Nat → Draft → List Char → Option Draft
  | _, d, [] => some d
  | 0, _, _ :: _ => none
  | fuel + 1, d, cs => (line? d cs).bind fun (d, rest) => lines? fuel d rest

/-- Drop a byte order mark at the start. -/
def skipMark : List Char → List Char
  | '\uFEFF' :: cs => cs
  | cs => cs

/-- The data of a text that is a TOML document. -/
def document? (s : String) : Option Data := do
  let cs := skipMark s.toList
  let d ← lines? (cs.length + 1) ⟨⟨false, false, []⟩, ⟨false, false, []⟩, [], false⟩ cs
  let root ← d.close?
  pure root.toNode.toData

end UsageReports.Toml
