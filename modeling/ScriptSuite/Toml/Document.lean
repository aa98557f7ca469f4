import ScriptSuite.Toml.Reader

set_option autoImplicit false

namespace ScriptSuite.Toml

open Reader

inductive TableOrigin where
  | defined
  | passed
  | dotted
deriving DecidableEq, Repr

inductive Draft where
  | value (value : Value)
  | table (origin : TableOrigin) (entries : List (String × Draft))
  | tables (newest : List (String × Draft)) (older : List Draft)

abbrev Entries := List (String × Draft)

mutual

def Draft.toValue : Draft → Value
  | .value value => value
  | .table _ entries => .table (entriesToValues entries)
  | .tables newest older => .array (draftsToValues older ++ [.table (entriesToValues newest)])

def entriesToValues : List (String × Draft) → List (String × Value)
  | [] => []
  | (key, draft) :: rest => (key, draft.toValue) :: entriesToValues rest

def draftsToValues : List Draft → List Value
  | [] => []
  | draft :: rest => draftsToValues rest ++ [draft.toValue]

end

def setEntry (key : String) (draft : Draft) : Entries → Entries
  | [] => [(key, draft)]
  | (other, old) :: rest => if other = key then (key, draft) :: rest else (other, old) :: setEntry key draft rest

def atPath (change : Entries → Option Entries) : List String → Entries → Option Entries
  | [], entries => change entries
  | key :: path, entries =>
      match entries.lookup key with
      | none => (atPath change path []).map fun inner => setEntry key (.table .passed inner) entries
      | some (.table origin inner) =>
          (atPath change path inner).map fun inner => setEntry key (.table origin inner) entries
      | some (.tables newest older) =>
          (atPath change path newest).map fun newest => setEntry key (.tables newest older) entries
      | some (.value _) => none

def openTable (key : String) (entries : Entries) : Option Entries :=
  match entries.lookup key with
  | none => some (setEntry key (.table .defined []) entries)
  | some (.table .passed inner) => some (setEntry key (.table .defined inner) entries)
  | some _ => none

def openArrayTable (key : String) (entries : Entries) : Option Entries :=
  match entries.lookup key with
  | none => some (setEntry key (.tables [] []) entries)
  | some (.tables newest older) => some (setEntry key (.tables [] (.table .defined newest :: older)) entries)
  | some _ => none

def addDotted (value : Value) : List String → Entries → Option Entries
  | [], _ => none
  | [key], entries =>
      if (entries.lookup key).isSome then none else some (entries ++ [(key, .value value)])
  | key :: path, entries =>
      match entries.lookup key with
      | none => (addDotted value path []).map fun inner => setEntry key (.table .dotted inner) entries
      | some (.table .dotted inner) =>
          (addDotted value path inner).map fun inner => setEntry key (.table .dotted inner) entries
      | some (.table .passed inner) =>
          -- Such a table may be passed through, but the value has to go into one of dotted keys below it.
          if path.length ≤ 1 then none
          else (addDotted value path inner).map fun inner => setEntry key (.table .passed inner) entries
      | some _ => none

def maxDepth : Nat := 80

mutual

def valueFrom : Nat → Reader Value
  | 0 => failure
  | fuel + 1 => do
      match ← peek? with
      | some '[' =>
          let _ ← next
          skipGap
          return .array (← arrayFrom fuel)
      | some '\x7b' =>
          let _ ← next
          skipTabs
          if ← accept ['\x7d'] then return .table []
          return .table (entriesToValues (← inlineFrom fuel []))
      | some '"' | some '\'' => return .string (← string)
      | some 't' =>
          expect ['t', 'r', 'u', 'e']
          return .boolean true
      | some 'f' =>
          expect ['f', 'a', 'l', 's', 'e']
          return .boolean false
      | _ => numeric

def arrayFrom : Nat → Reader (List Value)
  | 0 => failure
  | fuel + 1 => do
      if ← accept [']'] then return []
      let value ← valueFrom fuel
      skipGap
      if ← accept [','] then
        skipGap
        return value :: (← arrayFrom fuel)
      else
        expect [']']
        return [value]

def inlineFrom : Nat → Entries → Reader Entries
  | 0, _ => failure
  | fuel + 1, entries => do
      let key ← dottedKey
      expect ['=']
      skipTabs
      let value ← valueFrom fuel
      skipTabs
      match addDotted value key entries with
      | none => failure
      | some entries =>
          if ← accept [','] then inlineFrom fuel entries
          else
            expect ['\x7d']
            return entries

end

structure Builder where
  entries : Entries
  current : List String

def Builder.openHeader (builder : Builder) (isArray : Bool) (path : List String) : Option Builder :=
  match path.reverse with
  | [] => none
  | last :: before =>
      let change := if isArray then openArrayTable last else openTable last
      (atPath change before.reverse builder.entries).map fun entries => ⟨entries, path⟩

def Builder.addKey (builder : Builder) (key : List String) (value : Value) : Option Builder :=
  (atPath (addDotted value key) builder.current builder.entries).map fun entries => { builder with entries }

def header (builder : Builder) : Reader Builder := do
  let isArray ← accept ['[', '[']
  if !isArray then expect ['[']
  let path ← dottedKey
  require (path.length < maxDepth)
  expect (if isArray then [']', ']'] else [']'])
  endLine
  match builder.openHeader isArray path with
  | some builder => return builder
  | none => failure

def keyValue (builder : Builder) : Reader Builder := do
  let key ← dottedKey
  require (key.length < maxDepth)
  expect ['=']
  skipTabs
  let value ← valueFrom (← remaining)
  endLine
  match builder.addKey key value with
  | some builder => return builder
  | none => failure

def linesFrom : Nat → Builder → Reader Builder
  | 0, builder => return builder
  | fuel + 1, builder => do
      skipTabs
      match ← peek? with
      | none => return builder
      | some '[' => linesFrom fuel (← header builder)
      | some '#' | some '\n' | some '\r' =>
          endLine
          linesFrom fuel builder
      | some _ => linesFrom fuel (← keyValue builder)

def parse? (text : String) : Option Value :=
  let characters := text.toList
  let body := match characters with
    | '\uFEFF' :: rest => rest
    | rest => rest
  match (linesFrom (body.length + 1) ⟨[], []⟩).run body with
  | some (builder, []) => some (.table (entriesToValues builder.entries))
  | _ => none

end ScriptSuite.Toml
