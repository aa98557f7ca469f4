set_option autoImplicit false

namespace ScriptSuite

structure Path where
  text : String
deriving DecidableEq, Repr, Inhabited

namespace Path

inductive Component where
  | root
  | current
  | parent
  | name (text : String)
deriving DecidableEq, Repr

def Component.compare : Component → Component → Ordering
  | .root, .root => .eq
  | .root, _ => .lt
  | _, .root => .gt
  | .current, .current => .eq
  | .current, _ => .lt
  | _, .current => .gt
  | .parent, .parent => .eq
  | .parent, _ => .lt
  | _, .parent => .gt
  | .name a, .name b => if a = b then .eq else if a < b then .lt else .gt

def splitSlashes : List Char → List (List Char)
  | [] => [[]]
  | c :: rest =>
      if c = '/' then [] :: splitSlashes rest
      else
        match splitSlashes rest with
        | first :: others => (c :: first) :: others
        | [] => [[c]]

def segments (path : Path) : List String :=
  (splitSlashes path.text.toList).map String.ofList

def isSilent (segment : String) : Bool :=
  segment == "" || segment == "."

def componentOf (segment : String) : Component :=
  if segment == ".." then .parent else .name segment

def componentsOfSegments : List String → List Component
  | [] => []
  | "" :: rest => if rest.isEmpty then [] else .root :: named rest
  | "." :: rest => .current :: named rest
  | first :: rest => componentOf first :: named rest
where
  named (segments : List String) : List Component :=
    (segments.filter (!isSilent ·)).map componentOf

def components (path : Path) : List Component :=
  componentsOfSegments path.segments

def isAbsolute (path : Path) : Bool :=
  ['/'].isPrefixOf path.text.toList

def compareComponents : List Component → List Component → Ordering
  | [], [] => .eq
  | [], _ => .lt
  | _, [] => .gt
  | a :: as, b :: bs =>
      match a.compare b with
      | .eq => compareComponents as bs
      | order => order

def compare (a b : Path) : Ordering :=
  compareComponents a.components b.components

def same (a b : Path) : Bool :=
  a.components == b.components

def join (left right : Path) : Path :=
  if right.isAbsolute then right
  else if left.text == "" || left.text.toList.getLast? == some '/' then ⟨left.text ++ right.text⟩
  else ⟨left.text ++ "/" ++ right.text⟩

def ofComponents (components : List Component) : Path :=
  components.foldl (fun path component =>
    path.join ⟨match component with
      | .root => "/"
      | .current => "."
      | .parent => ".."
      | .name text => text⟩) ⟨""⟩

def trimSegments (segments : List String) : List String :=
  (segments.reverse.dropWhile isSilent).reverse

def parent? (path : Path) : Option Path :=
  match path.segments with
  | [] => none
  | head :: tail =>
      match (trimSegments tail).reverse with
      | [] => if head == "" then none else some ⟨""⟩
      | _ :: before =>
          match trimSegments before.reverse with
          | [] => some ⟨if head == "" then "/" else head⟩
          | kept => some ⟨String.intercalate "/" (head :: kept)⟩

def ancestorsFrom : Nat → Path → List Path
  | 0, path => [path]
  | fuel + 1, path =>
      match path.parent? with
      | some parent => path :: ancestorsFrom fuel parent
      | none => [path]

def ancestors (path : Path) : List Path :=
  ancestorsFrom path.text.length path

def fileName? (path : Path) : Option String :=
  match path.components.getLast? with
  | some (.name text) => some text
  | _ => none

def afterLastPoint? : List Char → Option (List Char)
  | [] => none
  | c :: rest =>
      match afterLastPoint? rest with
      | some text => some text
      | none => if c = '.' then some rest else none

def extension? (path : Path) : Option String :=
  match path.fileName? with
  | none => none
  | some name =>
      match name.toList with
      | [] => none
      | _ :: rest => (afterLastPoint? rest).map String.ofList

def below? (base path : List Component) : Option (List Component) :=
  match base, path with
  | [], rest => some rest
  | _, [] => none
  | b :: base, c :: path => if b = c then below? base path else none

end Path

end ScriptSuite
