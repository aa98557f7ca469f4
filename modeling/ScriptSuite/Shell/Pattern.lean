set_option autoImplicit false

namespace ScriptSuite.Shell

abbrev Marked := Char × Bool

def memberOf (c : Char) : List Char → Bool
  | low :: '-' :: high :: rest => (low ≤ c && c ≤ high) || memberOf c rest
  | member :: rest => member == c || memberOf c rest
  | [] => false

def bracket? (pattern : List Marked) : Option (Bool × List Char × List Marked) :=
  let (negated, inside) := match pattern with
    | ('!', true) :: rest => (true, rest)
    | rest => (false, rest)
  -- A bracket that comes first stands for itself.
  let first := inside.take 1
  let others := inside.drop 1
  let members := others.takeWhile fun mark => mark.1 != ']'
  match others.dropWhile fun mark => mark.1 != ']' with
  | _ :: behind => some (negated, (first ++ members).map (·.1), behind)
  | [] => none

def matchesFrom : Nat → List Marked → List Char → Bool
  | 0, pattern, text => pattern.isEmpty && text.isEmpty
  | _ + 1, [], text => text.isEmpty
  | fuel + 1, ('*', true) :: rest, text =>
      matchesFrom fuel rest text
        || match text with
          | [] => false
          | _ :: behind => matchesFrom fuel (('*', true) :: rest) behind
  | _ + 1, _ :: _, [] => false
  | fuel + 1, ('?', true) :: rest, _ :: behind => matchesFrom fuel rest behind
  | fuel + 1, ('[', true) :: rest, c :: behind =>
      match bracket? rest with
      | some (negated, members, pattern) => memberOf c members != negated && matchesFrom fuel pattern behind
      | none => c == '[' && matchesFrom fuel rest behind
  | fuel + 1, (d, _) :: rest, c :: behind => c == d && matchesFrom fuel rest behind

def matchesPattern (pattern : List Marked) (text : List Char) : Bool :=
  matchesFrom (pattern.length + text.length + 1) pattern text

def hasWildcard (pattern : List Marked) : Bool :=
  pattern.any fun mark => mark.2 && (mark.1 == '*' || mark.1 == '?' || mark.1 == '[')

def dropFront (pattern : List Marked) (longest : Bool) (text : List Char) : List Char :=
  let lengths := (List.range (text.length + 1)).filter fun n => matchesPattern pattern (text.take n)
  match if longest then lengths.getLast? else lengths.head? with
  | some n => text.drop n
  | none => text

def dropBack (pattern : List Marked) (longest : Bool) (text : List Char) : List Char :=
  let lengths := (List.range (text.length + 1)).filter fun n => matchesPattern pattern (text.drop n)
  match if longest then lengths.head? else lengths.getLast? with
  | some n => text.take n
  | none => text

end ScriptSuite.Shell
